import Notetaker.LoopHistory

/-!
# Outcomes and the polls that justify them

What the loops return follows from what they remember: each exit that is a decision about the call is
backed by the polls up to the one at which it is taken.
-/

open PythonText PythonFloat

namespace Notetaker

section Decides

variable {cfg : LoopConfig} {s : LoopState} {poll : Poll} {controls : Bool} {gone : Prop}
  {exitCode : BotExit} {endReason : Option EndReason} {reason : Text} {started : Bool}

namespace Decides

theorem of_neverAdmitted (h : Decides cfg s poll controls gone exitCode endReason reason started)
    (hexit : exitCode = .neverAdmitted) :
    s.recordingStarted = false ∧ poll.readsAdmitted = false ∧
      cfg.timeouts.waitingRoomS ≤ poll.now - s.start := by
  cases h with
  | neverAdmitted _ hs hadmitted htime => exact ⟨hs, hadmitted, htime⟩
  | _ => cases hexit

theorem of_giveUp (h : Decides cfg s poll controls gone exitCode endReason reason started)
    (hend : endReason = some .giveUp) :
    s.recordingStarted ∧ cfg.timeouts.maxRecordS ≤ poll.now - s.admittedAt := by
  cases h with
  | maxDuration _ hs htime => exact ⟨hs, htime⟩
  | _ => cases hend

theorem of_alone (h : Decides cfg s poll controls gone exitCode endReason reason started)
    (hend : endReason = some .alone) :
    s.recordingStarted ∧ poll.room = some .alone ∧ s.sawOthers ∧
      ∃ since ∈ s.aloneSince, cfg.timeouts.aloneGraceS ≤ poll.now - since := by
  cases h with
  | alone _ since hs _ hroom hothers hsince htime => exact ⟨hs, hroom, hothers, since, hsince, htime⟩
  | _ => cases hend

theorem of_joinTimeout (h : Decides cfg s poll controls gone exitCode endReason reason started)
    (hexit : exitCode = .joinTimeout) :
    s.recordingStarted ∧ controls ∧ poll.room = some .alone ∧ s.sawOthers = false ∧
      cfg.timeouts.emptyRoomS ≤ poll.now - s.admittedAt := by
  cases h with
  | emptyRoom _ hs hcontrols hroom hothers htime => exact ⟨hs, hcontrols, hroom, hothers, htime⟩
  | _ => cases hexit

theorem of_unavailable (h : Decides cfg s poll controls gone exitCode endReason reason started)
    (hexit : exitCode = .botError) (hreason : reason = unavailableReason cfg) :
    s.recordingStarted ∧ controls ∧ poll.room = some .unknown ∧ s.sawOthers = false ∧
      cfg.timeouts.emptyRoomS ≤ poll.now - s.unknownSince.getD poll.now := by
  cases h with
  | unknownRoom hs hcontrols hroom hothers htime => exact ⟨hs, hcontrols, hroom, hothers, htime⟩
  | refused _ _ hne => exact absurd hreason hne
  | recorderDied _ _ _ hne => exact absurd hreason hne
  | _ => cases hexit

theorem of_callEnded (h : Decides cfg s poll controls gone exitCode endReason reason started)
    (hend : endReason = some .callEnded) :
    (∃ detail, poll.ended = .ok (true, detail)) ∨
      (gone ∧ endedConfirmationPolls ≤ s.missedControls + 1) := by
  cases h with
  | ended _ _ hended => exact .inl ⟨_, hended⟩
  | controlsGone _ _ _ hgone hmissed => exact .inr ⟨hgone, hmissed⟩
  | _ => cases hend

theorem of_removed (h : Decides cfg s poll controls gone exitCode endReason reason started)
    (hend : exitCode = .removed ∨ endReason = some .removed) :
    ∃ detail, poll.removed = .ok (true, detail) := by
  cases h with
  | removed _ _ hremoved => exact ⟨_, hremoved⟩
  | _ => rcases hend with hend | hend <;> cases hend

end Decides

end Decides

/-! ## The justification -/

section Justified

variable {P : Type} (view : LoopView P) (cfg : LoopConfig) (start : ℚ)

/-- The outcome of a loop that has taken the polls `before` and returns at the poll `p`. -/
structure Justified (before : List P) (p : P) (outcome : BotOutcome) : Prop where
  neverAdmitted : outcome.exitCode = .neverAdmitted →
    (∀ q ∈ before ++ [p], (view.poll q).readsAdmitted = false) ∧
      cfg.timeouts.waitingRoomS ≤ (view.poll p).now - start
  giveUp : outcome.endReason = some .giveUp → ∃ adm, view.AdmittedAt before adm ∧
    cfg.timeouts.maxRecordS ≤ (view.poll p).now - adm
  alone : outcome.endReason = some .alone →
    (∃ q ∈ view.readings before, (view.poll q).room = some .others) ∧
      ∃ since, view.HeldSince .alone (before ++ [p]) since ∧
        cfg.timeouts.aloneGraceS ≤ (view.poll p).now - since
  emptyRoom : outcome.exitCode = .joinTimeout →
    (∀ q ∈ view.readings (before ++ [p]), (view.poll q).room ≠ some .others) ∧
      (view.controls p ∧ (view.poll p).room = some .alone) ∧ ∃ adm, view.AdmittedAt before adm ∧
        cfg.timeouts.emptyRoomS ≤ (view.poll p).now - adm
  unavailable : outcome.exitCode = .botError → outcome.reason = unavailableReason cfg →
    (∀ q ∈ view.readings (before ++ [p]), (view.poll q).room ≠ some .others) ∧
      ∃ since, view.HeldSince .unknown (before ++ [p]) since ∧
        cfg.timeouts.emptyRoomS ≤ (view.poll p).now - since
  callEnded : outcome.endReason = some .callEnded →
    (∃ detail, (view.poll p).ended = .ok (true, detail)) ∨
      (view.gone p ∧ ∃ earlier q r, before = earlier ++ [q, r] ∧ view.gone q ∧ view.gone r)
  removed : outcome.exitCode = .removed ∨ outcome.endReason = some .removed →
    ∃ detail, (view.poll p).removed = .ok (true, detail)

end Justified

section Justified

variable {P : Type} {view : LoopView P} {cfg : LoopConfig} {start : ℚ}
  {loop : PollingLoop LoopState P BotEvent PageError BotOutcome}

theorem remembers_of_run (hloop : Follows loop view cfg) {polls : List P} {t : LoopState}
    (hrun : (loop.run (.initial start) polls).2 = .polling t) : Remembers view start polls t := by
  have hstep : ∀ before s poll u, Remembers view start before s →
      (loop.step s poll).result = .ok (.inl u) → Remembers view start (before ++ [poll]) u := by
    intro before s poll u hs hresult
    exact hs.goesOn (hloop s poll (.inl u) hresult)
  exact loop.run_history hstep (remembers_initial view start) hrun

namespace Remembers

variable {before : List P} {p : P} {s : LoopState}

theorem no_others (h : Remembers view start before s) (hs : s.recordingStarted)
    (hothers : s.sawOthers = false) (hcontrols : view.controls p)
    (hroom : (view.poll p).room ≠ some .others) :
    ∀ q ∈ view.readings (before ++ [p]), (view.poll q).room ≠ some .others := by
  intro q hq hseen
  have hsaw := (h.others_reading hs hcontrols hroom).2 ⟨q, hq, hseen⟩
  rw [hothers] at hsaw
  cases hsaw

theorem two_gone (h : Remembers view start before s)
    (hmissed : endedConfirmationPolls ≤ s.missedControls + 1) :
    ∃ earlier q r, before = earlier ++ [q, r] ∧ view.gone q ∧ view.gone r := by
  obtain ⟨pre, last, rfl, hlength, hlast⟩ := h.missed
  have htwo : 2 ≤ last.length := by
    rw [hlength]
    unfold endedConfirmationPolls at hmissed
    omega
  obtain ⟨most, hmost⟩ : ∃ most, most = last.take (last.length - 2) := ⟨_, rfl⟩
  obtain ⟨q, r, hqr⟩ : ∃ q r, last.drop (last.length - 2) = [q, r] := by
    apply List.length_eq_two.1
    rw [List.length_drop]
    omega
  have hsplit : last = most ++ [q, r] := by
    rw [hmost, ← hqr, List.take_append_drop]
  refine ⟨pre ++ most, q, r, ?_, ?_, ?_⟩
  · rw [hsplit, List.append_assoc]
  · exact hlast q (by simp [hsplit])
  · exact hlast r (by simp [hsplit])

theorem justified (h : Remembers view start before s) {outcome : BotOutcome}
    (hdecides : Decides cfg s (view.poll p) (view.controls p) (view.gone p) outcome.exitCode
      outcome.endReason outcome.reason outcome.recordingStarted) :
    Justified view cfg start before p outcome where
  neverAdmitted hexit := by
    obtain ⟨hs, hadmitted, htime⟩ := hdecides.of_neverAdmitted hexit
    rw [h.start] at htime
    refine ⟨fun q hq => ?_, htime⟩
    rcases List.mem_append.1 hq with hq | hq
    · exact (h.waiting hs).1 q hq
    · rw [List.mem_singleton.1 hq]
      exact hadmitted
  giveUp hend := by
    obtain ⟨hs, htime⟩ := hdecides.of_giveUp hend
    exact ⟨s.admittedAt, h.admitted hs, htime⟩
  alone hend := by
    obtain ⟨hs, hroom, hothers, since, hsince, htime⟩ := hdecides.of_alone hend
    exact ⟨h.others.1 hothers, since,
      (h.alone since hsince).append (h.admitted hs) fun _ => hroom, htime⟩
  emptyRoom hexit := by
    obtain ⟨hs, hcontrols, hroom, hothers, htime⟩ := hdecides.of_joinTimeout hexit
    exact ⟨h.no_others hs hothers hcontrols (by simp [hroom]), ⟨hcontrols, hroom⟩, s.admittedAt,
      h.admitted hs, htime⟩
  unavailable hexit hreason := by
    obtain ⟨hs, hcontrols, hroom, hothers, htime⟩ := hdecides.of_unavailable hexit hreason
    refine ⟨h.no_others hs hothers hcontrols (by simp [hroom]), ?_⟩
    cases hsince : s.unknownSince with
    | some since =>
        rw [hsince] at htime
        exact ⟨since, (h.unknown hs since hsince).append (h.admitted hs) fun _ => hroom, htime⟩
    | none =>
        rw [hsince] at htime
        exact ⟨(view.poll p).now, .opens (h.reading hs hcontrols) hroom, htime⟩
  callEnded hend := by
    rcases hdecides.of_callEnded hend with hended | ⟨hgone, hmissed⟩
    · exact .inl hended
    · exact .inr ⟨hgone, h.two_gone hmissed⟩
  removed hend := hdecides.of_removed hend

end Remembers

end Justified

/-- The loop has polled `before` and returns the outcome at the poll `p`. -/
def ReturnsAt {P : Type} (loop : PollingLoop LoopState P BotEvent PageError BotOutcome) (start : ℚ)
    (before : List P) (p : P) (outcome : BotOutcome) : Prop :=
  ∃ t, (loop.run (.initial start) before).2 = .polling t ∧ (loop.step t p).result = .ok (.inr outcome)

section Justified

variable {P : Type} {view : LoopView P} {cfg : LoopConfig} {start : ℚ}
  {loop : PollingLoop LoopState P BotEvent PageError BotOutcome} {polls before : List P} {p : P}
  {outcome : BotOutcome}

theorem exists_returnsAt (h : (loop.run (.initial start) polls).2 = .returned outcome) :
    ∃ before p after, polls = before ++ p :: after ∧ ReturnsAt loop start before p outcome := by
  obtain ⟨before, p, after, t, hpolls, hbefore, hstep, -⟩ := loop.exists_returning_poll h
  exact ⟨before, p, after, hpolls, t, hbefore, hstep⟩

theorem ReturnsAt.justified (h : ReturnsAt loop start before p outcome)
    (hloop : Follows loop view cfg) : Justified view cfg start before p outcome := by
  obtain ⟨t, hbefore, hstep⟩ := h
  exact (remembers_of_run hloop hbefore).justified (hloop t p (.inr outcome) hstep)

end Justified

/-- Whatever the loops return at a poll is justified by the polls up to it. -/
theorem outcome_justified (cfg : LoopConfig) (start : ℚ) (outcome : BotOutcome) :
    (∀ polls, (Meet.runCallLoop cfg start polls).2 = .returned outcome →
      ∃ before p after, polls = before ++ p :: after ∧
        ReturnsAt (Meet.loop cfg) start before p outcome ∧
        Justified Meet.view cfg start before p outcome) ∧
    (∀ polls, (Zoom.runCallLoop cfg start polls).2 = .returned outcome →
      ∃ before p after, polls = before ++ p :: after ∧
        ReturnsAt (Zoom.loop cfg) start before p outcome ∧
        Justified Zoom.view cfg start before p outcome) := by
  constructor
  · intro polls hrun
    have hmeet : ((Meet.loop cfg).run (.initial start) polls).2 = .returned outcome := hrun
    obtain ⟨before, p, after, hpolls, hreturns⟩ := exists_returnsAt hmeet
    exact ⟨before, p, after, hpolls, hreturns, hreturns.justified (Meet.follows cfg)⟩
  · intro polls hrun
    have hzoom : ((Zoom.loop cfg).run (.initial start) polls).2 = .returned outcome := hrun
    obtain ⟨before, p, after, hpolls, hreturns⟩ := exists_returnsAt hzoom
    exact ⟨before, p, after, hpolls, hreturns, hreturns.justified (Zoom.follows cfg)⟩

/-! ### A room that the others leave -/

def aloneReason : Text :=
  concat ["bot alone after others left; alone grace of ",
    reprFloat sampleConfig.timeouts.aloneGraceS, " seconds elapsed"]

def aloneOutcome : BotOutcome :=
  ⟨.ok, some .alone, aloneReason, true, concat_ne_nil (by decide) _, rfl⟩

def zoomCallPoll (now : ℚ) : ZoomPoll :=
  { sampleRest now with admitted := .ok (true, []), inCallControls := .ok (true, []) }

/-- A reading of two participants, and from then on the bot alone. -/
def leftInMeet : List MeetPoll :=
  [admittedPoll 2, { admittedPoll 4 with participantCount := .ok (some 2, []) },
    { admittedPoll 6 with participantCount := .ok (some 1, []), botAlone := .ok (true, []) },
    { admittedPoll 66 with participantCount := .ok (some 1, []), botAlone := .ok (true, []) }]

def leftInZoom : List ZoomPoll :=
  [zoomCallPoll 2, { zoomCallPoll 4 with participantCount := .ok (some 2, []) },
    { zoomCallPoll 6 with participantCount := .ok (some 1, []), botAlone := .ok (true, []) },
    { zoomCallPoll 66 with participantCount := .ok (some 1, []), botAlone := .ok (true, []) }]

theorem outcome_justified_alone :
    (∃ before p after, leftInMeet = before ++ p :: after ∧
      ReturnsAt (Meet.loop sampleConfig) 0 before p aloneOutcome ∧
      Justified Meet.view sampleConfig 0 before p aloneOutcome) ∧
    (∃ before p after, leftInZoom = before ++ p :: after ∧
      ReturnsAt (Zoom.loop sampleConfig) 0 before p aloneOutcome ∧
      Justified Zoom.view sampleConfig 0 before p aloneOutcome) :=
  ⟨(outcome_justified sampleConfig 0 aloneOutcome).1 leftInMeet (by with_unfolding_all rfl),
    (outcome_justified sampleConfig 0 aloneOutcome).2 leftInZoom (by with_unfolding_all rfl)⟩

end Notetaker
