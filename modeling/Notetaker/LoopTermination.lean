import Mathlib.Data.List.Chain
import Mathlib.Data.Rat.Floor
import Notetaker.JustifiedOutcomes
import Notetaker.LifecycleMachine

/-!
# The loops end

Two clocks bound a run. Before the admission a turn goes on only while the waiting-room timeout runs, and
afterwards only while the recording is shorter than its maximum. What the pages tell sets neither clock
back, and between two polls a turn waits, except at the admission.
-/

open PythonText PythonFloat

namespace Notetaker

/-! ## Clocks that advance -/

section Clocks

variable {α : Type} {now : α → ℚ} {d : ℚ}

theorem add_length_mul_le {l : List α} {p : α} {since : ℚ}
    (hchain : (l ++ [p]).IsChain fun q r => now q + d ≤ now r)
    (hfirst : ∀ q ∈ (l ++ [p]).head?, since ≤ now q) : since + l.length * d ≤ now p := by
  induction l generalizing since with
  | nil => simpa using hfirst p rfl
  | cons q l ih =>
      have hq : since ≤ now q := hfirst q rfl
      rw [List.cons_append, List.isChain_cons] at hchain
      obtain ⟨hnext, hrest⟩ := hchain
      have htail : now q + d + l.length * d ≤ now p := ih hrest hnext
      rw [List.length_cons, Nat.cast_succ]
      linarith

/-- A series of polls within a bounded time. -/
theorem length_le_ceil {l : List α} {since bound : ℚ} (hd : 0 < d)
    (hchain : l.IsChain fun q r => now q + d ≤ now r) (hfirst : ∀ q ∈ l.head?, since ≤ now q)
    (hlast : ∀ most last, l = most ++ [last] → now last - since < bound) :
    l.length ≤ ⌈bound / d⌉₊ := by
  rcases List.eq_nil_or_concat' l with rfl | ⟨most, last, rfl⟩
  · exact Nat.zero_le _
  · have hnow := add_length_mul_le hchain hfirst
    have htime := hlast most last rfl
    have hlength : (most.length : ℚ) < bound / d := by
      rw [lt_div_iff₀ hd]
      linarith
    rw [List.length_append]
    exact Nat.lt_ceil.2 hlength

end Clocks

/-! ## A turn that goes on has waited -/

/-- A turn that goes on has waited for the page. -/
def Waited (poll : Poll) : LoopState ⊕ BotOutcome → Prop
  | .inl _ => poll.wait = .ok ()
  | .inr _ => True

section Turns

variable {side : LoopSide} {cfg : LoopConfig} {s : LoopState} {poll : Poll}

theorem keepPolling_waited : (keepPolling poll s).Ensures (Waited poll) :=
  EventLog.Ensures.read_bind fun _ hwait => EventLog.Ensures.pure hwait

theorem closing_waited {x : Bot BotOutcome} :
    (do return .inr (← x) : Turn).Ensures (Waited poll) :=
  EventLog.Ensures.bind fun _ _ => EventLog.Ensures.pure trivial

theorem finishRecording_waited {toState reason : Text} {exitCode : BotExit}
    {endReason : Option EndReason} :
    (finishRecording side cfg s poll toState reason exitCode endReason).Ensures (Waited poll) :=
  EventLog.Ensures.bind fun _ _ => EventLog.Ensures.bind fun _ _ => closing_waited

theorem endOnNotice_waited {toState reason lastLine : Text} {exitCode : BotExit}
    {endReason : EndReason} :
    (endOnNotice side cfg s poll toState reason lastLine exitCode endReason).Ensures (Waited poll) :=
  EventLog.Ensures.bind fun _ _ => EventLog.Ensures.bind fun _ _ => closing_waited

theorem handleStop_waited : (handleStop side cfg s poll).Ensures (Waited poll) := by
  unfold handleStop
  split_ifs
  · exact finishRecording_waited
  · exact EventLog.Ensures.bind fun _ _ => EventLog.Ensures.bind fun _ _ => closing_waited

theorem recorderDied_waited : (recorderDied side cfg s poll).Ensures (Waited poll) :=
  EventLog.Ensures.bind fun _ _ => EventLog.Ensures.bind fun _ _ => finishRecording_waited

theorem maxDurationReached_waited : (maxDurationReached side cfg s poll).Ensures (Waited poll) :=
  EventLog.Ensures.bind fun _ _ => finishRecording_waited

theorem aloneTurn_waited {detail : Text} :
    (aloneTurn side cfg s poll detail).Ensures (Waited poll) := by
  unfold aloneTurn
  cases s.aloneSince with
  | none => exact EventLog.Ensures.bind fun _ _ => keepPolling_waited
  | some since =>
      dsimp only
      split_ifs
      · exact finishRecording_waited
      · exact keepPolling_waited

theorem emptyRoomTurn_waited : (emptyRoomTurn side cfg s poll).Ensures (Waited poll) := by
  unfold emptyRoomTurn
  split_ifs
  · exact EventLog.Ensures.bind fun _ _ => finishRecording_waited
  · exact keepPolling_waited

theorem unknownRoomTurn_waited {detail : Text} :
    (unknownRoomTurn side cfg s poll detail).Ensures (Waited poll) := by
  unfold unknownRoomTurn
  dsimp only
  split_ifs
  · exact EventLog.Ensures.bind fun _ _ => EventLog.Ensures.bind fun _ _ => finishRecording_waited
  · exact EventLog.Ensures.bind fun _ _ => EventLog.Ensures.bind fun _ _ => keepPolling_waited
  · exact keepPolling_waited

theorem participantTurn_waited : (participantTurn side cfg s poll).Ensures (Waited poll) := by
  apply EventLog.Ensures.read_bind
  intro count _
  apply EventLog.Ensures.read_bind
  intro alone _
  dsimp only
  split_ifs
  · exact keepPolling_waited
  · exact aloneTurn_waited
  · exact emptyRoomTurn_waited
  · exact keepPolling_waited
  · exact unknownRoomTurn_waited

theorem missedControlsTurn_waited : (missedControlsTurn side cfg s poll).Ensures (Waited poll) := by
  unfold missedControlsTurn
  dsimp only
  split_ifs
  · exact EventLog.Ensures.bind fun _ _ => endOnNotice_waited
  · exact keepPolling_waited

theorem recordingChecks_waited {removed ended : Bool × Text} {controls : Bool} {absent : Turn}
    (habsent : absent.Ensures (Waited poll)) :
    (recordingChecks side cfg s poll removed ended controls absent).Ensures (Waited poll) := by
  unfold recordingChecks
  split_ifs
  · exact endOnNotice_waited
  · exact endOnNotice_waited
  · exact maxDurationReached_waited
  · exact participantTurn_waited
  · exact habsent
  · exact recorderDied_waited

end Turns

namespace Meet

variable {cfg : LoopConfig} {s : LoopState} {poll : MeetPoll}

/-- The turn goes on by way of its wait alone: it would not if the wait raised. -/
def WaitsAt (cfg : LoopConfig) (s : LoopState) (poll : MeetPoll) : Prop :=
  ∀ e t, (step cfg s { poll with wait := .error e }).result ≠ .ok (.inl t)

theorem waitingTurn_waited : (waitingTurn cfg s poll).Ensures (Waited poll.toPoll) := by
  apply EventLog.Ensures.read_bind
  intro blocked _
  split_ifs
  · exact EventLog.Ensures.bind fun _ _ => EventLog.Ensures.bind fun _ _ =>
      EventLog.Ensures.bind fun _ _ => closing_waited
  · exact EventLog.Ensures.bind fun _ _ => EventLog.Ensures.bind fun _ _ =>
      EventLog.Ensures.bind fun _ _ => closing_waited
  · exact EventLog.Ensures.bind fun _ _ => keepPolling_waited

theorem unadmittedTurn_waited : (unadmittedTurn cfg s poll).Ensures (Waited poll.toPoll) := by
  apply EventLog.Ensures.read_bind
  intro visible _
  split_ifs
  · exact EventLog.Ensures.bind fun _ _ => keepPolling_waited
  · exact missedControlsTurn_waited

theorem step_waited (cfg : LoopConfig) (poll : MeetPoll)
    (h : ¬ (s.recordingStarted = false ∧ poll.readsAdmitted)) :
    (step cfg s poll).Ensures (Waited poll.toPoll) := by
  rw [step_eq]
  apply phasedTurn_ensures
  · exact fun _ => handleStop_waited
  · intro _ removed ended admitted _ _ _
    rw [recordingTurn_eq]
    exact recordingChecks_waited unadmittedTurn_waited
  · exact fun hs admitted hadmitted hseen =>
      absurd ⟨hs, (Poll.readsAdmitted_of_ok hadmitted).trans hseen⟩ h
  · exact fun _ _ _ _ => waitingTurn_waited

theorem waitsAt_of_not_admission (h : ¬ (s.recordingStarted = false ∧ poll.readsAdmitted)) :
    WaitsAt cfg s poll := by
  intro e t hstep
  have hwait : (.error e : Reading Unit) = .ok () :=
    step_waited cfg { poll with wait := .error e } h _ hstep
  cases hwait

end Meet

namespace Zoom

variable {cfg : LoopConfig} {s : LoopState} {poll : ZoomPoll}

def WaitsAt (cfg : LoopConfig) (s : LoopState) (poll : ZoomPoll) : Prop :=
  ∀ e t, (step cfg s { poll with wait := .error e }).result ≠ .ok (.inl t)

theorem waitingTurn_waited : (waitingTurn cfg s poll).Ensures (Waited poll.toPoll) := by
  apply EventLog.Ensures.bind
  intro found _
  cases found with
  | some wall => exact EventLog.Ensures.bind fun _ _ => EventLog.Ensures.pure trivial
  | none =>
      dsimp only
      split_ifs
      · exact EventLog.Ensures.bind fun _ _ => EventLog.Ensures.bind fun _ _ =>
          EventLog.Ensures.bind fun _ _ => EventLog.Ensures.bind fun _ _ => closing_waited
      · exact EventLog.Ensures.bind fun _ _ => keepPolling_waited

theorem step_waited (cfg : LoopConfig) (poll : ZoomPoll)
    (h : ¬ (s.recordingStarted = false ∧ poll.readsAdmitted)) :
    (step cfg s poll).Ensures (Waited poll.toPoll) := by
  rw [step_eq]
  apply phasedTurn_ensures
  · exact fun _ => handleStop_waited
  · intro _ removed ended admitted _ _ _
    rw [recordingTurn_eq]
    exact EventLog.Ensures.read_bind fun _ _ => recordingChecks_waited missedControlsTurn_waited
  · exact fun hs admitted hadmitted hseen =>
      absurd ⟨hs, (Poll.readsAdmitted_of_ok hadmitted).trans hseen⟩ h
  · exact fun _ _ _ _ => waitingTurn_waited

theorem waitsAt_of_not_admission (h : ¬ (s.recordingStarted = false ∧ poll.readsAdmitted)) :
    WaitsAt cfg s poll := by
  intro e t hstep
  have hwait : (.error e : Reading Unit) = .ok () :=
    step_waited cfg { poll with wait := .error e } h _ hstep
  cases hwait

end Zoom

/-! ## The two phases -/

section Phases

variable {P : Type} (loop : PollingLoop LoopState P BotEvent PageError BotOutcome)
  (view : LoopView P) (waitsAt : LoopState → P → Prop) (d start : ℚ)

/-- A stream of polls whose clock never goes back, and advances by `d` at least whenever the loop waits
between two of them. -/
structure Advances (polls : List P) : Prop where
  first : ∀ p ∈ polls.head?, start ≤ (view.poll p).now
  forward : ∀ before p q after, polls = before ++ p :: q :: after →
    (view.poll p).now ≤ (view.poll q).now
  waits : ∀ before p q after s t, polls = before ++ p :: q :: after →
    (loop.run (.initial start) before).2 = .polling s → (loop.step s p).result = .ok (.inl t) →
    waitsAt s p → (view.poll p).now + d ≤ (view.poll q).now

/-- Only the admission goes on without a wait. -/
def WaitsBetween : Prop :=
  ∀ s p, ¬ (s.recordingStarted = false ∧ (view.poll p).readsAdmitted) → waitsAt s p

/-- As many turns as the loop can take until it ends. -/
def turnBound (timeouts : Timeouts) : ℕ :=
  ⌈timeouts.waitingRoomS / d⌉₊ + ⌈timeouts.maxRecordS / d⌉₊ + 2

end Phases

section Phases

variable {P : Type} {view : LoopView P} {cfg : LoopConfig} {waitsAt : LoopState → P → Prop}
  {d start : ℚ} {loop : PollingLoop LoopState P BotEvent PageError BotOutcome}
  {polls pre post : List P} {p : P} {s t : LoopState}

theorem Advances.step (h : Advances loop view waitsAt d start polls)
    (hwaits : WaitsBetween view waitsAt) {q : P} (hpolls : polls = pre ++ p :: q :: post)
    (hrun : (loop.run (.initial start) polls).2 = .polling t)
    (hadmission : ∀ s, (loop.run (.initial start) pre).2 = .polling s →
      ¬ (s.recordingStarted = false ∧ (view.poll p).readsAdmitted)) :
    (view.poll p).now + d ≤ (view.poll q).now := by
  have hsplit : polls = (pre ++ [p]) ++ q :: post := by simpa using hpolls
  rw [hsplit] at hrun
  obtain ⟨s', hbefore, -⟩ := loop.exists_polling_of_append hrun
  obtain ⟨s, hpre, hstep⟩ := loop.exists_last_step hbefore
  exact h.waits pre p q post s s' hpolls hpre hstep (hwaits s p (hadmission s hpre))

theorem Advances.chain_waiting (h : Advances loop view waitsAt d start polls)
    (hwaits : WaitsBetween view waitsAt) (hpolls : polls = pre ++ post)
    (hpre : ∀ q ∈ pre, (view.poll q).readsAdmitted = false)
    (hrun : (loop.run (.initial start) polls).2 = .polling t) :
    pre.IsChain fun q r => (view.poll q).now + d ≤ (view.poll r).now := by
  apply List.isChain_iff_forall_rel_of_append_cons_cons.2
  rintro q r before after rfl
  have hsplit : polls = before ++ q :: r :: (after ++ post) := by simpa using hpolls
  apply h.step hwaits hsplit hrun
  rintro s - ⟨-, hadmitted⟩
  exact absurd ((hpre q (by simp)).symm.trans hadmitted) Bool.false_ne_true

theorem Advances.chain_recording (hloop : Follows loop view cfg)
    (h : Advances loop view waitsAt d start polls) (hwaits : WaitsBetween view waitsAt)
    (hpolls : polls = pre ++ p :: post) (hp : (view.poll p).readsAdmitted)
    (hrun : (loop.run (.initial start) polls).2 = .polling t) :
    post.IsChain fun q r => (view.poll q).now + d ≤ (view.poll r).now := by
  apply List.isChain_iff_forall_rel_of_append_cons_cons.2
  rintro q r before after rfl
  have hsplit : polls = (pre ++ p :: before) ++ q :: r :: after := by simpa using hpolls
  apply h.step hwaits hsplit hrun
  rintro s hs ⟨hwaiting, -⟩
  have hnone := ((remembers_of_run hloop hs).waiting hwaiting).1 p (by simp)
  exact absurd (hnone.symm.trans hp) Bool.false_ne_true

theorem GoesOn.phase {s : LoopState} {poll : Poll} {controls : Bool} {gone : Prop}
    (h : GoesOn cfg s poll controls gone t) :
    (s.recordingStarted = false ∧ poll.readsAdmitted = false ∧
      poll.now - s.start < cfg.timeouts.waitingRoomS) ∨
      (s.recordingStarted = false ∧ poll.readsAdmitted) ∨ KeepsRecording cfg s poll := by
  cases h with
  | waits next hs hadmitted htime => exact .inl ⟨hs, hadmitted, htime⟩
  | began hs hadmitted => exact .inr (.inl ⟨hs, hadmitted⟩)
  | others h hcontrols hroom => exact .inr (.inr h)
  | aloneWithHistory h hcontrols hroom hothers htime => exact .inr (.inr h)
  | emptyRoom h hcontrols hroom hothers htime => exact .inr (.inr h)
  | lostCount h hcontrols hroom hothers => exact .inr (.inr h)
  | unknownRoom next h hcontrols hroom hothers htime => exact .inr (.inr h)
  | contradicted h hcontrols => exact .inr (.inr h)
  | missed h hcontrols hgone hmissed => exact .inr (.inr h)

theorem waiting_time (hloop : Follows loop view cfg)
    (hrun : (loop.run (.initial start) (pre ++ [p])).2 = .polling t)
    (hpre : ∀ q ∈ pre ++ [p], (view.poll q).readsAdmitted = false) :
    (view.poll p).now - start < cfg.timeouts.waitingRoomS := by
  obtain ⟨s, hbefore, hstep⟩ := loop.exists_last_step hrun
  have hremembers := remembers_of_run hloop hbefore
  have hgoes : GoesOn cfg s (view.poll p) (view.controls p) (view.gone p) t :=
    hloop s p (.inl t) hstep
  rcases hgoes.phase with ⟨-, -, htime⟩ | ⟨-, hadmitted⟩ | hkeeps
  · rw [hremembers.start] at htime
    exact htime
  · exact absurd ((hpre p (by simp)).symm.trans hadmitted) Bool.false_ne_true
  · obtain ⟨before, q, after, hsplit, -, hq, -⟩ := hremembers.admitted hkeeps.recording
    have hmem : q ∈ pre ++ [p] := by simp [hsplit]
    exact absurd ((hpre q hmem).symm.trans hq) Bool.false_ne_true

theorem LoopView.AdmittedAt.eq_now {adm : ℚ} (h : view.AdmittedAt (pre ++ p :: post) adm)
    (hpre : ∀ q ∈ pre, (view.poll q).readsAdmitted = false) (hp : (view.poll p).readsAdmitted) :
    adm = (view.poll p).now := by
  obtain ⟨before, q, after, hsplit, hbefore, hq, rfl⟩ := h
  induction pre generalizing before with
  | nil =>
      cases before with
      | nil =>
          cases hsplit
          rfl
      | cons r before =>
          cases hsplit
          exact absurd ((hbefore p List.mem_cons_self).symm.trans hp) Bool.false_ne_true
  | cons r pre ih =>
      cases before with
      | nil =>
          cases hsplit
          exact absurd ((hpre q List.mem_cons_self).symm.trans hq) Bool.false_ne_true
      | cons r' before =>
          obtain ⟨-, htail⟩ := List.cons.inj hsplit
          exact ih (fun s hs => hpre s (List.mem_cons_of_mem r hs)) before htail
            fun s hs => hbefore s (List.mem_cons_of_mem r' hs)

theorem recording_time (hloop : Follows loop view cfg) {q : P}
    (hpre : ∀ r ∈ pre, (view.poll r).readsAdmitted = false) (hp : (view.poll p).readsAdmitted)
    (hrun : (loop.run (.initial start) (pre ++ p :: post ++ [q])).2 = .polling t) :
    (view.poll q).now - (view.poll p).now < cfg.timeouts.maxRecordS := by
  obtain ⟨s, hbefore, hstep⟩ := loop.exists_last_step hrun
  have hremembers := remembers_of_run hloop hbefore
  have hgoes : GoesOn cfg s (view.poll q) (view.controls q) (view.gone q) t :=
    hloop s q (.inl t) hstep
  have hs : s.recordingStarted := by
    by_contra hs
    rw [Bool.not_eq_true] at hs
    have hnone := (hremembers.waiting hs).1 p (by simp)
    exact absurd (hnone.symm.trans hp) Bool.false_ne_true
  rcases hgoes.phase with ⟨hwaits, -, -⟩ | ⟨hbegan, -⟩ | hkeeps
  · exact absurd (hwaits.symm.trans hs) Bool.false_ne_true
  · exact absurd (hbegan.symm.trans hs) Bool.false_ne_true
  · have htime := hkeeps.time
    rw [(hremembers.admitted hs).eq_now hpre hp] at htime
    exact htime

theorem length_waiting_le (hloop : Follows loop view cfg) (hd : 0 < d)
    (hclock : Advances loop view waitsAt d start polls) (hwaits : WaitsBetween view waitsAt)
    (hpolls : polls = pre ++ post) (hpre : ∀ q ∈ pre, (view.poll q).readsAdmitted = false)
    (hrun : (loop.run (.initial start) polls).2 = .polling t) :
    pre.length ≤ ⌈cfg.timeouts.waitingRoomS / d⌉₊ := by
  have hchain := hclock.chain_waiting hwaits hpolls hpre hrun
  rw [hpolls] at hrun
  obtain ⟨s, hbefore, -⟩ := loop.exists_polling_of_append hrun
  apply length_le_ceil hd hchain
  · intro q hq
    apply hclock.first q
    rw [hpolls, List.head?_append_of_ne_nil pre (by rintro rfl; cases hq)]
    exact hq
  · rintro most last rfl
    exact waiting_time hloop hbefore hpre

theorem length_recording_le (hloop : Follows loop view cfg) (hd : 0 < d)
    (hclock : Advances loop view waitsAt d start polls) (hwaits : WaitsBetween view waitsAt)
    (hpolls : polls = pre ++ p :: post) (hpre : ∀ q ∈ pre, (view.poll q).readsAdmitted = false)
    (hp : (view.poll p).readsAdmitted)
    (hrun : (loop.run (.initial start) polls).2 = .polling t) :
    post.length ≤ ⌈cfg.timeouts.maxRecordS / d⌉₊ := by
  have hchain := hclock.chain_recording hloop hwaits hpolls hp hrun
  have hfirst : ∀ q ∈ post.head?, (view.poll p).now ≤ (view.poll q).now := by
    intro q hq
    obtain ⟨rest, rfl⟩ := List.head?_eq_some_iff.1 hq
    exact hclock.forward pre p q rest hpolls
  apply length_le_ceil hd hchain hfirst
  rintro most last rfl
  rw [hpolls] at hrun
  have hlast : (loop.run (.initial start) (pre ++ p :: most ++ [last])).2 = .polling t := by
    simpa using hrun
  exact recording_time hloop hpre hp hlast

theorem length_lt_turnBound (hloop : Follows loop view cfg) (hd : 0 < d)
    (hclock : Advances loop view waitsAt d start polls) (hwaits : WaitsBetween view waitsAt)
    (hrun : (loop.run (.initial start) polls).2 = .polling t) :
    polls.length < turnBound d cfg.timeouts := by
  unfold turnBound
  have hremembers := remembers_of_run hloop hrun
  cases hs : t.recordingStarted with
  | false =>
      have hlength := length_waiting_le hloop hd hclock hwaits (List.append_nil polls).symm
        (hremembers.waiting hs).1 hrun
      omega
  | true =>
      obtain ⟨pre, p, post, hpolls, hpre, hp, -⟩ := hremembers.admitted hs
      have hwaited := length_waiting_le hloop hd hclock hwaits hpolls hpre hrun
      have hrecorded := length_recording_le hloop hd hclock hwaits hpolls hpre hp hrun
      rw [hpolls, List.length_append, List.length_cons]
      omega

end Phases

/-! ## Turns that return -/

theorem Turn.Reports.returns {turn : Turn} {next : LoopState ⊕ BotVerdict} (h : turn.Reports next) :
    ∃ said, turn.result = .ok said := by
  unfold Turn.Reports at h
  cases hresult : turn.result with
  | ok said => exact ⟨said, rfl⟩
  | error e =>
      rw [hresult] at h
      cases h

/-- No reading of the poll raises, nor does a click or the stop of the recorder, and a notice that is
detected is quoted. The start of the recorder and the announcement may fail. -/
def MeetPoll.Answers (poll : MeetPoll) : Prop :=
  ∃ facts, MeetPoll.Shows { poll with recorderStart := .ok 0 } facts

def ZoomPoll.Answers (poll : ZoomPoll) : Prop :=
  ∃ facts, ZoomPoll.Shows { poll with recorderStart := .ok 0 } facts

theorem recorderFailed_returns (side : LoopSide) (cfg : LoopConfig) (poll : Poll) (e : PageError) :
    ∃ said, (recorderFailed side cfg poll e).result = .ok said := by
  suffices h : (recorderFailed side cfg poll e).Reports (.inr ⟨.botError, none, false⟩) from
    h.returns
  apply Turn.Reports.bind (EventLog.result_emit _)
  apply Turn.Reports.bind (result_debugScreenshot _ _ _)
  apply Turn.Reports.bind (EventLog.result_emit _)
  apply Turn.Reports.bind (EventLog.result_emit _)
  exact .closing (by decide) trivial

namespace Meet

variable {cfg : LoopConfig} {s : LoopState} {poll : MeetPoll} {facts : AbstractPoll}

theorem unadmittedTurn_returns (h : poll.Shows facts) :
    ∃ said, (unadmittedTurn cfg s poll).result = .ok said := by
  cases hcontrols : facts.controls with
  | false => exact (unadmittedTurn_reports h hcontrols).returns
  | true =>
      suffices hgoes : (unadmittedTurn cfg s poll).Reports (.inl { s with missedControls := 0 }) from
        hgoes.returns
      apply Turn.Reports.read_bind h.controls
      rw [hcontrols, if_pos rfl]
      exact .bind (EventLog.result_emit _) (keepPolling_reports h.shared.wait)

theorem recordingTurn_returns (h : poll.Shows facts) {removed ended admitted : Bool × Text}
    (hremoved : removed.1 → removed.2 ≠ []) (hended : ended.1 → ended.2 ≠ []) :
    ∃ said, (recordingTurn cfg s poll removed ended admitted).result = .ok said := by
  have hleave := result_leave h.shared
  unfold recordingTurn
  split_ifs with h1 h2 h3 h4 h5
  · have hfits : EndReason.Fits .removed (some .removed) := rfl
    exact (endOnNotice_reports h.shared (hremoved h1) hfits).returns
  · have hfits : EndReason.Fits .ok (some .callEnded) := rfl
    exact (endOnNotice_reports h.shared (hended h2) hfits).returns
  · exact (maxDurationReached_reports h.shared hleave).returns
  · exact (participantTurn_reports h.shared hleave).returns
  · exact unadmittedTurn_returns h
  · exact (recorderDied_reports h.shared hleave).returns

theorem admissionTurn_returns (h : MeetPoll.Shows { poll with recorderStart := .ok 0 } facts)
    (detail : Text) : ∃ said, (admissionTurn cfg s poll detail).result = .ok said := by
  cases hstart : poll.recorderStart with
  | error e =>
      obtain ⟨said, hsaid⟩ := recorderFailed_returns side cfg poll.toPoll e
      unfold admissionTurn
      rw [hstart]
      exact ⟨said, EventLog.result_bind_eq_ok.2 ⟨(), rfl, hsaid⟩⟩
  | ok pid =>
      have hshows : poll.Shows facts :=
        { h with shared := { h.shared with recorderStart := ⟨pid, hstart⟩ } }
      exact (admissionTurn_reports hshows detail).returns

theorem step_returns (cfg : LoopConfig) (s : LoopState) (h : poll.Answers) :
    ∃ said, (step cfg s poll).result = .ok said := by
  obtain ⟨facts, h⟩ := h
  obtain ⟨removedDetail, hremoved, hremovedDetail⟩ := h.shared.removed
  obtain ⟨endedDetail, hended, hendedDetail⟩ := h.shared.ended
  obtain ⟨admittedDetail, hadmitted⟩ := h.shared.admitted
  change poll.removed = _ at hremoved
  change poll.ended = _ at hended
  change poll.admitted = _ at hadmitted
  rw [step_eq, phasedTurn_of_reads hremoved hended hadmitted]
  split_ifs
  · exact (handleStop_reports h.shared (result_leave h.shared)).returns
  · exact recordingTurn_returns h hremovedDetail hendedDetail
  · exact admissionTurn_returns h admittedDetail
  · exact (waitingTurn_reports h).returns

end Meet

namespace Zoom

variable {cfg : LoopConfig} {s : LoopState} {poll : ZoomPoll} {facts : AbstractPoll}

theorem admissionTurn_returns (h : ZoomPoll.Shows { poll with recorderStart := .ok 0 } facts)
    (detail : Text) : ∃ said, (admissionTurn cfg s poll detail).result = .ok said := by
  cases hstart : poll.recorderStart with
  | error e =>
      obtain ⟨said, hsaid⟩ := recorderFailed_returns side cfg poll.toPoll e
      unfold admissionTurn
      rw [hstart]
      exact ⟨said, EventLog.result_bind_eq_ok.2 ⟨(), rfl, hsaid⟩⟩
  | ok pid =>
      have hshows : poll.Shows facts :=
        { h with shared := { h.shared with recorderStart := ⟨pid, hstart⟩ } }
      exact (admissionTurn_reports hshows detail).returns

theorem step_returns (cfg : LoopConfig) (s : LoopState) (h : poll.Answers) :
    ∃ said, (step cfg s poll).result = .ok said := by
  obtain ⟨facts, h⟩ := h
  obtain ⟨removedDetail, hremoved, hremovedDetail⟩ := h.shared.removed
  obtain ⟨endedDetail, hended, hendedDetail⟩ := h.shared.ended
  obtain ⟨admittedDetail, hadmitted⟩ := h.shared.admitted
  change poll.removed = _ at hremoved
  change poll.ended = _ at hended
  change poll.admitted = _ at hadmitted
  rw [step_eq, phasedTurn_of_reads hremoved hended hadmitted]
  split_ifs
  · exact (handleStop_reports h.shared (result_leave h.shared)).returns
  · exact (recordingTurn_reports h rfl hremovedDetail rfl hendedDetail).returns
  · exact admissionTurn_returns h admittedDetail
  · exact (waitingTurn_reports h).returns

end Zoom

/-! ## The loops end -/

def Ends (status : PollingLoop.Status LoopState PageError BotOutcome) (answered : Prop) : Prop :=
  (∀ t, status ≠ .polling t) ∧ (answered → ∃ outcome, status = .returned outcome)

section Ends

variable {P : Type} {view : LoopView P} {cfg : LoopConfig} {waitsAt : LoopState → P → Prop}
  {d start : ℚ} {loop : PollingLoop LoopState P BotEvent PageError BotOutcome} {answers : P → Prop}
  {polls : List P}

theorem ends_of_follows (hloop : Follows loop view cfg) (hwaits : WaitsBetween view waitsAt)
    (hreturns : ∀ s p, answers p → ∃ said, (loop.step s p).result = .ok said) (hd : 0 < d)
    (hclock : Advances loop view waitsAt d start polls)
    (hlength : turnBound d cfg.timeouts ≤ polls.length) :
    Ends (loop.run (.initial start) polls).2 (∀ p ∈ polls, answers p) := by
  have hover : ∀ t, (loop.run (.initial start) polls).2 ≠ .polling t := by
    intro t hrun
    exact absurd hlength (not_le.2 (length_lt_turnBound hloop hd hclock hwaits hrun))
  constructor
  · exact hover
  · intro hanswers
    apply loop.returned_of_not_polling
    · intro s p hp
      exact hreturns s p (hanswers p hp)
    · exact hover

theorem Advances.of_chain (hd : 0 ≤ d) (hfirst : ∀ p ∈ polls.head?, start ≤ (view.poll p).now)
    (hchain : polls.IsChain fun p q => (view.poll p).now + d ≤ (view.poll q).now) :
    Advances loop view waitsAt d start polls := by
  have hstep : ∀ before p q after, polls = before ++ p :: q :: after →
      (view.poll p).now + d ≤ (view.poll q).now := by
    rintro before p q after rfl
    exact List.isChain_iff_forall_rel_of_append_cons_cons.1 hchain rfl
  constructor
  · exact hfirst
  · intro before p q after hpolls
    linarith [hstep before p q after hpolls]
  · intro before p q after _ _ hpolls _ _ _
    exact hstep before p q after hpolls

end Ends

/-- Whatever the polls show, each loop is over after `turnBound` polls of a clock that advances by `d`
on every wait. It has returned if no reading raised. -/
theorem loops_end (cfg : LoopConfig) (start : ℚ) {d : ℚ} (hd : 0 < d) :
    (∀ polls, Advances (Meet.loop cfg) Meet.view (Meet.WaitsAt cfg) d start polls →
      turnBound d cfg.timeouts ≤ polls.length →
      Ends (Meet.runCallLoop cfg start polls).2 (∀ poll ∈ polls, poll.Answers)) ∧
    (∀ polls, Advances (Zoom.loop cfg) Zoom.view (Zoom.WaitsAt cfg) d start polls →
      turnBound d cfg.timeouts ≤ polls.length →
      Ends (Zoom.runCallLoop cfg start polls).2 (∀ poll ∈ polls, poll.Answers)) := by
  constructor
  · intro polls hclock hlength
    have hwaits : WaitsBetween Meet.view (Meet.WaitsAt cfg) := fun s poll =>
      Meet.waitsAt_of_not_admission
    apply ends_of_follows (Meet.follows cfg) hwaits _ hd hclock hlength
    intro s poll hanswers
    exact Meet.step_returns cfg s hanswers
  · intro polls hclock hlength
    have hwaits : WaitsBetween Zoom.view (Zoom.WaitsAt cfg) := fun s poll =>
      Zoom.waitsAt_of_not_admission
    apply ends_of_follows (Zoom.follows cfg) hwaits _ hd hclock hlength
    intro s poll hanswers
    exact Zoom.step_returns cfg s hanswers

def hastyConfig : LoopConfig := { sampleConfig with timeouts := ⟨4, 300, 60, 4⟩ }

/-- A call that its maximum duration ends. -/
def longCall : List PairedPoll :=
  [⟨2, false, false, false, false, false, false, none, false, true⟩,
    ⟨4, false, true, false, false, false, true, none, false, true⟩,
    ⟨6, false, true, false, false, false, true, some 2, false, true⟩,
    ⟨8, false, true, false, false, false, true, some 2, false, true⟩,
    ⟨10, false, true, false, false, false, true, some 2, false, true⟩,
    ⟨12, false, true, false, false, false, true, some 2, false, true⟩].map AbstractPoll.paired

theorem head_longCall : ∀ poll ∈ longCall.head?, (0 : ℚ) ≤ poll.facts.now := by
  rintro poll ⟨⟩
  norm_num [AbstractPoll.paired]

theorem isChain_longCall :
    longCall.IsChain fun p q => p.facts.now + 2 ≤ q.facts.now := by
  norm_num [longCall, AbstractPoll.paired]

theorem PairedPoll.answers (poll : PairedPoll) : poll.meet.Answers ∧ poll.zoom.Answers :=
  ⟨⟨poll.facts, { poll.meet_shows with
      shared := { poll.meet_shows.shared with recorderStart := ⟨0, rfl⟩ } }⟩,
    ⟨poll.facts, { poll.zoom_shows with
      shared := { poll.zoom_shows.shared with recorderStart := ⟨0, rfl⟩ } }⟩⟩

theorem loops_end_longCall :
    (∃ outcome, (Meet.runCallLoop hastyConfig 0 (longCall.map PairedPoll.meet)).2 =
      .returned outcome) ∧
    ∃ outcome, (Zoom.runCallLoop hastyConfig 0 (longCall.map PairedPoll.zoom)).2 =
      .returned outcome := by
  have hd : (0 : ℚ) < 2 := by norm_num
  have hbound : turnBound 2 hastyConfig.timeouts = 6 := by
    norm_num [turnBound, hastyConfig]
  obtain ⟨hmeet, hzoom⟩ := loops_end hastyConfig 0 hd
  constructor
  · refine (hmeet (longCall.map PairedPoll.meet) ?_ hbound.le).2 ?_
    · apply Advances.of_chain hd.le
      · rintro poll ⟨⟩
        exact head_longCall _ rfl
      · apply (List.isChain_map PairedPoll.meet).2
        apply isChain_longCall.imp
        intro p q hnow
        rw [← p.meet_shows.shared.now, ← q.meet_shows.shared.now] at hnow
        exact hnow
    · intro poll hpoll
      obtain ⟨paired, -, rfl⟩ := List.mem_map.1 hpoll
      exact paired.answers.1
  · refine (hzoom (longCall.map PairedPoll.zoom) ?_ hbound.le).2 ?_
    · apply Advances.of_chain hd.le
      · rintro poll ⟨⟩
        exact head_longCall _ rfl
      · apply (List.isChain_map PairedPoll.zoom).2
        apply isChain_longCall.imp
        intro p q hnow
        rw [← p.zoom_shows.shared.now, ← q.zoom_shows.shared.now] at hnow
        exact hnow
    · intro poll hpoll
      obtain ⟨paired, -, rfl⟩ := List.mem_map.1 hpoll
      exact paired.answers.2

end Notetaker
