import Notetaker.LifecycleMachine
import Notetaker.LoopDecisions

/-!
# Best-effort actions

The evidence, the announcement, Zoom's computer audio and the way out of the call are tried, and the
call goes on or ends as if they had succeeded. Two things are not guarded: the lookup of the leave
control on both platforms, and the mouse on Meet. What they raise replaces the outcome.
-/

open PythonText PythonFloat

namespace Notetaker

/-- The poll at which everything that is only tried succeeds. -/
def Poll.calm (poll : Poll) : Poll :=
  { poll with
    evidence := .saved [] [] [] []
    announce := .ok ()
    leaveButton := .ok true
    leaveClick := .ok () }

@[simp] theorem Poll.now_calm (poll : Poll) : poll.calm.now = poll.now := rfl

@[simp] theorem Poll.stopRequested_calm (poll : Poll) :
    poll.calm.stopRequested = poll.stopRequested := rfl

@[simp] theorem Poll.recorderRunning_calm (poll : Poll) :
    poll.calm.recorderRunning = poll.recorderRunning := rfl

def MeetPoll.calm (poll : MeetPoll) : MeetPoll := { poll with toPoll := poll.toPoll.calm }

def ZoomPoll.calm (poll : ZoomPoll) : ZoomPoll :=
  { poll with
    toPoll := poll.toPoll.calm
    audioJoinButton := .ok true
    audioJoinClick := .ok ()
    microphone := ⟨.ok true, .ok none, .ok ()⟩ }

def reads (reading : Reading (Bool × Text)) : Bool :=
  match reading with
  | .ok (shown, _) => shown
  | .error _ => false

section Leaving

variable (cfg : LoopConfig) (s : LoopState) (poll : Poll) (controls : Bool)

/-- One of the deadlines about the room is over. -/
def RoomDeadline : Prop :=
  match poll.room with
  | some .alone =>
      if s.sawOthers then ∃ since ∈ s.aloneSince, cfg.timeouts.aloneGraceS ≤ poll.now - since
      else cfg.timeouts.emptyRoomS ≤ poll.now - s.admittedAt
  | some .unknown =>
      s.sawOthers = false ∧ cfg.timeouts.emptyRoomS ≤ poll.now - s.unknownSince.getD poll.now
  | _ => False

/-- The turn ends a recording by leaving the call, where the in-call `controls` show or not. -/
def Leaves : Prop :=
  s.recordingStarted ∧ (poll.stopRequested ∨
    reads poll.removed = false ∧ reads poll.ended = false ∧
      (poll.recorderRunning = false ∨ cfg.timeouts.maxRecordS ≤ poll.now - s.admittedAt ∨
        controls ∧ RoomDeadline cfg s poll))

end Leaving

def Meet.LeavesQuietly (poll : Poll) : Prop :=
  poll.leaveButton = .ok false ∨ poll.leaveButton = .ok true ∧ poll.leaveClick = .ok ()

/-- The lookup of the leave control does not raise. -/
def Zoom.LeavesQuietly (poll : Poll) : Prop := ∃ found, poll.leaveButton = .ok found

/-! ## A turn and its calm -/

/-- What a turn says, against the same turn with nothing raising in what is only tried. -/
structure Agrees (leaves quiet : Prop) (turn calm : Turn) : Prop where
  same : (leaves → quiet) → turn.result = calm.result
  quiet : ∀ next, turn.result = .ok next → leaves → quiet

namespace Agrees

variable {leaves quiet : Prop} {turn calm : Turn}

theorem stays (h : turn.result = calm.result) (hstays : ¬ leaves) :
    Agrees leaves quiet turn calm :=
  ⟨fun _ => h, fun _ _ hleaves => absurd hleaves hstays⟩

theorem bind {α : Type} {x y : Bot α} {f g : α → Turn} (h : x.result = y.result)
    (hf : ∀ a, x.result = .ok a → Agrees leaves quiet (f a) (g a)) :
    Agrees leaves quiet (x >>= f) (y >>= g) := by
  constructor
  · intro hquiet
    exact EventLog.result_bind_congr h fun a ha => (hf a ha).same hquiet
  · intro next hnext
    obtain ⟨a, ha, hresult⟩ := EventLog.result_bind_eq_ok.1 hnext
    exact (hf a ha).quiet next hresult

theorem read_bind {α : Type} {reading : Reading α} {f g : α → Turn}
    (hf : ∀ a, reading = .ok a → Agrees leaves quiet (f a) (g a)) :
    Agrees leaves quiet (EventLog.read reading >>= f) (EventLog.read reading >>= g) :=
  bind rfl hf

theorem evidence_bind {isPrintable : Char → Bool} {evidence calmEvidence : Evidence} {reason : Text}
    {f g : Unit → Turn} (hf : Agrees leaves quiet (f ()) (g ())) :
    Agrees leaves quiet (debugScreenshot isPrintable evidence reason >>= f)
      (debugScreenshot isPrintable calmEvidence reason >>= g) := by
  apply bind
  · rw [result_debugScreenshot, result_debugScreenshot]
  · exact fun _ _ => hf

end Agrees

section Turns

variable {side : LoopSide} {cfg : LoopConfig} {s : LoopState} {poll : Poll} {leaves quiet : Prop}

structure LoopSide.Guards (side : LoopSide) (quietly : Poll → Prop) : Prop where
  leave_iff : ∀ poll, (side.leave poll).result = .ok () ↔ quietly poll
  calm : ∀ poll : Poll, quietly poll.calm

variable {quietly : Poll → Prop}

theorem finishRecording_agrees (hside : side.Guards quietly) {toState reason : Text}
    {exitCode : BotExit} {endReason : Option EndReason} (hleaves : leaves) :
    Agrees leaves (quietly poll) (finishRecording side cfg s poll toState reason exitCode endReason)
      (finishRecording side cfg s poll.calm toState reason exitCode endReason) := by
  constructor
  · intro hquiet
    have hleave := (hside.leave_iff poll).2 (hquiet hleaves)
    have hcalm := (hside.leave_iff poll.calm).2 (hside.calm poll)
    apply EventLog.result_bind_congr
    · apply EventLog.result_ensure_congr
      · rw [hleave, hcalm]
      · rfl
    · exact fun _ _ => rfl
  · intro next hnext _
    obtain ⟨u, hensure, -⟩ := EventLog.result_bind_eq_ok.1 hnext
    exact (hside.leave_iff poll).1 (EventLog.result_ensure_eq_ok.1 hensure).1

theorem handleStop_agrees (hside : side.Guards quietly) (hleaves : leaves ↔ s.recordingStarted) :
    Agrees leaves (quietly poll) (handleStop side cfg s poll) (handleStop side cfg s poll.calm) := by
  unfold handleStop
  by_cases hs : s.recordingStarted
  · rw [if_pos hs, if_pos hs]
    exact finishRecording_agrees hside (hleaves.2 hs)
  · rw [if_neg hs, if_neg hs]
    exact .stays rfl (mt hleaves.1 hs)

theorem recorderDied_agrees (hside : side.Guards quietly) (hleaves : leaves) :
    Agrees leaves (quietly poll) (recorderDied side cfg s poll)
      (recorderDied side cfg s poll.calm) :=
  .evidence_bind (.bind rfl fun _ _ => finishRecording_agrees hside hleaves)

theorem maxDurationReached_agrees (hside : side.Guards quietly) (hleaves : leaves) :
    Agrees leaves (quietly poll) (maxDurationReached side cfg s poll)
      (maxDurationReached side cfg s poll.calm) :=
  .bind rfl fun _ _ => finishRecording_agrees hside hleaves

theorem aloneTurn_agrees (hside : side.Guards quietly)
    (hleaves : leaves ↔ ∃ since ∈ s.aloneSince, cfg.timeouts.aloneGraceS ≤ poll.now - since)
    (detail : Text) :
    Agrees leaves (quietly poll) (aloneTurn side cfg s poll detail)
      (aloneTurn side cfg s poll.calm detail) := by
  unfold aloneTurn
  rw [Poll.now_calm]
  cases hsince : s.aloneSince with
  | none =>
      rw [hsince] at hleaves
      exact .stays rfl (by simp [hleaves])
  | some since =>
      rw [hsince] at hleaves
      dsimp only
      by_cases hgrace : cfg.timeouts.aloneGraceS ≤ poll.now - since
      · rw [if_pos hgrace, if_pos hgrace]
        exact finishRecording_agrees hside (hleaves.2 ⟨since, rfl, hgrace⟩)
      · rw [if_neg hgrace, if_neg hgrace]
        exact .stays rfl (by simpa [hleaves] using hgrace)

theorem emptyRoomTurn_agrees (hside : side.Guards quietly)
    (hleaves : leaves ↔ cfg.timeouts.emptyRoomS ≤ poll.now - s.admittedAt) :
    Agrees leaves (quietly poll) (emptyRoomTurn side cfg s poll)
      (emptyRoomTurn side cfg s poll.calm) := by
  unfold emptyRoomTurn
  rw [Poll.now_calm]
  by_cases hempty : cfg.timeouts.emptyRoomS ≤ poll.now - s.admittedAt
  · rw [if_pos hempty, if_pos hempty]
    exact .bind rfl fun _ _ => finishRecording_agrees hside (hleaves.2 hempty)
  · rw [if_neg hempty, if_neg hempty]
    exact .stays rfl (mt hleaves.1 hempty)

theorem unknownRoomTurn_agrees (hside : side.Guards quietly)
    (hleaves : leaves ↔ cfg.timeouts.emptyRoomS ≤ poll.now - s.unknownSince.getD poll.now)
    (detail : Text) :
    Agrees leaves (quietly poll) (unknownRoomTurn side cfg s poll detail)
      (unknownRoomTurn side cfg s poll.calm detail) := by
  unfold unknownRoomTurn
  rw [Poll.now_calm]
  dsimp only
  by_cases hempty : cfg.timeouts.emptyRoomS ≤ poll.now - s.unknownSince.getD poll.now
  · rw [if_pos hempty, if_pos hempty]
    exact .evidence_bind (.bind rfl fun _ _ =>
      finishRecording_agrees hside (hleaves.2 hempty))
  · have hstays : ¬ leaves := mt hleaves.1 hempty
    rw [if_neg hempty, if_neg hempty]
    by_cases hevidence : s.nextUnknownEvidence ≤ poll.now
    · rw [if_pos hevidence, if_pos hevidence]
      exact .evidence_bind (.stays rfl hstays)
    · rw [if_neg hevidence, if_neg hevidence]
      exact .stays rfl hstays

theorem participantTurn_agrees (hside : side.Guards quietly)
    (hleaves : leaves ↔ RoomDeadline cfg s poll) :
    Agrees leaves (quietly poll) (participantTurn side cfg s poll)
      (participantTurn side cfg s poll.calm) := by
  apply Agrees.read_bind
  rintro ⟨count, countDetail⟩ hcount
  apply Agrees.read_bind
  rintro ⟨alone, aloneDetail⟩ halone
  have hroom : poll.room = some (roomReading count alone) := by
    rw [Poll.room, hcount, halone]
  unfold RoomDeadline at hleaves
  rw [hroom] at hleaves
  dsimp only
  split_ifs with htwo hbot hothers hothers'
  · rw [roomReading, if_pos htwo] at hleaves
    exact .stays rfl (by simp [hleaves])
  · rw [roomReading, if_neg htwo, if_pos hbot] at hleaves
    exact aloneTurn_agrees hside (by simpa [hothers] using hleaves) aloneDetail
  · rw [roomReading, if_neg htwo, if_pos hbot] at hleaves
    exact emptyRoomTurn_agrees hside (by simpa [hothers] using hleaves)
  · rw [roomReading, if_neg htwo, if_neg hbot] at hleaves
    exact .stays rfl (by simp [hleaves, hothers'])
  · rw [roomReading, if_neg htwo, if_neg hbot] at hleaves
    exact unknownRoomTurn_agrees hside (by simpa [hothers'] using hleaves) countDetail

theorem missedControlsTurn_agrees (hstays : ¬ leaves) :
    Agrees leaves quiet (missedControlsTurn side cfg s poll)
      (missedControlsTurn side cfg s poll.calm) := by
  unfold missedControlsTurn
  dsimp only
  split_ifs
  · exact .evidence_bind (.stays rfl hstays)
  · exact .stays rfl hstays

theorem recorderFailed_agrees (hstays : ¬ leaves) (e : PageError) :
    Agrees leaves quiet (recorderFailed side cfg poll e) (recorderFailed side cfg poll.calm e) :=
  .bind rfl fun _ _ => .evidence_bind (.stays rfl hstays)

theorem result_recordingBegan_calm (pid : ℕ) :
    (recordingBegan side s poll pid).result = (recordingBegan side s poll.calm pid).result := by
  rw [result_recordingBegan, result_recordingBegan]
  rfl

theorem leaves_iff {controls : Bool} {removedDetail endedDetail : Text} (hs : s.recordingStarted)
    (hstop : ¬ poll.stopRequested) (hremoved : poll.removed = .ok (false, removedDetail))
    (hended : poll.ended = .ok (false, endedDetail)) :
    Leaves cfg s poll controls ↔ poll.recorderRunning = false ∨
      cfg.timeouts.maxRecordS ≤ poll.now - s.admittedAt ∨ controls ∧ RoomDeadline cfg s poll := by
  unfold Leaves
  rw [hremoved, hended]
  simp [hs, hstop, reads]

theorem not_leaves_of_notice {controls : Bool} (hstop : ¬ poll.stopRequested)
    (hnotice : reads poll.removed ∨ reads poll.ended) : ¬ Leaves cfg s poll controls := by
  rintro ⟨-, hrequested | ⟨hremoved, hended, -⟩⟩
  · exact hstop hrequested
  · rcases hnotice with h | h
    · exact absurd (hremoved.symm.trans h) Bool.false_ne_true
    · exact absurd (hended.symm.trans h) Bool.false_ne_true

theorem recordingChecks_agrees (hside : side.Guards quietly) (hs : s.recordingStarted)
    (hstop : ¬ poll.stopRequested) {removed ended : Bool × Text} (hremoved : poll.removed = .ok removed)
    (hended : poll.ended = .ok ended) {controls : Bool} {absent calmAbsent : Turn}
    (habsent : ¬ Leaves cfg s poll controls →
      Agrees (Leaves cfg s poll controls) (quietly poll) absent calmAbsent) :
    Agrees (Leaves cfg s poll controls) (quietly poll)
      (recordingChecks side cfg s poll removed ended controls absent)
      (recordingChecks side cfg s poll.calm removed ended controls calmAbsent) := by
  obtain ⟨removed, removedDetail⟩ := removed
  obtain ⟨ended, endedDetail⟩ := ended
  cases removed with
  | true =>
      exact .stays rfl (not_leaves_of_notice hstop (.inl (by rw [hremoved]; rfl)))
  | false =>
      cases ended with
      | true =>
          exact .stays rfl (not_leaves_of_notice hstop (.inr (by rw [hended]; rfl)))
      | false =>
          have hleaves : Leaves cfg s poll controls ↔ _ := leaves_iff hs hstop hremoved hended
          unfold recordingChecks
          dsimp only
          rw [if_neg Bool.false_ne_true, if_neg Bool.false_ne_true, if_neg Bool.false_ne_true,
            if_neg Bool.false_ne_true, Poll.recorderRunning_calm, Poll.now_calm]
          by_cases hrunning : poll.recorderRunning
          · rw [if_neg (not_not.2 hrunning), if_neg (not_not.2 hrunning)]
            by_cases hmax : cfg.timeouts.maxRecordS ≤ poll.now - s.admittedAt
            · rw [if_pos hmax, if_pos hmax]
              exact maxDurationReached_agrees hside (hleaves.2 (.inr (.inl hmax)))
            · rw [if_neg hmax, if_neg hmax]
              by_cases hcontrols : controls
              · rw [if_pos hcontrols, if_pos hcontrols]
                apply participantTurn_agrees hside
                rw [hleaves]
                simp [hrunning, hmax, hcontrols]
              · rw [if_neg hcontrols, if_neg hcontrols]
                apply habsent
                rw [hleaves]
                simp [hrunning, hmax, hcontrols]
          · rw [if_pos hrunning, if_pos hrunning]
            exact recorderDied_agrees hside (hleaves.2 (.inl (by simpa using hrunning)))

theorem phasedTurn_agrees (hside : side.Guards quietly) {controls : Bool}
    {recording calmRecording : Bool × Text → Bool × Text → Bool × Text → Turn}
    {admission calmAdmission : Text → Turn} {waiting calmWaiting : Turn}
    (hrecording : s.recordingStarted → ¬ poll.stopRequested → ∀ removed ended admitted,
      poll.removed = .ok removed → poll.ended = .ok ended → poll.admitted = .ok admitted →
      Agrees (Leaves cfg s poll controls) (quietly poll) (recording removed ended admitted)
        (calmRecording removed ended admitted))
    (hadmission : ¬ Leaves cfg s poll controls → ∀ detail,
      Agrees (Leaves cfg s poll controls) (quietly poll) (admission detail) (calmAdmission detail))
    (hwaiting : ¬ Leaves cfg s poll controls →
      Agrees (Leaves cfg s poll controls) (quietly poll) waiting calmWaiting) :
    Agrees (Leaves cfg s poll controls) (quietly poll)
      (phasedTurn side cfg s poll recording admission waiting)
      (phasedTurn side cfg s poll.calm calmRecording calmAdmission calmWaiting) := by
  unfold phasedTurn
  rw [Poll.stopRequested_calm]
  by_cases hstop : poll.stopRequested
  · rw [if_pos hstop, if_pos hstop]
    exact handleStop_agrees hside (by simp [Leaves, hstop])
  · rw [if_neg hstop, if_neg hstop]
    apply Agrees.read_bind
    intro removed hremoved
    apply Agrees.read_bind
    intro ended hended
    apply Agrees.read_bind
    intro admitted hadmitted
    by_cases hs : s.recordingStarted
    · rw [if_pos hs, if_pos hs]
      exact hrecording hs hstop removed ended admitted hremoved hended hadmitted
    · have hstays : ¬ Leaves cfg s poll controls := fun h => hs h.1
      rw [if_neg hs, if_neg hs]
      split_ifs
      · exact hadmission hstays admitted.2
      · exact hwaiting hstays

end Turns

/-! ## The Meet loop -/

namespace Meet

theorem guards : side.Guards LeavesQuietly where
  leave_iff := result_leaveMeet_iff
  calm _ := .inr ⟨rfl, rfl⟩

variable {cfg : LoopConfig} {s : LoopState} {poll : MeetPoll} {leaves quiet : Prop}

theorem admissionTurn_agrees (hstays : ¬ leaves) (detail : Text) :
    Agrees leaves quiet (admissionTurn cfg s poll detail) (admissionTurn cfg s poll.calm detail) := by
  apply Agrees.bind rfl
  intro _ _
  have hstart : poll.calm.recorderStart = poll.recorderStart := rfl
  rw [hstart]
  cases poll.recorderStart with
  | ok pid =>
      apply Agrees.stays _ hstays
      exact EventLog.result_bind_congr (result_recordingBegan_calm pid) fun _ _ => rfl
  | error e => exact recorderFailed_agrees hstays e

theorem result_waitingEvidence_calm :
    (waitingEvidence cfg s poll).result = (waitingEvidence cfg s poll.calm).result := by
  unfold waitingEvidence
  have hnow : poll.calm.now = poll.now := rfl
  rw [hnow]
  by_cases hdue : s.nextAdmissionEvidence ≤ poll.now
  · rw [if_pos hdue, if_pos hdue]
    apply EventLog.result_bind_congr
    · rw [result_debugScreenshot, result_debugScreenshot]
    · exact fun _ _ => rfl
  · rw [if_neg hdue, if_neg hdue]

theorem waitingTurn_agrees (hstays : ¬ leaves) :
    Agrees leaves quiet (waitingTurn cfg s poll) (waitingTurn cfg s poll.calm) := by
  apply Agrees.read_bind
  intro blocked _
  by_cases hblocked : blocked
  · rw [if_pos hblocked, if_pos hblocked]
    exact .evidence_bind (.stays rfl hstays)
  · rw [if_neg hblocked, if_neg hblocked]
    have hnow : poll.calm.now = poll.now := rfl
    rw [hnow]
    by_cases htime : cfg.timeouts.waitingRoomS ≤ poll.now - s.start
    · rw [if_pos htime, if_pos htime]
      exact .evidence_bind (.stays rfl hstays)
    · rw [if_neg htime, if_neg htime]
      exact .bind result_waitingEvidence_calm fun _ _ => .stays rfl hstays

theorem unadmittedTurn_agrees (hstays : ¬ leaves) :
    Agrees leaves quiet (unadmittedTurn cfg s poll) (unadmittedTurn cfg s poll.calm) := by
  apply Agrees.read_bind
  intro visible _
  by_cases hvisible : visible
  · rw [if_pos hvisible, if_pos hvisible]
    exact .stays rfl hstays
  · rw [if_neg hvisible, if_neg hvisible]
    exact missedControlsTurn_agrees hstays

theorem step_agrees (cfg : LoopConfig) (s : LoopState) (poll : MeetPoll) :
    Agrees (Leaves cfg s poll.toPoll poll.readsAdmitted) (LeavesQuietly poll.toPoll)
      (step cfg s poll) (step cfg s poll.calm) := by
  rw [step_eq, step_eq]
  apply phasedTurn_agrees guards
  · rintro hs hstop removed ended admitted hremoved hended hadmitted
    rw [recordingTurn_eq, recordingTurn_eq, Poll.readsAdmitted_of_ok hadmitted]
    exact recordingChecks_agrees guards hs hstop hremoved hended unadmittedTurn_agrees
  · exact admissionTurn_agrees
  · exact waitingTurn_agrees

end Meet

/-! ## The Zoom loop -/

namespace Zoom

theorem guards : side.Guards LeavesQuietly where
  leave_iff := result_leaveZoom_iff
  calm _ := ⟨true, rfl⟩

variable {cfg : LoopConfig} {s : LoopState} {poll : ZoomPoll} {leaves quiet : Prop}

theorem admissionTurn_agrees (hstays : ¬ leaves) (detail : Text) :
    Agrees leaves quiet (admissionTurn cfg s poll detail) (admissionTurn cfg s poll.calm detail) := by
  apply Agrees.bind rfl
  intro _ _
  have hstart : poll.calm.recorderStart = poll.recorderStart := rfl
  rw [hstart]
  cases poll.recorderStart with
  | error e => exact recorderFailed_agrees hstays e
  | ok pid =>
      apply Agrees.bind (result_recordingBegan_calm pid)
      intro t _
      apply Agrees.bind
      · rw [result_audio, result_audio]
      · exact fun _ _ => .stays rfl hstays

theorem result_detectFatalWall_calm (walls : List (Reading (Bool × Text) × Text)) :
    (detectFatalWall cfg poll walls).result = (detectFatalWall cfg poll.calm walls).result := by
  induction walls with
  | nil => rfl
  | cons wall walls ih =>
      obtain ⟨predicate, reason⟩ := wall
      apply EventLog.result_bind_congr rfl
      rintro ⟨detected, detail⟩ -
      dsimp only
      by_cases hdetected : detected
      · rw [if_pos hdetected, if_pos hdetected]
        apply EventLog.result_bind_congr
        · rw [result_debugScreenshot, result_debugScreenshot]
        · exact fun _ _ => rfl
      · rw [if_neg hdetected, if_neg hdetected]
        exact ih

theorem result_waitingEvidence_calm :
    (waitingEvidence cfg s poll).result = (waitingEvidence cfg s poll.calm).result := by
  unfold waitingEvidence
  have hnow : poll.calm.now = poll.now := rfl
  rw [hnow]
  by_cases hdue : s.nextAdmissionEvidence ≤ poll.now
  · rw [if_pos hdue, if_pos hdue]
    apply EventLog.result_bind_congr rfl
    rintro ⟨waiting, waitingDetail⟩ -
    apply EventLog.result_bind_congr rfl
    rintro ⟨notStarted, notStartedDetail⟩ -
    apply EventLog.result_bind_congr
    · rw [result_debugScreenshot, result_debugScreenshot]
    · exact fun _ _ => rfl
  · rw [if_neg hdue, if_neg hdue]

theorem waitingTurn_agrees (hstays : ¬ leaves) :
    Agrees leaves quiet (waitingTurn cfg s poll) (waitingTurn cfg s poll.calm) := by
  apply Agrees.bind (result_detectFatalWall_calm (fatalWalls poll))
  intro wall _
  cases wall with
  | some wall => exact .stays rfl hstays
  | none =>
      have hnow : poll.calm.now = poll.now := rfl
      dsimp only
      rw [hnow]
      by_cases htime : cfg.timeouts.waitingRoomS ≤ poll.now - s.start
      · rw [if_pos htime, if_pos htime]
        exact .evidence_bind (.stays rfl hstays)
      · rw [if_neg htime, if_neg htime]
        exact .bind result_waitingEvidence_calm fun _ _ => .stays rfl hstays

theorem step_agrees (cfg : LoopConfig) (s : LoopState) (poll : ZoomPoll) :
    Agrees (Leaves cfg s poll.toPoll poll.readsControls) (LeavesQuietly poll.toPoll)
      (step cfg s poll) (step cfg s poll.calm) := by
  rw [step_eq, step_eq]
  apply phasedTurn_agrees guards
  · rintro hs hstop removed ended - hremoved hended -
    apply Agrees.read_bind
    intro anchor hanchor
    rw [ZoomPoll.readsControls_of_ok hanchor]
    exact recordingChecks_agrees guards hs hstop hremoved hended missedControlsTurn_agrees
  · exact admissionTurn_agrees
  · exact waitingTurn_agrees

end Zoom

/-! ## Runs -/

section Runs

variable {P : Type} (loop : PollingLoop LoopState P BotEvent PageError BotOutcome)
  (view : LoopView P) (cfg : LoopConfig) (quietly : Poll → Prop) (start : ℚ) (polls : List P)

/-- Where the loop leaves a recording, nothing raises that is left unguarded. -/
def QuietExit : Prop :=
  ∀ before p after t, polls = before ++ p :: after →
    (loop.run (.initial start) before).2 = .polling t →
    Leaves cfg t (view.poll p) (view.controls p) → quietly (view.poll p)

variable {loop view cfg quietly start polls} {calm : P → P}

theorem quietExit_of_returned
    (hloop : ∀ s p, Agrees (Leaves cfg s (view.poll p) (view.controls p)) (quietly (view.poll p))
      (loop.step s p) (loop.step s (calm p))) {outcome : BotOutcome}
    (hrun : (loop.run (.initial start) polls).2 = .returned outcome) :
    QuietExit loop view cfg quietly start polls := by
  intro before p after t hpolls hbefore hleaves
  rw [hpolls] at hrun
  obtain ⟨next, hnext⟩ := loop.exists_result_of_returned hrun hbefore
  exact (hloop t p).quiet next hnext hleaves

theorem run_eq_run_calm
    (hloop : ∀ s p, Agrees (Leaves cfg s (view.poll p) (view.controls p)) (quietly (view.poll p))
      (loop.step s p) (loop.step s (calm p)))
    (hquiet : QuietExit loop view cfg quietly start polls) :
    (loop.run (.initial start) polls).2 = (loop.run (.initial start) (polls.map calm)).2 := by
  apply loop.run_map_congr
  intro before p after t hpolls hbefore
  exact (hloop t p).same (hquiet before p after t hpolls hbefore)

theorem same_verdict_iff
    (hloop : ∀ s p, Agrees (Leaves cfg s (view.poll p) (view.controls p)) (quietly (view.poll p))
      (loop.step s p) (loop.step s (calm p))) {others : List P} {outcome : BotOutcome}
    (halike : polls.map calm = others.map calm)
    (hrun : (loop.run (.initial start) polls).2 = .returned outcome) :
    (∃ other, (loop.run (.initial start) others).2 = .returned other ∧
      other.verdict = outcome.verdict) ↔ QuietExit loop view cfg quietly start others := by
  constructor
  · rintro ⟨other, hother, -⟩
    exact quietExit_of_returned hloop hother
  · intro hquiet
    refine ⟨outcome, ?_, rfl⟩
    rw [run_eq_run_calm hloop hquiet, ← halike,
      ← run_eq_run_calm hloop (quietExit_of_returned hloop hrun)]
    exact hrun

end Runs

/-- A run returns what another run on the same polls returns, whatever raises in what is only tried,
exactly when nothing unguarded raises on its way out. -/
theorem bestEffort_iff_quietExit (cfg : LoopConfig) (start : ℚ) (outcome : BotOutcome) :
    (∀ polls others, polls.map MeetPoll.calm = others.map MeetPoll.calm →
      (Meet.runCallLoop cfg start polls).2 = .returned outcome →
      ((∃ other, (Meet.runCallLoop cfg start others).2 = .returned other ∧
        other.verdict = outcome.verdict) ↔
        QuietExit (Meet.loop cfg) Meet.view cfg Meet.LeavesQuietly start others)) ∧
    (∀ polls others, polls.map ZoomPoll.calm = others.map ZoomPoll.calm →
      (Zoom.runCallLoop cfg start polls).2 = .returned outcome →
      ((∃ other, (Zoom.runCallLoop cfg start others).2 = .returned other ∧
        other.verdict = outcome.verdict) ↔
        QuietExit (Zoom.loop cfg) Zoom.view cfg Zoom.LeavesQuietly start others)) := by
  constructor
  · intro polls others halike hrun
    exact same_verdict_iff (Meet.step_agrees cfg) halike hrun
  · intro polls others halike hrun
    exact same_verdict_iff (Zoom.step_agrees cfg) halike hrun

/-! ### A leave control that cannot be clicked -/

def clickTimeout : PageError := ⟨"TimeoutError: Locator.click: Timeout 30000ms exceeded."⟩

def lookupFailure : PageError := ⟨"TargetClosedError: Locator.count: Target page has been closed"⟩

def stoppedOutcome : BotOutcome := ⟨.ok, none, "stop requested", true, by decide, trivial⟩

def stoppedInMeet (click : Reading Unit) : List MeetPoll :=
  [admittedPoll 2, { admittedPoll 4 with stopRequested := true, leaveClick := click }]

def stoppedInZoom (button : Reading Bool) : List ZoomPoll :=
  [{ sampleRest 2 with admitted := .ok (true, []) },
    { sampleRest 4 with stopRequested := true, leaveButton := button }]

theorem not_bestEffort_stopped :
    ((stoppedInMeet (.ok ())).map MeetPoll.calm =
        (stoppedInMeet (.error clickTimeout)).map MeetPoll.calm ∧
      (Meet.runCallLoop sampleConfig 0 (stoppedInMeet (.ok ()))).2 = .returned stoppedOutcome ∧
      (Meet.runCallLoop sampleConfig 0 (stoppedInMeet (.error clickTimeout))).2 =
        .raised clickTimeout) ∧
    ((stoppedInZoom (.ok true)).map ZoomPoll.calm =
        (stoppedInZoom (.error lookupFailure)).map ZoomPoll.calm ∧
      (Zoom.runCallLoop sampleConfig 0 (stoppedInZoom (.ok true))).2 = .returned stoppedOutcome ∧
      (Zoom.runCallLoop sampleConfig 0 (stoppedInZoom (.error lookupFailure))).2 =
        .raised lookupFailure) :=
  ⟨⟨rfl, rfl, rfl⟩, rfl, rfl, rfl⟩

theorem bestEffort_iff_quietExit_stopped :
    ((∃ other, (Meet.runCallLoop sampleConfig 0 (stoppedInMeet (.error clickTimeout))).2 =
        .returned other ∧ other.verdict = stoppedOutcome.verdict) ↔
      QuietExit (Meet.loop sampleConfig) Meet.view sampleConfig Meet.LeavesQuietly 0
        (stoppedInMeet (.error clickTimeout))) ∧
    ((∃ other, (Zoom.runCallLoop sampleConfig 0 (stoppedInZoom (.error lookupFailure))).2 =
        .returned other ∧ other.verdict = stoppedOutcome.verdict) ↔
      QuietExit (Zoom.loop sampleConfig) Zoom.view sampleConfig Zoom.LeavesQuietly 0
        (stoppedInZoom (.error lookupFailure))) :=
  ⟨(bestEffort_iff_quietExit sampleConfig 0 stoppedOutcome).1 (stoppedInMeet (.ok ()))
      (stoppedInMeet (.error clickTimeout)) rfl rfl,
    (bestEffort_iff_quietExit sampleConfig 0 stoppedOutcome).2 (stoppedInZoom (.ok true))
      (stoppedInZoom (.error lookupFailure)) rfl rfl⟩

end Notetaker
