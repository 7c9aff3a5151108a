import Notetaker.EventMonitor
import Notetaker.JoinFlow
import Notetaker.LoopDecisions

/-!
# How a run uses its recorder

`recorderUse` accepts one start, one announcement behind it, and one stop. It accepts the events of every
run, whatever the pages raise, and once the loop has returned the recorder is stopped. If the loop raises
while `parec` lives, the handler stops it.
-/

open PythonText PythonFloat

namespace Notetaker

/-! ## The monitor -/

inductive RecorderPhase where
  | idle
  /-- `Recorder.start` has raised. -/
  | failed
  | recording (announced : Bool)
  | stopped
  deriving DecidableEq

namespace RecorderPhase

def isRecording : RecorderPhase → Bool
  | recording _ => true
  | _ => false

def next : RecorderPhase → BotEvent → Option RecorderPhase
  | phase, .log _ => some phase
  | phase, .leaveClick => some phase
  | idle, .recorderStart true => some (recording false)
  | idle, .recorderStart false => some failed
  | recording false, .announce => some (recording true)
  | recording _, .recorderStop => some stopped
  | _, _ => none

end RecorderPhase

def recorderUse : TransitionSystem RecorderPhase BotEvent where
  init phase := phase = .idle
  step := RecorderPhase.next

/-- The events that do not concern the recorder. -/
def BotEvent.isPlain : BotEvent → Bool
  | .log _ => true
  | .leaveClick => true
  | _ => false

theorem step_of_plain {event : BotEvent} (h : event.isPlain) (phase : RecorderPhase) :
    recorderUse.step phase event = some phase := by
  cases event with
  | log record => rfl
  | leaveClick => rfl
  | _ => cases h

inductive RecorderStep : RecorderPhase → BotEvent → RecorderPhase → Prop where
  | log (phase : RecorderPhase) (record : LogRecord) : RecorderStep phase (.log record) phase
  | leaveClick (phase : RecorderPhase) : RecorderStep phase .leaveClick phase
  | started : RecorderStep .idle (.recorderStart true) (.recording false)
  | failed : RecorderStep .idle (.recorderStart false) .failed
  | announced : RecorderStep (.recording false) .announce (.recording true)
  | stopped (announced : Bool) : RecorderStep (.recording announced) .recorderStop .stopped

theorem RecorderStep.of_step {phase next : RecorderPhase} {event : BotEvent}
    (h : recorderUse.step phase event = some next) : RecorderStep phase event next := by
  change phase.next event = some next at h
  cases event with
  | log record =>
      obtain rfl := Option.some.inj h
      exact .log phase record
  | leaveClick =>
      obtain rfl := Option.some.inj h
      exact .leaveClick phase
  | recorderStart succeeds =>
      cases phase with
      | idle =>
          cases succeeds <;> obtain rfl := Option.some.inj h
          · exact .failed
          · exact .started
      | _ => cases succeeds <;> cases h
  | announce =>
      cases phase with
      | recording announced =>
          cases announced with
          | false =>
              obtain rfl := Option.some.inj h
              exact .announced
          | true => cases h
      | _ => cases h
  | recorderStop =>
      cases phase with
      | recording announced =>
          cases announced <;> obtain rfl := Option.some.inj h <;> exact .stopped _
      | _ => cases h

def Plain {α : Type} (x : Bot α) : Prop := ∀ event ∈ x.events, event.isPlain

namespace Plain

variable {α β : Type} {x : Bot α}

theorem pure (a : α) : Plain (Pure.pure a : Bot α) := EventLog.Emits.pure

theorem read (reading : Reading α) : Plain (EventLog.read reading) := EventLog.Emits.read

theorem log (record : LogRecord) : Plain (EventLog.emit (.log record)) := EventLog.Emits.emit rfl

theorem leaveClick : Plain (EventLog.emit .leaveClick) := EventLog.Emits.emit rfl

theorem bind {f : α → Bot β} (hx : Plain x) (hf : ∀ a, Plain (f a)) : Plain (x >>= f) :=
  EventLog.Emits.bind hx fun a _ => hf a

theorem read_bind {reading : Reading α} {f : α → Bot β} (hf : ∀ a, reading = .ok a → Plain (f a)) :
    Plain (EventLog.read reading >>= f) := EventLog.Emits.read_bind hf

theorem rescue {handler : PageError → Bot α} (hx : Plain x) (hhandler : ∀ e, Plain (handler e)) :
    Plain (x.rescue handler) := EventLog.Emits.rescue hx hhandler

theorem ite {p : Prop} [Decidable p] {y : Bot α} (hx : p → Plain x) (hy : ¬ p → Plain y) :
    Plain (if p then x else y) := EventLog.Emits.ite hx hy

theorem monitored {phase : RecorderPhase} {Q : α → RecorderPhase → Prop}
    {E : PageError → RecorderPhase → Prop} (hx : Plain x) (hQ : ∀ a, x.result = .ok a → Q a phase)
    (hE : ∀ e, x.result = .error e → E e phase) : EventLog.Monitored recorderUse phase x Q E :=
  .steady (fun event hevent => step_of_plain (hx event hevent) phase) hQ hE

end Plain

theorem plain_debugScreenshot (isPrintable : Char → Bool) (evidence : Evidence) (reason : Text) :
    Plain (debugScreenshot isPrintable evidence reason) := by
  cases evidence with
  | failed e => exact .log _
  | saved debugDir timestamp url bodyText => exact .log _

theorem plain_make (exitCode : BotExit) (endReason : Option EndReason) (reason : Text)
    (recordingStarted : Bool) :
    Plain (BotOutcome.make exitCode endReason reason recordingStarted) := by
  unfold BotOutcome.make
  split_ifs
  · exact .pure _
  · exact .read _

/-! ## Turns -/

/-- The recorder is used in order from the phase on, and a computation that returns leaves it as `Q`
says. -/
def Uses {α : Type} (phase : RecorderPhase) (x : Bot α) (Q : α → RecorderPhase → Prop) : Prop :=
  EventLog.Monitored recorderUse phase x Q fun _ _ => True

namespace Uses

variable {α β : Type} {phase : RecorderPhase} {x : Bot α} {Q : α → RecorderPhase → Prop}

theorem plain (hx : Plain x) (h : ∀ a, x.result = .ok a → Q a phase) : Uses phase x Q :=
  hx.monitored h fun _ _ => trivial

theorem bind {f : α → Bot β} {R : β → RecorderPhase → Prop}
    (h : Uses phase x fun a ψ => Uses ψ (f a) R) : Uses phase (x >>= f) R :=
  EventLog.Monitored.bind h

theorem plain_bind {f : α → Bot β} {R : β → RecorderPhase → Prop} (hx : Plain x)
    (hf : ∀ a, x.result = .ok a → Uses phase (f a) R) : Uses phase (x >>= f) R :=
  bind (plain hx hf)

theorem read_bind {reading : Reading α} {f : α → Bot β} {R : β → RecorderPhase → Prop}
    (hf : ∀ a, reading = .ok a → Uses phase (f a) R) :
    Uses phase (EventLog.read reading >>= f) R := plain_bind (.read reading) hf

theorem emit_bind {event : BotEvent} {ψ : RecorderPhase} {f : Unit → Bot β}
    {R : β → RecorderPhase → Prop} (hstep : recorderUse.step phase event = some ψ)
    (hf : Uses ψ (f ()) R) : Uses phase (EventLog.emit event >>= f) R :=
  bind (EventLog.Monitored.emit hstep hf)

end Uses

def LoopState.recorderPhase (s : LoopState) : RecorderPhase :=
  if s.recordingStarted then .recording true else .idle

/-- A turn goes on in the phase of its state, or returns with the recorder not recording. -/
def TurnUses (phase : RecorderPhase) (turn : Turn) : Prop :=
  Uses phase turn fun next ψ =>
    Sum.elim (fun t => ψ = t.recorderPhase) (fun _ => ψ.isRecording = false) next

section Turns

variable {side : LoopSide} {cfg : LoopConfig} {s : LoopState} {poll : Poll} {phase : RecorderPhase}

theorem keepPolling_uses (h : phase = s.recorderPhase) : TurnUses phase (keepPolling poll s) :=
  .read_bind fun _ _ => .plain (.pure _) fun next hnext => by
    cases hnext
    exact h

theorem make_uses {exitCode : BotExit} {endReason : Option EndReason} {reason : Text}
    {started : Bool} (h : phase.isRecording = false) :
    TurnUses phase (do return .inr (← BotOutcome.make exitCode endReason reason started)) :=
  .plain_bind (plain_make _ _ _ _) fun _ _ => .plain (.pure _) fun next hnext => by
    cases hnext
    exact h

theorem plain_stopReport (report : StopReport) : Plain (match report.size with
    | some bytes => info recordLogger (concat ["recording finished: ", natText bytes, " bytes"])
    | none => error recordLogger "recording file missing after stop" : Bot Unit) := by
  cases report.size with
  | some bytes => exact .log _
  | none => exact .log _

theorem recorderStop_monitored (stop : Reading StopReport) {announced : Bool}
    {Q : Unit → RecorderPhase → Prop} {E : PageError → RecorderPhase → Prop} (hQ : Q () .stopped)
    (hE : ∀ e, E e .stopped) :
    EventLog.Monitored recorderUse (.recording announced) (recorderStop stop) Q E := by
  apply EventLog.Monitored.bind
  apply EventLog.Monitored.emit rfl
  refine Plain.monitored ?_ (fun _ _ => hQ) fun e _ => hE e
  cases stop with
  | error e => exact .bind (.log _) fun _ => .read _
  | ok report =>
      have hsize := plain_stopReport report
      have hcode := Plain.ite (p := report.exitCode ≠ 0)
        (fun _ => .bind (.log ⟨warningLevel, recordLogger,
          concat ["parec exited with code ", intText report.exitCode]⟩) fun _ => hsize)
        fun _ => hsize
      exact .ite (fun _ => .bind (.log _) fun _ => hcode) fun _ => hcode

theorem stopRecording_monitored {announced : Bool} {Q : Unit → RecorderPhase → Prop}
    {E : PageError → RecorderPhase → Prop} (hQ : Q () .stopped) (hE : ∀ e, E e .stopped) :
    EventLog.Monitored recorderUse (.recording announced) (stopRecording side poll) Q E :=
  .bind (recorderStop_monitored poll.recorderStop
    (Plain.monitored (.log _) (fun _ _ => hQ) fun e _ => hE e) hE)

theorem finishRecording_uses (hleave : Plain (side.leave poll)) {announced : Bool}
    {toState reason : Text} {exitCode : BotExit} {endReason : Option EndReason} :
    TurnUses (.recording announced)
      (finishRecording side cfg s poll toState reason exitCode endReason) := by
  apply Uses.bind
  apply EventLog.Monitored.ensure
  apply hleave.monitored
  · intro _ _
    apply stopRecording_monitored
    · exact .plain_bind (.log _) fun _ _ => make_uses rfl
    · exact fun _ => trivial
  · intro _ _
    exact stopRecording_monitored trivial fun _ => trivial

theorem handleStop_uses (hleave : Plain (side.leave poll)) :
    TurnUses s.recorderPhase (handleStop side cfg s poll) := by
  unfold handleStop LoopState.recorderPhase
  split_ifs with hs
  · exact finishRecording_uses hleave
  · exact .plain_bind (.log _) fun _ _ => .plain_bind (.log _) fun _ _ => make_uses rfl

theorem endOnNotice_uses {announced : Bool} {toState reason lastLine : Text} {exitCode : BotExit}
    {endReason : EndReason} :
    TurnUses (.recording announced)
      (endOnNotice side cfg s poll toState reason lastLine exitCode endReason) := by
  apply Uses.bind
  apply EventLog.Monitored.ensure
  apply stopRecording_monitored
  · refine Plain.monitored (.log _) (fun _ _ => ?_) fun _ _ => trivial
    exact .plain_bind (.log _) fun _ _ => make_uses rfl
  · exact fun _ => Plain.monitored (.log _) (fun _ _ => trivial) fun _ _ => trivial

theorem recorderDied_uses (hleave : Plain (side.leave poll)) {announced : Bool} :
    TurnUses (.recording announced) (recorderDied side cfg s poll) :=
  .plain_bind (plain_debugScreenshot _ _ _) fun _ _ => .plain_bind (.log _) fun _ _ =>
    finishRecording_uses hleave

theorem maxDurationReached_uses (hleave : Plain (side.leave poll)) {announced : Bool} :
    TurnUses (.recording announced) (maxDurationReached side cfg s poll) :=
  .plain_bind (.log _) fun _ _ => finishRecording_uses hleave

theorem participantTurn_uses (hleave : Plain (side.leave poll)) (hs : s.recordingStarted) :
    TurnUses (.recording true) (participantTurn side cfg s poll) := by
  apply Uses.read_bind
  rintro ⟨count, countDetail⟩ -
  apply Uses.read_bind
  rintro ⟨alone, aloneDetail⟩ -
  have hphase : ∀ t : LoopState, t.recordingStarted = s.recordingStarted →
      RecorderPhase.recording true = t.recorderPhase := by
    intro t ht
    rw [LoopState.recorderPhase, if_pos (ht.trans hs)]
  dsimp only
  split_ifs
  · exact keepPolling_uses (hphase _ rfl)
  · unfold aloneTurn
    dsimp only
    split
    · exact .plain_bind (.log _) fun _ _ => keepPolling_uses (hphase _ rfl)
    · split_ifs
      · exact finishRecording_uses hleave
      · exact keepPolling_uses (hphase _ rfl)
  · unfold emptyRoomTurn
    split_ifs
    · exact .plain_bind (.log _) fun _ _ => finishRecording_uses hleave
    · exact keepPolling_uses (hphase _ rfl)
  · exact keepPolling_uses (hphase _ rfl)
  · unfold unknownRoomTurn
    dsimp only
    split_ifs
    · exact .plain_bind (plain_debugScreenshot _ _ _) fun _ _ => .plain_bind (.log _) fun _ _ =>
        finishRecording_uses hleave
    · exact .plain_bind (plain_debugScreenshot _ _ _) fun _ _ => .plain_bind (.log _) fun _ _ =>
        keepPolling_uses (hphase _ rfl)
    · exact keepPolling_uses (hphase _ rfl)

theorem missedControlsTurn_uses (hs : s.recordingStarted) :
    TurnUses (.recording true) (missedControlsTurn side cfg s poll) := by
  unfold missedControlsTurn
  dsimp only
  split_ifs
  · exact .plain_bind (plain_debugScreenshot _ _ _) fun _ _ => endOnNotice_uses
  · exact keepPolling_uses (if_pos hs).symm

theorem recorderFailed_uses (e : PageError) :
    TurnUses .idle (recorderFailed side cfg poll e) :=
  .emit_bind rfl (.plain_bind (plain_debugScreenshot _ _ _) fun _ _ => .plain_bind (.log _)
    fun _ _ => .plain_bind (.log _) fun _ _ => make_uses rfl)

theorem recordingBegan_uses (pid : ℕ) {Q : LoopState → RecorderPhase → Prop}
    (hQ : ∀ t, t.recordingStarted → Q t (.recording true)) :
    Uses .idle (recordingBegan side s poll pid) Q := by
  apply Uses.bind
  apply Uses.emit_bind (ψ := .recording false) rfl
  refine Uses.plain (.log _) fun _ _ => ?_
  apply Uses.plain_bind (.log _)
  intro _ _
  apply Uses.emit_bind (ψ := .recording true) rfl
  cases poll.announce with
  | ok u => exact .plain (.pure _) fun t ht => hQ t (by cases ht; rfl)
  | error e =>
      exact .plain_bind (.log _) fun _ _ => .plain (.pure _) fun t ht => hQ t (by cases ht; rfl)

theorem recordingChecks_uses (hleave : Plain (side.leave poll)) (hs : s.recordingStarted)
    {removed ended : Bool × Text} {controls : Bool} {absent : Turn}
    (habsent : TurnUses (.recording true) absent) :
    TurnUses (.recording true) (recordingChecks side cfg s poll removed ended controls absent) := by
  unfold recordingChecks
  split_ifs
  · exact endOnNotice_uses
  · exact endOnNotice_uses
  · exact maxDurationReached_uses hleave
  · exact participantTurn_uses hleave hs
  · exact habsent
  · exact recorderDied_uses hleave

end Turns

theorem LoopState.recorderPhase_eq_idle {s : LoopState} (hs : ¬ s.recordingStarted) :
    s.recorderPhase = .idle := if_neg hs

theorem LoopState.recorderPhase_eq_recording {s : LoopState} (hs : s.recordingStarted) :
    s.recorderPhase = .recording true := if_pos hs

theorem GoesOn.recordingStarted_eq {cfg : LoopConfig} {s t : LoopState} {poll : Poll}
    {controls : Bool} {gone : Prop} (h : GoesOn cfg s poll controls gone t) :
    t.recordingStarted = (s.recordingStarted || poll.readsAdmitted) := by
  cases h with
  | waits next hs hadmitted htime => simp [hs, hadmitted]
  | began hs hadmitted => simp [hadmitted]
  | contradicted h hcontrols => simp [h.recording]
  | missed h hcontrols hgone hmissed => simp [h.recording]
  | others h hcontrols hroom => simp [h.recording]
  | aloneWithHistory h hcontrols hroom hothers htime => simp [h.recording]
  | emptyRoom h hcontrols hroom hothers htime => simp [h.recording]
  | lostCount h hcontrols hroom hothers => simp [h.recording]
  | unknownRoom next h hcontrols hroom hothers htime => simp [h.recording]

theorem plain_handleStop {side : LoopSide} {cfg : LoopConfig} {s : LoopState} {poll : Poll}
    (hs : ¬ s.recordingStarted) : Plain (handleStop side cfg s poll) := by
  unfold handleStop
  rw [if_neg hs]
  exact .bind (.log _) fun _ => .bind (.log _) fun _ => .bind (plain_make _ _ _ _) fun _ => .pure _

theorem waiting_uses {P : Type} {loop : PollingLoop LoopState P BotEvent PageError BotOutcome}
    {view : LoopView P} {cfg : LoopConfig} (hloop : Follows loop view cfg) {s : LoopState} {p : P}
    (hs : ¬ s.recordingStarted) (hadmitted : (view.poll p).readsAdmitted = false)
    (hplain : Plain (loop.step s p)) : TurnUses s.recorderPhase (loop.step s p) := by
  refine Uses.plain hplain fun next hnext => ?_
  rw [LoopState.recorderPhase_eq_idle hs]
  cases next with
  | inr outcome => rfl
  | inl t =>
      have hgoes : GoesOn _ _ _ _ _ t := hloop s p (.inl t) hnext
      have ht : ¬ t.recordingStarted := by simp [hgoes.recordingStarted_eq, hs, hadmitted]
      exact (LoopState.recorderPhase_eq_idle ht).symm

section Phases

variable {side : LoopSide} {cfg : LoopConfig} {s : LoopState} {poll : Poll}
  {recording : Bool × Text → Bool × Text → Bool × Text → Turn} {admission : Text → Turn}
  {waiting : Turn}

theorem plain_phasedTurn (hs : ¬ s.recordingStarted) (hadmitted : poll.readsAdmitted = false)
    (hwaiting : Plain waiting) : Plain (phasedTurn side cfg s poll recording admission waiting) := by
  apply Plain.ite
  · intro _
    exact plain_handleStop hs
  · intro _
    apply Plain.bind (.read _)
    intro removed
    apply Plain.bind (.read _)
    intro ended
    apply Plain.read_bind
    intro admitted hread
    rw [Poll.readsAdmitted_of_ok hread] at hadmitted
    rw [if_neg hs, hadmitted]
    exact hwaiting

theorem phasedTurn_uses (hleave : Plain (side.leave poll))
    (hadmitted : s.recordingStarted ∨ poll.readsAdmitted)
    (hrecording : s.recordingStarted → ∀ removed ended admitted,
      TurnUses (.recording true) (recording removed ended admitted))
    (hadmission : ∀ detail, TurnUses .idle (admission detail)) :
    TurnUses s.recorderPhase (phasedTurn side cfg s poll recording admission waiting) := by
  unfold phasedTurn
  by_cases hstop : poll.stopRequested
  · rw [if_pos hstop]
    exact handleStop_uses hleave
  · rw [if_neg hstop]
    apply Uses.read_bind
    intro removed _
    apply Uses.read_bind
    intro ended _
    apply Uses.read_bind
    intro admitted hread
    by_cases hs : s.recordingStarted
    · rw [LoopState.recorderPhase_eq_recording hs, if_pos hs]
      exact hrecording hs removed ended admitted
    · have hseen : admitted.1 = true :=
        (Poll.readsAdmitted_of_ok hread).symm.trans (hadmitted.resolve_left hs)
      rw [LoopState.recorderPhase_eq_idle hs, if_neg hs, if_pos hseen]
      exact hadmission admitted.2

end Phases

/-! ## The Meet loop -/

namespace Meet

variable {cfg : LoopConfig} {s : LoopState} {poll : MeetPoll}

theorem plain_leave (poll : Poll) : Plain (side.leave poll) := by
  apply Plain.bind (.read _)
  intro found
  apply Plain.ite
  · exact fun _ => .bind .leaveClick fun _ => .bind (.read _) fun _ => .log _
  · exact fun _ => .log _

theorem plain_waitingTurn : Plain (waitingTurn cfg s poll) := by
  apply Plain.bind (.read _)
  intro blocked
  apply Plain.ite
  · exact fun _ => .bind (plain_debugScreenshot _ _ _) fun _ => .bind (.log _) fun _ =>
      .bind (.log _) fun _ => .bind (plain_make _ _ _ _) fun _ => .pure _
  · intro _
    apply Plain.ite
    · exact fun _ => .bind (plain_debugScreenshot _ _ _) fun _ => .bind (.log _) fun _ =>
        .bind (.log _) fun _ => .bind (plain_make _ _ _ _) fun _ => .pure _
    · intro _
      apply Plain.bind
      · apply Plain.ite
        · exact fun _ => .bind (plain_debugScreenshot _ _ _) fun _ => .bind (.read _) fun _ =>
            .ite (fun _ => .bind (.log _) fun _ => .pure _) fun _ => .pure _
        · exact fun _ => .pure _
      · exact fun _ => .bind (.read _) fun _ => .pure _

theorem admissionTurn_uses (detail : Text) : TurnUses .idle (admissionTurn cfg s poll detail) := by
  apply Uses.plain_bind (.log _)
  intro _ _
  cases poll.recorderStart with
  | ok pid =>
      apply Uses.bind
      apply recordingBegan_uses
      intro t ht
      refine Uses.plain (.pure _) fun next hnext => ?_
      cases hnext
      exact (LoopState.recorderPhase_eq_recording ht).symm
  | error e => exact recorderFailed_uses e

theorem unadmittedTurn_uses (hs : s.recordingStarted) :
    TurnUses (.recording true) (unadmittedTurn cfg s poll) := by
  apply Uses.read_bind
  intro visible _
  split_ifs
  · exact .plain_bind (.log _) fun _ _ => keepPolling_uses (if_pos hs).symm
  · exact missedControlsTurn_uses hs

theorem plain_step (hs : ¬ s.recordingStarted) (hadmitted : poll.readsAdmitted = false) :
    Plain (step cfg s poll) := plain_phasedTurn hs hadmitted plain_waitingTurn

theorem step_uses (cfg : LoopConfig) (s : LoopState) (poll : MeetPoll) :
    TurnUses s.recorderPhase (step cfg s poll) := by
  by_cases hwaits : ¬ s.recordingStarted ∧ poll.readsAdmitted = false
  · exact waiting_uses (follows cfg) hwaits.1 hwaits.2 (plain_step hwaits.1 hwaits.2)
  · apply phasedTurn_uses (plain_leave _) (by simpa [or_iff_not_imp_left] using hwaits)
    · exact fun hs _ _ _ => recordingChecks_uses (plain_leave _) hs (unadmittedTurn_uses hs)
    · exact admissionTurn_uses

end Meet

/-! ## The Zoom loop -/

namespace Zoom

variable {cfg : LoopConfig} {s : LoopState} {poll : ZoomPoll}

theorem plain_leave (poll : Poll) : Plain (side.leave poll) := by
  apply Plain.bind (.read _)
  intro found
  apply Plain.ite
  · intro _
    apply Plain.bind .leaveClick
    intro _
    cases poll.leaveClick with
    | ok u => exact .log _
    | error e => exact .log _
  · exact fun _ => .log _

theorem plain_muteMedia (toggle : MediaToggle) (label : Text) (required : Bool)
    (alreadyOffMarkers : List Text) : Plain (muteMedia toggle label required alreadyOffMarkers) := by
  apply Plain.bind (.read _)
  intro found
  apply Plain.ite
  · exact fun _ => .ite (fun _ => .bind (.log _) fun _ => .pure _)
      fun _ => .bind (.log _) fun _ => .pure _
  · intro _
    apply Plain.bind (.read _)
    intro aria
    apply Plain.ite
    · exact fun _ => .bind (.log _) fun _ => .pure _
    · intro _
      cases toggle.click with
      | ok u => exact .bind (.log _) fun _ => .pure _
      | error e =>
          exact .ite (fun _ => .bind (.log _) fun _ => .pure _)
            fun _ => .bind (.log _) fun _ => .pure _

theorem plain_audio : Plain ((joinComputerAudio cfg poll).rescue
    (exception zoomLogger "joining computer audio failed; continuing")) := by
  apply Plain.rescue
  · apply Plain.bind (.read _)
    intro found
    have hmute := plain_muteMedia poll.microphone "microphone" false micAlreadyOff
    apply Plain.ite
    · exact fun _ => .bind (.read _) fun _ => .bind (.log _) fun _ => .bind hmute fun _ => .pure _
    · exact fun _ => .bind (plain_debugScreenshot _ _ _) fun _ => .bind (.log _) fun _ =>
        .bind hmute fun _ => .pure _
  · exact fun e => .log _

theorem plain_detectFatalWall (cfg : LoopConfig) (poll : ZoomPoll)
    (walls : List (Reading (Bool × Text) × Text)) : Plain (detectFatalWall cfg poll walls) := by
  induction walls with
  | nil => exact .pure _
  | cons wall walls ih =>
      obtain ⟨predicate, reason⟩ := wall
      apply Plain.bind (.read _)
      rintro ⟨detected, detail⟩
      apply Plain.ite
      · exact fun _ => .bind (plain_debugScreenshot _ _ _) fun _ => .bind (.log _) fun _ =>
          .bind (plain_make _ _ _ _) fun _ => .pure _
      · exact fun _ => ih

theorem plain_waitingTurn : Plain (waitingTurn cfg s poll) := by
  apply Plain.bind (plain_detectFatalWall _ _ _)
  intro wall
  cases wall with
  | some wall => exact .bind (.log _) fun _ => .pure _
  | none =>
      apply Plain.ite
      · exact fun _ => .bind (plain_debugScreenshot _ _ _) fun _ => .bind (.read _) fun _ =>
          .bind (.log _) fun _ => .bind (.log _) fun _ => .bind (plain_make _ _ _ _) fun _ => .pure _
      · intro _
        apply Plain.bind
        · apply Plain.ite
          · exact fun _ => .bind (.read _) fun _ => .bind (.read _) fun _ =>
              .bind (plain_debugScreenshot _ _ _) fun _ => .bind (.log _) fun _ => .pure _
          · exact fun _ => .pure _
        · exact fun _ => .bind (.read _) fun _ => .pure _

theorem admissionTurn_uses (detail : Text) : TurnUses .idle (admissionTurn cfg s poll detail) := by
  apply Uses.plain_bind (.log _)
  intro _ _
  cases poll.recorderStart with
  | error e => exact recorderFailed_uses e
  | ok pid =>
      apply Uses.bind
      apply recordingBegan_uses
      intro t ht
      apply Uses.plain_bind plain_audio
      intro _ _
      refine Uses.plain (.pure _) fun next hnext => ?_
      cases hnext
      exact (LoopState.recorderPhase_eq_recording ht).symm

theorem plain_step (hs : ¬ s.recordingStarted) (hadmitted : poll.readsAdmitted = false) :
    Plain (step cfg s poll) := plain_phasedTurn hs hadmitted plain_waitingTurn

theorem step_uses (cfg : LoopConfig) (s : LoopState) (poll : ZoomPoll) :
    TurnUses s.recorderPhase (step cfg s poll) := by
  by_cases hwaits : ¬ s.recordingStarted ∧ poll.readsAdmitted = false
  · exact waiting_uses (follows cfg) hwaits.1 hwaits.2 (plain_step hwaits.1 hwaits.2)
  · apply phasedTurn_uses (plain_leave _) (by simpa [or_iff_not_imp_left] using hwaits)
    · exact fun hs _ _ _ => Uses.read_bind fun _ _ =>
        recordingChecks_uses (plain_leave _) hs (missedControlsTurn_uses hs)
    · exact admissionTurn_uses

end Zoom

end Notetaker
