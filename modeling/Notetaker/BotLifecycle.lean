import Notetaker.BotEnvironment
import Notetaker.PollingLoop

/-!
# The lifecycle of a bot in a call

The parts that the Meet loop and the Zoom loop share: outcomes and exit codes, log records, the
recorder, the page evidence, and what a poll does while recording. A poll is everything that one turn
of the loop may read. A reading that raises ends the loop, except where the loop catches it. Times are
in seconds.
-/

open PythonText PythonFloat PythonUuid JsonText

namespace Notetaker

/-- An exception, with the traceback that `logger.exception` prints. -/
structure PageError where
  traceback : Text

abbrev Reading := Except PageError

structure LogRecord where
  level : ℕ
  logger : Text
  message : Text
  deriving DecidableEq

inductive BotEvent where
  | log (record : LogRecord)
  /-- A call of `Recorder.start`. -/
  | recorderStart (succeeds : Bool)
  | recorderStop
  | leaveClick
  | announce

abbrev Bot := EventLog BotEvent PageError

def infoLevel : ℕ := 20

def warningLevel : ℕ := 30

def errorLevel : ℕ := 40

def info (logger message : Text) : Bot Unit := .emit (.log ⟨infoLevel, logger, message⟩)

def warning (logger message : Text) : Bot Unit := .emit (.log ⟨warningLevel, logger, message⟩)

def error (logger message : Text) : Bot Unit := .emit (.log ⟨errorLevel, logger, message⟩)

/-- `logger.exception(message)` in the handler of `e`. -/
def exception (logger message : Text) (e : PageError) : Bot Unit :=
  error logger (concat [message, "\n", e.traceback])

/-! ## Outcomes -/

inductive BotExit where
  | ok | neverAdmitted | removed | joinTimeout | botError | consentMissing | silentRecording
  deriving DecidableEq

def BotExit.code : BotExit → ℤ
  | ok => 0
  | neverAdmitted => 2
  | removed => 3
  | joinTimeout => 4
  | botError => 5
  | consentMissing => 6
  | silentRecording => 7

inductive EndReason where
  | callEnded | removed | alone | giveUp
  deriving DecidableEq

def EndReason.text : EndReason → Text
  | callEnded => "call_ended"
  | removed => "removed"
  | alone => "alone"
  | giveUp => "give_up"

/-- An end reason goes with the removal exit or with the clean one. -/
def EndReason.Fits (exitCode : BotExit) : Option EndReason → Prop
  | none => True
  | some .removed => exitCode = .removed
  | some _ => exitCode = .ok

instance (exitCode : BotExit) : DecidablePred (EndReason.Fits exitCode)
  | none => inferInstanceAs (Decidable True)
  | some .removed => inferInstanceAs (Decidable (exitCode = .removed))
  | some .callEnded | some .alone | some .giveUp => inferInstanceAs (Decidable (exitCode = .ok))

structure BotOutcome where
  exitCode : BotExit
  endReason : Option EndReason
  reason : Text
  recordingStarted : Bool
  reason_ne_nil : reason ≠ []
  fits : EndReason.Fits exitCode endReason

/-- The constructor with its `__post_init__`. -/
def BotOutcome.make (exitCode : BotExit) (endReason : Option EndReason) (reason : Text)
    (recordingStarted : Bool) : Bot BotOutcome :=
  if h : reason ≠ [] ∧ EndReason.Fits exitCode endReason then
    pure ⟨exitCode, endReason, reason, recordingStarted, h.1, h.2⟩
  else .read (.error ⟨"ValueError"⟩)

theorem BotOutcome.of_make {exitCode : BotExit} {endReason : Option EndReason} {reason : Text}
    {recordingStarted : Bool} {outcome : BotOutcome}
    (h : (make exitCode endReason reason recordingStarted).result = .ok outcome) :
    outcome.exitCode = exitCode ∧ outcome.endReason = endReason ∧ outcome.reason = reason ∧
      outcome.recordingStarted = recordingStarted := by
  unfold make at h
  split_ifs at h
  · cases h
    exact ⟨rfl, rfl, rfl, rfl⟩
  · cases h

/-! ## Evidence and the recorder -/

def statesLogger : Text := "oreeai.bot.states"

def recordLogger : Text := "oreeai.bot.record"

/-- What `debug_screenshot` finds: a screenshot that fails, or one with the text of the page, which
is empty when it cannot be read. -/
inductive Evidence where
  | failed (e : PageError)
  | saved (debugDir timestamp url bodyText : Text)

def textSnippetChars : ℕ := 300

def evidenceMessage (isPrintable : Char → Bool) (reason debugDir timestamp url bodyText : Text) :
    Text :=
  let path := concat [debugDir.rdropWhile (· = '/'), "/oreeai-debug-", timestamp, ".png"]
  let snippet := (normalize bodyText).take textSnippetChars
  concat ["state detection stalled (", reason, "); url=", url, "; saved ", path, "; text=",
    reprText isPrintable snippet]

def debugScreenshot (isPrintable : Char → Bool) (evidence : Evidence) (reason : Text) : Bot Unit :=
  match evidence with
  | .failed e =>
      exception statesLogger (concat ["failed to save debug screenshot (", reason, ")"]) e
  | .saved debugDir timestamp url bodyText =>
      warning statesLogger (evidenceMessage isPrintable reason debugDir timestamp url bodyText)

/-- A `Recorder.start` that succeeds, with the pid of `parec`. -/
def recorderStarted (pid : ℕ) : Bot Unit := do
  .emit (.recorderStart true)
  info recordLogger (concat ["parec running (pid ", natText pid, ")"])

structure StopReport where
  killed : Bool
  exitCode : ℤ
  /-- The size of the recording, if there is a file. -/
  size : Option ℕ

/-- `Recorder.stop`; it raises when `parec` survives the kill. -/
def recorderStop (stop : Reading StopReport) : Bot Unit := do
  .emit .recorderStop
  match stop with
  | .error e => do
      warning recordLogger "parec did not stop on SIGTERM; killing (WAV may be truncated)"
      .read (.error e)
  | .ok report => do
      if report.killed then
        warning recordLogger "parec did not stop on SIGTERM; killing (WAV may be truncated)"
      if report.exitCode ≠ 0 then
        warning recordLogger (concat ["parec exited with code ", intText report.exitCode])
      match report.size with
      | some bytes => info recordLogger (concat ["recording finished: ", natText bytes, " bytes"])
      | none => error recordLogger "recording file missing after stop"

/-! ## Polls and the state of the loop -/

/-- What both loops may read in one turn. -/
structure Poll where
  stopRequested : Bool
  now : ℚ
  removed : Reading (Bool × Text)
  ended : Reading (Bool × Text)
  admitted : Reading (Bool × Text)
  participantCount : Reading (Option ℕ × Text)
  botAlone : Reading (Bool × Text)
  evidence : Evidence
  recorderStart : Reading ℕ
  recorderRunning : Bool
  recorderStop : Reading StopReport
  announce : Reading Unit
  /-- Whether the control to leave is there on the way out. -/
  leaveButton : Reading Bool
  leaveClick : Reading Unit
  wait : Reading Unit

inductive Phase where
  | waitingRoom | inCall
  deriving DecidableEq

def Phase.text : Phase → Text
  | waitingRoom => "waiting_room"
  | inCall => "in_call"

/-- The variables of `run_call_loop`; `missedControls` is `missed_leave` in the Meet loop. -/
structure LoopState where
  start : ℚ
  phase : Phase
  admittedAt : ℚ
  recordingStarted : Bool
  sawOthers : Bool
  aloneSince : Option ℚ
  unknownSince : Option ℚ
  missedControls : ℕ
  nextAdmissionEvidence : ℚ
  nextUnknownEvidence : ℚ

def LoopState.initial (start : ℚ) : LoopState where
  start := start
  phase := .waitingRoom
  admittedAt := 0
  recordingStarted := false
  sawOthers := false
  aloneSince := none
  unknownSince := none
  missedControls := 0
  nextAdmissionEvidence := start + 5
  nextUnknownEvidence := 0

structure LoopConfig where
  callId : Text
  timeouts : Timeouts
  isPrintable : Char → Bool

/-- What differs between the platforms in the shared turns. -/
structure LoopSide where
  logger : Text
  leave : Poll → Bot Unit
  /-- The last line of a removal. -/
  removedLine : Text

abbrev Turn := Bot (LoopState ⊕ BotOutcome)

def logTransition (logger callId fromState toState reason : Text) : Bot Unit :=
  info logger (concat ["call_id=", callId, " from_state=", fromState, " to_state=", toState,
    " reason=", reason])

/-- A loop over a stream of polls, behind the line that the join request is submitted. -/
def runLoop {α : Type} (loop : PollingLoop LoopState α BotEvent PageError BotOutcome)
    (logger callId : Text) (start : ℚ) (polls : List α) :
    List BotEvent × PollingLoop.Status LoopState PageError BotOutcome :=
  let submitted :=
    logTransition logger callId "join_clicked" "waiting_room" "join request submitted"
  let (events, status) := loop.run (.initial start) polls
  (submitted.events ++ events, status)

def keepPolling (poll : Poll) (s : LoopState) : Turn := do
  .read poll.wait
  return .inl s

section Turns

variable (side : LoopSide) (cfg : LoopConfig) (s : LoopState) (poll : Poll)

def stopRecording : Bot Unit := do
  recorderStop poll.recorderStop
  info side.logger "recording stopped"

def finishRecording (toState reason : Text) (exitCode : BotExit) (endReason : Option EndReason) :
    Turn := do
  (side.leave poll).ensure (stopRecording side poll)
  logTransition side.logger cfg.callId s.phase.text toState reason
  return .inr (← BotOutcome.make exitCode endReason reason true)

def handleStop : Turn :=
  if s.recordingStarted then finishRecording side cfg s poll "stopped" "stop requested" .ok none
  else do
    logTransition side.logger cfg.callId s.phase.text "stopped" "stop requested"
    info side.logger "stop requested before recording; leaving without recording"
    return .inr (← BotOutcome.make .ok none "stop requested" false)

/-- The recorder is running: `recording started`, and the announcement, whose failure is logged. -/
def recordingBegan (pid : ℕ) : Bot LoopState := do
  recorderStarted pid
  info side.logger "recording started"
  .emit .announce
  match poll.announce with
  | .ok () => pure ()
  | .error e => exception side.logger "post-recording announcement failed; continuing" e
  return { s with
    phase := .inCall
    recordingStarted := true
    admittedAt := poll.now
    unknownSince := some poll.now
    nextUnknownEvidence := poll.now + 30 }

theorem result_recordingBegan (pid : ℕ) :
    (recordingBegan side s poll pid).result = .ok { s with
      phase := .inCall
      recordingStarted := true
      admittedAt := poll.now
      unknownSince := some poll.now
      nextUnknownEvidence := poll.now + 30 } := by
  unfold recordingBegan
  cases poll.announce with
  | ok u => rfl
  | error e => rfl

def recorderFailed (e : PageError) : Turn := do
  .emit (.recorderStart false)
  debugScreenshot cfg.isPrintable poll.evidence "recording failed to start"
  logTransition side.logger cfg.callId Phase.inCall.text "bot_error" "recorder failed to start"
  exception side.logger "recorder failed to start" e
  return .inr (← BotOutcome.make .botError none "recorder failed to start" false)

def endOnNotice (toState reason lastLine : Text) (exitCode : BotExit) (endReason : EndReason) :
    Turn := do
  (stopRecording side poll).ensure
    (logTransition side.logger cfg.callId s.phase.text toState reason)
  info side.logger lastLine
  return .inr (← BotOutcome.make exitCode (some endReason) reason true)

def recorderDied : Turn := do
  debugScreenshot cfg.isPrintable poll.evidence "recorder process ended"
  error side.logger "parec died mid-recording; leaving with a truncated WAV"
  finishRecording side cfg s poll "bot_error"
    "parec died mid-recording; leaving with a truncated WAV" .botError none

def maxDurationReached : Turn := do
  let reason := concat ["max record duration reached after ", reprFloat cfg.timeouts.maxRecordS,
    " seconds"]
  info side.logger reason
  finishRecording side cfg s poll "gave_up" reason .ok (some .giveUp)

def aloneTurn (aloneDetail : Text) : Turn :=
  match s.aloneSince with
  | none => do
      info side.logger
        (concat ["bot alone in call; starting alone grace (", aloneDetail, ")"])
      keepPolling poll { s with aloneSince := some poll.now }
  | some since =>
      if cfg.timeouts.aloneGraceS ≤ poll.now - since then
        finishRecording side cfg s poll "alone"
          (concat ["bot alone after others left; alone grace of ",
            reprFloat cfg.timeouts.aloneGraceS, " seconds elapsed"]) .ok (some .alone)
      else keepPolling poll s

def emptyRoomTurn : Turn :=
  if cfg.timeouts.emptyRoomS ≤ poll.now - s.admittedAt then do
    let reason := concat ["room remained empty; empty-room timeout of ",
      reprFloat cfg.timeouts.emptyRoomS, " seconds elapsed"]
    info side.logger reason
    finishRecording side cfg s poll "empty_room" reason .joinTimeout none
  else keepPolling poll { s with unknownSince := none }

def unknownRoomTurn (countDetail : Text) : Turn :=
  let since := s.unknownSince.getD poll.now
  if cfg.timeouts.emptyRoomS ≤ poll.now - since then do
    let reason := concat ["participant count unavailable; empty-room timeout of ",
      reprFloat cfg.timeouts.emptyRoomS, " seconds elapsed"]
    debugScreenshot cfg.isPrintable poll.evidence "participant detection unavailable"
    error side.logger reason
    finishRecording side cfg s poll "bot_error" reason .botError none
  else if s.nextUnknownEvidence ≤ poll.now then do
    debugScreenshot cfg.isPrintable poll.evidence
      "participant detection uncertain (periodic evidence)"
    info side.logger countDetail
    keepPolling poll { s with unknownSince := some since, nextUnknownEvidence := poll.now + 30 }
  else keepPolling poll { s with unknownSince := some since }

def participantTurn : Turn := do
  let (count, countDetail) ← EventLog.read poll.participantCount
  let (alone, aloneDetail) ← EventLog.read poll.botAlone
  let s := { s with missedControls := 0 }
  if count.any (2 ≤ ·) then
    keepPolling poll { s with sawOthers := true, aloneSince := none, unknownSince := none }
  else if alone then
    if s.sawOthers then aloneTurn side cfg s poll aloneDetail else emptyRoomTurn side cfg s poll
  else if s.sawOthers then keepPolling poll { s with aloneSince := none, unknownSince := none }
  else unknownRoomTurn side cfg s poll countDetail

def endedConfirmationPolls : ℕ := 3

def missedControlsTurn : Turn :=
  let missed := s.missedControls + 1
  if endedConfirmationPolls ≤ missed then do
    let reason := concat ["in-call indicators gone for ", natText missed,
      " polls; treating as call ended"]
    debugScreenshot cfg.isPrintable poll.evidence "in-call controls gone"
    endOnNotice side cfg s poll "call_ended" reason reason .ok .callEnded
  else keepPolling poll { s with missedControls := missed }

/-- The checks of a poll while recording; without the in-call controls the turn is `absent`. -/
def recordingChecks (removed ended : Bool × Text) (controls : Bool) (absent : Turn) : Turn :=
  if removed.1 then
    endOnNotice side cfg s poll "removed" removed.2 side.removedLine .removed .removed
  else if ended.1 then
    endOnNotice side cfg s poll "call_ended" ended.2 "call ended" .ok .callEnded
  else if ¬ poll.recorderRunning then recorderDied side cfg s poll
  else if cfg.timeouts.maxRecordS ≤ poll.now - s.admittedAt then maxDurationReached side cfg s poll
  else if controls then participantTurn side cfg s poll
  else absent

/-- The turn of a poll by the phase of the loop, which is put alike on both platforms. -/
def phasedTurn (recording : Bool × Text → Bool × Text → Bool × Text → Turn)
    (admission : Text → Turn) (waiting : Turn) : Turn :=
  if poll.stopRequested then handleStop side cfg s poll
  else do
    let removed ← EventLog.read poll.removed
    let ended ← EventLog.read poll.ended
    let admitted ← EventLog.read poll.admitted
    if s.recordingStarted then recording removed ended admitted
    else if admitted.1 then admission admitted.2
    else waiting

variable {side cfg s poll} {recording : Bool × Text → Bool × Text → Bool × Text → Turn}
  {admission : Text → Turn} {waiting : Turn} {P : LoopState ⊕ BotOutcome → Prop}

theorem phasedTurn_of_reads {removed ended admitted : Bool × Text}
    (hremoved : poll.removed = .ok removed) (hended : poll.ended = .ok ended)
    (hadmitted : poll.admitted = .ok admitted) :
    phasedTurn side cfg s poll recording admission waiting =
      if poll.stopRequested then handleStop side cfg s poll
      else if s.recordingStarted then recording removed ended admitted
      else if admitted.1 then admission admitted.2
      else waiting := by
  unfold phasedTurn
  rw [hremoved, hended, hadmitted]
  rfl

theorem phasedTurn_ensures
    (hstop : poll.stopRequested → (handleStop side cfg s poll).Ensures P)
    (hrecording : s.recordingStarted → ∀ removed ended admitted, poll.removed = .ok removed →
      poll.ended = .ok ended → poll.admitted = .ok admitted →
      (recording removed ended admitted).Ensures P)
    (hadmission : s.recordingStarted = false → ∀ admitted, poll.admitted = .ok admitted →
      admitted.1 = true → (admission admitted.2).Ensures P)
    (hwaiting : s.recordingStarted = false → ∀ admitted, poll.admitted = .ok admitted →
      admitted.1 = false → waiting.Ensures P) :
    (phasedTurn side cfg s poll recording admission waiting).Ensures P := by
  unfold phasedTurn
  by_cases hrequested : poll.stopRequested
  · rw [if_pos hrequested]
    exact hstop hrequested
  · rw [if_neg hrequested]
    apply EventLog.Ensures.read_bind
    intro removed hremoved
    apply EventLog.Ensures.read_bind
    intro ended hended
    apply EventLog.Ensures.read_bind
    intro admitted hadmitted
    by_cases hs : s.recordingStarted
    · rw [if_pos hs]
      exact hrecording hs removed ended admitted hremoved hended hadmitted
    · rw [if_neg hs]
      rw [Bool.not_eq_true] at hs
      by_cases hseen : admitted.1
      · rw [if_pos hseen]
        exact hadmission hs admitted hadmitted hseen
      · rw [if_neg hseen]
        exact hwaiting hs admitted hadmitted ((Bool.not_eq_true _).mp hseen)

end Turns

def sampleConfig : LoopConfig where
  callId := "spike"
  timeouts := ⟨600, 300, 60, 10800⟩
  isPrintable := fun _ => true

/-- A poll of the recorder and the clock in which nothing fails. -/
def samplePoll (now : ℚ) : Poll where
  stopRequested := false
  now := now
  removed := .ok (false, [])
  ended := .ok (false, [])
  admitted := .ok (false, [])
  participantCount := .ok (none, [])
  botAlone := .ok (false, [])
  evidence := .saved "/tmp" "20261005-100000" "https://meet.google.com/abc-defg-hij" []
  recorderStart := .ok 41
  recorderRunning := true
  recorderStop := .ok ⟨false, 0, some 96044⟩
  announce := .ok ()
  leaveButton := .ok true
  leaveClick := .ok ()
  wait := .ok ()

end Notetaker
