import Notetaker.BotLifecycle

/-!
# The Meet loop

`bot/listeners.py`: one turn of `run_call_loop` for each poll. Before the admission the loop waits, gives
up, or starts the recorder; while recording it follows the room until one of its ends.
-/

open PythonText PythonFloat PythonUuid JsonText

namespace Notetaker

structure MeetPoll extends Poll where
  joinBlocked : Reading Bool
  knocking : Reading Bool
  /-- `leave_call_button(page, timeout_ms=0)`. -/
  leaveVisible : Reading Bool

namespace Meet

def leaveMeet (poll : Poll) : Bot Unit := do
  if ← EventLog.read poll.leaveButton then
    .emit .leaveClick
    .read poll.leaveClick
    info statesLogger "leave clicked"
  else
    warning statesLogger "leave control absent; browser shutdown will end the Meet session"

theorem result_leaveMeet_iff (poll : Poll) :
    (leaveMeet poll).result = .ok () ↔
      poll.leaveButton = .ok false ∨ poll.leaveButton = .ok true ∧ poll.leaveClick = .ok () := by
  unfold leaveMeet
  cases poll.leaveButton with
  | error e =>
      refine iff_of_false ?_ (by simp)
      rintro ⟨⟩
  | ok found =>
      cases found with
      | false => exact iff_of_true rfl (.inl rfl)
      | true =>
          cases poll.leaveClick with
          | ok u => exact iff_of_true rfl (.inr ⟨rfl, rfl⟩)
          | error e =>
              refine iff_of_false ?_ (by simp)
              rintro ⟨⟩

def side : LoopSide where
  logger := statesLogger
  leave := leaveMeet
  removedLine := "removed from call"

variable (cfg : LoopConfig) (s : LoopState) (poll : MeetPoll)

def admissionTurn (detail : Text) : Turn := do
  logTransition statesLogger cfg.callId "waiting_room" "in_call" detail
  match poll.recorderStart with
  | .ok pid => return .inl (← recordingBegan side s poll.toPoll pid)
  | .error e => recorderFailed side cfg poll.toPoll e

def joinBlockedReason : Text := "meet blocked the join attempt (anti-bot wall)"

def neverAdmittedReason : Text :=
  concat ["waiting-room timeout after ", reprFloat cfg.timeouts.waitingRoomS, " seconds"]

def waitingEvidence : Bot ℚ :=
  if s.nextAdmissionEvidence ≤ poll.now then do
    debugScreenshot cfg.isPrintable poll.evidence "waiting for admission (periodic evidence)"
    if ← EventLog.read poll.knocking then
      info statesLogger "still knocking (host has not admitted the bot yet)"
    return poll.now + 30
  else pure s.nextAdmissionEvidence

def waitingTurn : Turn := do
  if ← EventLog.read poll.joinBlocked then
    debugScreenshot cfg.isPrintable poll.evidence "meet blocked the join attempt"
    logTransition statesLogger cfg.callId s.phase.text "bot_error" joinBlockedReason
    error statesLogger joinBlockedReason
    return .inr (← BotOutcome.make .botError none joinBlockedReason false)
  else if cfg.timeouts.waitingRoomS ≤ poll.now - s.start then
    debugScreenshot cfg.isPrintable poll.evidence "never admitted"
    logTransition statesLogger cfg.callId s.phase.text "never_admitted" (neverAdmittedReason cfg)
    error statesLogger
      (concat ["not admitted within ", reprFloat cfg.timeouts.waitingRoomS, " seconds"])
    return .inr (← BotOutcome.make .neverAdmitted none (neverAdmittedReason cfg) false)
  else
    let next ← waitingEvidence cfg s poll
    keepPolling poll.toPoll { s with nextAdmissionEvidence := next }

/-- The turn of a poll at which the admission is not evident any more. -/
def unadmittedTurn : Turn := do
  if ← EventLog.read poll.leaveVisible then
    warning statesLogger
      "knocking text visible mid-call while the leave control is present; staying in the call"
    keepPolling poll.toPoll { s with missedControls := 0 }
  else missedControlsTurn side cfg s poll.toPoll

def recordingTurn (removed ended admitted : Bool × Text) : Turn :=
  if removed.1 then
    endOnNotice side cfg s poll.toPoll "removed" removed.2 side.removedLine .removed .removed
  else if ended.1 then
    endOnNotice side cfg s poll.toPoll "call_ended" ended.2 "call ended" .ok .callEnded
  else if ¬ poll.recorderRunning then recorderDied side cfg s poll.toPoll
  else if cfg.timeouts.maxRecordS ≤ poll.now - s.admittedAt then
    maxDurationReached side cfg s poll.toPoll
  else if admitted.1 then participantTurn side cfg s poll.toPoll
  else unadmittedTurn cfg s poll

def step : Turn :=
  if poll.stopRequested then handleStop side cfg s poll.toPoll
  else do
    let removed ← EventLog.read poll.removed
    let ended ← EventLog.read poll.ended
    let admitted ← EventLog.read poll.admitted
    if s.recordingStarted then recordingTurn cfg s poll removed ended admitted
    else if admitted.1 then admissionTurn cfg s poll admitted.2
    else waitingTurn cfg s poll

theorem recordingTurn_eq (removed ended admitted : Bool × Text) :
    recordingTurn cfg s poll removed ended admitted =
      recordingChecks side cfg s poll.toPoll removed ended admitted.1 (unadmittedTurn cfg s poll) :=
  rfl

theorem step_eq :
    step cfg s poll = phasedTurn side cfg s poll.toPoll (recordingTurn cfg s poll)
      (admissionTurn cfg s poll) (waitingTurn cfg s poll) := rfl

def loop : PollingLoop LoopState MeetPoll BotEvent PageError BotOutcome where
  step := step cfg

/-- `run_call_loop` over a stream of polls. -/
def runCallLoop (start : ℚ) (polls : List MeetPoll) :
    List BotEvent × PollingLoop.Status LoopState PageError BotOutcome :=
  runLoop (loop cfg) statesLogger cfg.callId start polls

end Meet

def admittedPoll (now : ℚ) : MeetPoll where
  toPoll := { samplePoll now with admitted := .ok (true, "leave control visible") }
  joinBlocked := .ok false
  knocking := .ok false
  leaveVisible := .ok true

end Notetaker
