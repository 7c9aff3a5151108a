import Notetaker.BotLifecycle

/-!
# The Zoom loop

`bot/listeners_zoom.py`: before the admission the loop also fails fast at the walls of the web client.
The admission is followed by the computer audio, whose failure is only logged.
-/

open PythonText PythonFloat PythonUuid JsonText

namespace Notetaker

/-- A control that switches a medium off. -/
structure MediaToggle where
  found : Reading Bool
  ariaLabel : Reading (Option Text)
  click : Reading Unit

structure ZoomPoll extends Poll where
  signInRequired : Reading (Bool × Text)
  onlyAuthenticated : Reading (Bool × Text)
  desktopAppRequired : Reading (Bool × Text)
  passcodeScreen : Reading (Bool × Text)
  inWaitingRoom : Reading (Bool × Text)
  meetingNotStarted : Reading (Bool × Text)
  inCallControls : Reading (Bool × Text)
  audioJoinButton : Reading Bool
  audioJoinClick : Reading Unit
  microphone : MediaToggle

namespace Zoom

def zoomLogger : Text := "oreeai.bot.zoom.states"

/-- A failed click on the way out is only logged. -/
def leaveZoom (poll : Poll) : Bot Unit := do
  if ← EventLog.read poll.leaveButton then
    .emit .leaveClick
    match poll.leaveClick with
    | .ok () => info zoomLogger "leave clicked"
    | .error _ =>
        warning zoomLogger "leave control click failed; browser shutdown will end the Zoom session"
  else
    warning zoomLogger "leave control absent; browser shutdown will end the Zoom session"

theorem result_leaveZoom_iff (poll : Poll) :
    (leaveZoom poll).result = .ok () ↔ ∃ found, poll.leaveButton = .ok found := by
  unfold leaveZoom
  cases poll.leaveButton with
  | error e =>
      refine iff_of_false ?_ (by simp)
      rintro ⟨⟩
  | ok found =>
      refine iff_of_true ?_ ⟨found, rfl⟩
      cases found with
      | false => rfl
      | true => cases poll.leaveClick <;> rfl

def side : LoopSide where
  logger := zoomLogger
  leave := leaveZoom
  removedLine := "removed from meeting"

variable (cfg : LoopConfig) (s : LoopState) (poll : ZoomPoll)

/-! ## The computer audio -/

def micAlreadyOff : List Text := ["unmute"]

/-- Whether the medium is off afterwards; a required one that stays on refuses the join. -/
def muteMedia (toggle : MediaToggle) (label : Text) (required : Bool)
    (alreadyOffMarkers : List Text) : Bot Bool := do
  if ¬ (← EventLog.read toggle.found) then
    if required then
      error zoomLogger (concat [label, " toggle not found; refusing to join unmuted (echo risk)"])
      return false
    else
      warning zoomLogger (concat [label, " toggle not found; continuing without muting"])
      return true
  else
    let aria := ((← EventLog.read toggle.ariaLabel).getD []).map Char.toLower
    if alreadyOffMarkers.any fun marker => (afterFirst marker aria).isSome then
      info zoomLogger (concat [label, " already off"])
      return true
    else
      match toggle.click with
      | .ok () => do
          info zoomLogger (concat [label, " muted before joining"])
          return true
      | .error _ =>
          if required then do
            error zoomLogger
              (concat [label, " toggle click failed; refusing to join unmuted (echo risk)"])
            return false
          else do
            warning zoomLogger (concat [label, " toggle click failed; continuing without muting"])
            return true

def joinComputerAudio : Bot Unit := do
  if ← EventLog.read poll.audioJoinButton then
    .read poll.audioJoinClick
    info zoomLogger "joined computer audio"
  else
    debugScreenshot cfg.isPrintable poll.evidence "computer-audio join control not found"
    warning zoomLogger "computer-audio control not found; meeting audio may stay muted"
  let _ ← muteMedia poll.microphone "microphone" false micAlreadyOff

theorem result_audio :
    ((joinComputerAudio cfg poll).rescue
      (exception zoomLogger "joining computer audio failed; continuing")).result = .ok () := by
  unfold EventLog.rescue
  cases (joinComputerAudio cfg poll).result <;> rfl

/-! ## Before the admission -/

def admissionTurn (detail : Text) : Turn := do
  logTransition zoomLogger cfg.callId "waiting_room" "in_call" detail
  match poll.recorderStart with
  | .error e => recorderFailed side cfg poll.toPoll e
  | .ok pid => do
      let s ← recordingBegan side s poll.toPoll pid
      (joinComputerAudio cfg poll).rescue
        (exception zoomLogger "joining computer audio failed; continuing")
      return .inl s

/-- The screens that make the join impossible, with the reasons of the outcome. -/
def fatalWalls : List (Reading (Bool × Text) × Text) :=
  [(poll.signInRequired, concat ["guest join hit Zoom's sign-in-required wall (invisible CAPTCHA); ",
      "Z3's signed-in mode is the fallback"]),
    (poll.onlyAuthenticated, "meeting allows only authenticated users"),
    (poll.desktopAppRequired,
      "meeting requires the Zoom desktop app or has E2EE on; no web-client path"),
    (poll.passcodeScreen,
      "meeting passcode missing or rejected; put ?pwd= in the meeting URL")]

def detectFatalWall : List (Reading (Bool × Text) × Text) → Bot (Option BotOutcome)
  | [] => pure none
  | (predicate, reason) :: walls => do
      let (detected, detail) ← EventLog.read predicate
      if detected then
        debugScreenshot cfg.isPrintable poll.evidence reason
        error zoomLogger (concat [reason, " (", detail, ")"])
        return some (← BotOutcome.make .botError none reason false)
      else detectFatalWall walls

def neverAdmittedReason (notStarted : Bool) : Text :=
  concat [if notStarted then "meeting-not-started" else "waiting-room", " timeout after ",
    reprFloat cfg.timeouts.waitingRoomS, " seconds"]

def waitingEvidence : Bot ℚ :=
  if s.nextAdmissionEvidence ≤ poll.now then do
    let (waiting, waitingDetail) ← EventLog.read poll.inWaitingRoom
    let (notStarted, notStartedDetail) ← EventLog.read poll.meetingNotStarted
    let detail : Text :=
      if waiting then waitingDetail
      else if notStarted then notStartedDetail
      else "no waiting-room or not-started notice visible"
    debugScreenshot cfg.isPrintable poll.evidence (concat ["waiting for admission (", detail, ")"])
    info zoomLogger (concat ["still waiting for admission (", detail, ")"])
    return poll.now + 30
  else pure s.nextAdmissionEvidence

def waitingTurn : Turn := do
  match ← detectFatalWall cfg poll (fatalWalls poll) with
  | some wall => do
      logTransition zoomLogger cfg.callId s.phase.text "bot_error" wall.reason
      return .inr wall
  | none =>
      if cfg.timeouts.waitingRoomS ≤ poll.now - s.start then do
        debugScreenshot cfg.isPrintable poll.evidence "never admitted"
        let (notStarted, _) ← EventLog.read poll.meetingNotStarted
        let reason := neverAdmittedReason cfg notStarted
        logTransition zoomLogger cfg.callId s.phase.text "never_admitted" reason
        error zoomLogger reason
        return .inr (← BotOutcome.make .neverAdmitted none reason false)
      else do
        let next ← waitingEvidence cfg s poll
        keepPolling poll.toPoll { s with nextAdmissionEvidence := next }

/-! ## While recording -/

def recordingTurn (removed ended : Bool × Text) : Turn := do
  let (anchor, _) ← EventLog.read poll.inCallControls
  if removed.1 then
    endOnNotice side cfg s poll.toPoll "removed" removed.2 side.removedLine .removed .removed
  else if ended.1 then
    endOnNotice side cfg s poll.toPoll "call_ended" ended.2 "call ended" .ok .callEnded
  else if ¬ poll.recorderRunning then recorderDied side cfg s poll.toPoll
  else if cfg.timeouts.maxRecordS ≤ poll.now - s.admittedAt then
    maxDurationReached side cfg s poll.toPoll
  else if anchor then participantTurn side cfg s poll.toPoll
  else missedControlsTurn side cfg s poll.toPoll

def step : Turn :=
  if poll.stopRequested then handleStop side cfg s poll.toPoll
  else do
    let removed ← EventLog.read poll.removed
    let ended ← EventLog.read poll.ended
    let admitted ← EventLog.read poll.admitted
    if s.recordingStarted then recordingTurn cfg s poll removed ended
    else if admitted.1 then admissionTurn cfg s poll admitted.2
    else waitingTurn cfg s poll

theorem recordingTurn_eq (removed ended : Bool × Text) :
    recordingTurn cfg s poll removed ended =
      EventLog.read poll.inCallControls >>= fun anchor =>
        recordingChecks side cfg s poll.toPoll removed ended anchor.1
          (missedControlsTurn side cfg s poll.toPoll) := rfl

theorem step_eq :
    step cfg s poll = phasedTurn side cfg s poll.toPoll
      (fun removed ended _ => recordingTurn cfg s poll removed ended) (admissionTurn cfg s poll)
      (waitingTurn cfg s poll) := rfl

def loop : PollingLoop LoopState ZoomPoll BotEvent PageError BotOutcome where
  step := step cfg

/-- `run_call_loop` over a stream of polls. -/
def runCallLoop (start : ℚ) (polls : List ZoomPoll) :
    List BotEvent × PollingLoop.Status LoopState PageError BotOutcome :=
  runLoop (loop cfg) zoomLogger cfg.callId start polls

end Zoom

def sampleRest (now : ℚ) : ZoomPoll where
  toPoll := samplePoll now
  signInRequired := .ok (false, [])
  onlyAuthenticated := .ok (false, [])
  desktopAppRequired := .ok (false, [])
  passcodeScreen := .ok (false, [])
  inWaitingRoom := .ok (false, [])
  meetingNotStarted := .ok (false, [])
  inCallControls := .ok (false, [])
  audioJoinButton := .ok false
  audioJoinClick := .ok ()
  microphone := ⟨.ok false, .ok none, .ok ()⟩

end Notetaker
