import Notetaker.BotLog
import Notetaker.MeetLoop
import Notetaker.ZoomLoop

/-!
# Joining and recording

`bot/join_meet.py` and `bot/join_zoom.py`: the way to the join click, the loop, and the handler of what
the loop raises. Every page operation on the way is a reading, in the order of the source.
-/

open PythonText PythonFloat

namespace Notetaker

/-- The outcome of a join that is given up. -/
def joinError (reason : Text) : Bot (Option BotOutcome) := do
  return some (← BotOutcome.make .botError none reason false)

/-! ## Meet -/

structure MeetJoin where
  authenticated : Bool
  botName : Text
  evidence : Evidence
  goto : Reading Unit
  joinBlocked : Reading Bool
  dwell : Reading Unit
  nameInput : Reading Bool
  typeName : Reading Unit
  pauseBeforeMicrophone : Reading Unit
  microphone : MediaToggle
  pauseBeforeCamera : Reading Unit
  camera : MediaToggle
  joinButton : Reading Bool
  joinLabel : Reading (Option Text)
  pauseBeforeJoin : Reading Unit
  joinClick : Reading Unit

namespace Meet

/-- `_mute_media` of the Meet flow; a failed click is not caught. -/
def muteMedia (toggle : MediaToggle) (label : Text) (required : Bool) : Bot Bool := do
  if ¬ (← EventLog.read toggle.found) then
    if required then
      error mainLogger (concat [label, " toggle not found; refusing to join unmuted (echo risk)"])
      return false
    else
      warning mainLogger (concat [label, " toggle not found; continuing without muting"])
      return true
  else
    let aria := ((← EventLog.read toggle.ariaLabel).getD []).map Char.toLower
    if "turn off".toList.isPrefixOf aria then
      .read toggle.click
      info mainLogger (concat [label, " muted before joining"])
      return true
    else
      info mainLogger (concat [label, " already off"])
      return true

variable (isPrintable : Char → Bool) (join : MeetJoin)

def enterName : Bot Unit :=
  if join.authenticated then
    info mainLogger (concat ["authenticated mode: signed-in account display name is the consent ",
      "signal (no name typing)"])
  else do
    if ← EventLog.read join.nameInput then
      .read join.typeName
      info mainLogger (concat ["display name set: ", join.botName])
    else
      warning mainLogger "name field not found; joining with Meet's default display name"

def clickJoin : Bot (Option BotOutcome) := do
  if ← EventLog.read join.joinButton then
    let label := ((← EventLog.read join.joinLabel).getD []).map Char.toLower
    let knocking := "ask".toList.isPrefixOf label
    .read join.pauseBeforeJoin
    .read join.joinClick
    info mainLogger (concat ["join clicked (", if knocking then "knocking" else "direct", ")"])
    if knocking then info mainLogger "waiting to be admitted"
    return none
  else
    debugScreenshot isPrintable join.evidence "join button never appeared"
    error mainLogger "could not find a way to join the meeting"
    joinError "join control never appeared"

def greenRoom : Bot (Option BotOutcome) := do
  .read join.dwell
  enterName join
  .read join.pauseBeforeMicrophone
  if ← muteMedia join.microphone "microphone" true then
    .read join.pauseBeforeCamera
    let _ ← muteMedia join.camera "camera" false
    clickJoin isPrintable join
  else
    debugScreenshot isPrintable join.evidence "microphone toggle not found"
    joinError "microphone toggle not found"

/-- Up to the join click; an outcome ends the run there. -/
def joinCall : Bot (Option BotOutcome) := do
  info mainLogger "navigating to meeting"
  .read join.goto
  if ← EventLog.read join.joinBlocked then
    debugScreenshot isPrintable join.evidence
      "meeting blocks anonymous guests (host quick access off)"
    error mainLogger (concat ["meeting blocks anonymous guests - ",
      "host must enable Quick access in host controls"])
    joinError "meeting blocks anonymous guests"
  else greenRoom isPrintable join

end Meet

/-! ## Zoom -/

structure PrejoinRound where
  nameInput : Reading Bool
  joinButton : Reading Bool
  wait : Reading Unit

structure ZoomJoin where
  botName : Text
  evidence : Evidence
  goto : Reading Unit
  /-- The walls on arrival, without a browser join path, and in the web client. -/
  arrivalWalls : ZoomPoll
  landingWalls : ZoomPoll
  clientWalls : ZoomPoll
  /-- The URL is already the one of the web client. -/
  directUrl : Bool
  cookieButton : Reading Bool
  cookieClick : Reading Unit
  browserLink : Reading Bool
  pauseBeforeLink : Reading Unit
  linkClick : Reading Unit
  linkWait : Reading Unit
  clientUrl : Bool
  clientFrame : Reading Bool
  linkDomClick : Reading Unit
  prejoinRounds : List PrejoinRound
  /-- The look at which the deadline has passed. -/
  lastRound : PrejoinRound
  dwell : Reading Unit
  nameInput : Reading Bool
  setName : Reading Unit
  pauseBeforeMicrophone : Reading Unit
  microphone : MediaToggle
  pauseBeforeCamera : Reading Unit
  camera : MediaToggle
  joinButton : Reading Bool
  joinClick : Reading Unit
  joinWait : Reading Unit
  leaveVisible : Reading Bool
  joinStillVisible : Reading Bool
  joinDomClick : Reading Unit
  joinDomWait : Reading Unit

namespace Zoom

def joinLogger : Text := "oreeai.bot.zoom"

def cameraAlreadyOff : List Text := ["start video", "turn on camera", "start my video"]

/-- A step whose failure is only logged. -/
def attempt (step : Reading Unit) (done : Bot Unit) (failed : Text) : Bot Unit :=
  match step with
  | .ok () => done
  | .error _ => warning joinLogger failed

variable (cfg : LoopConfig) (join : ZoomJoin)

def webClientStarted : Bot Bool :=
  if join.clientUrl then pure true else .read join.clientFrame

def openBrowserLink : Bot (Option BotOutcome) := do
  .read join.pauseBeforeLink
  .read join.linkClick
  info joinLogger "join from your browser clicked"
  .read join.linkWait
  if ¬ (← webClientStarted join) then
    warning joinLogger
      "join click did not start the web client; dispatching a DOM click on the same control"
    attempt join.linkDomClick (pure ()) "DOM click raced with navigation; continuing"
  return none

def browserJoin : Bot (Option BotOutcome) := do
  if ← EventLog.read join.browserLink then openBrowserLink join
  else
    match ← detectFatalWall cfg join.landingWalls (fatalWalls join.landingWalls) with
    | some wall => return some wall
    | none => do
        debugScreenshot cfg.isPrintable join.evidence "no 'join from your browser' path"
        let reason : Text := concat ["web-client join unavailable ",
          "(host disabled 'Join from your browser' or E2EE is on)"]
        error joinLogger reason
        joinError reason

def openWebClient : Bot (Option BotOutcome) :=
  if join.directUrl then do
    info joinLogger "direct web-client URL; skipping the landing page"
    return none
  else do
    if ← EventLog.read join.cookieButton then
      attempt join.cookieClick (info joinLogger "cookie banner accepted")
        "cookie banner click failed; continuing"
    browserJoin cfg join

def waitForPrejoin : List PrejoinRound → PrejoinRound → Bot Bool
  | [], last => do
      if ← EventLog.read last.nameInput then return true
      else .read last.joinButton
  | round :: rounds, last => do
      if ← EventLog.read round.nameInput then return true
      else if ← EventLog.read round.joinButton then return true
      else
        .read round.wait
        waitForPrejoin rounds last

def enterName : Bot Unit := do
  if ← EventLog.read join.nameInput then
    .read join.setName
    info joinLogger (concat ["display name set: ", join.botName])
  else
    debugScreenshot cfg.isPrintable join.evidence "zoom name field not found"
    warning joinLogger "name field not found; joining with Zoom's default display name"

def runPrejoin : Bot (Option BotOutcome) := do
  .read join.dwell
  enterName cfg join
  .read join.pauseBeforeMicrophone
  if ← muteMedia join.microphone "microphone" true micAlreadyOff then
    .read join.pauseBeforeCamera
    let _ ← muteMedia join.camera "camera" false cameraAlreadyOff
    return none
  else
    debugScreenshot cfg.isPrintable join.evidence "microphone toggle not found"
    joinError "microphone toggle not found"

def stillPrejoin : Bot Bool := do
  if ← EventLog.read join.leaveVisible then return false
  else .read join.joinStillVisible

/-- The click has been made; the web client may still not have left the pre-join page. -/
def confirmJoin : Bot (Option BotOutcome) := do
  .read join.joinWait
  if ← stillPrejoin join then
    warning joinLogger "join click did not transition; dispatching a DOM click on the same control"
    attempt join.joinDomClick (pure ()) "DOM click raced with the join transition; continuing"
    .read join.joinDomWait
  info joinLogger "join clicked (direct)"
  return none

def clickJoin : Bot (Option BotOutcome) := do
  if ← EventLog.read join.joinButton then
    match join.joinClick with
    | .error _ => do
        debugScreenshot cfg.isPrintable join.evidence "join control click failed"
        error joinLogger "join control click failed (disabled or covered)"
        joinError "join control click failed"
    | .ok () => confirmJoin join
  else
    debugScreenshot cfg.isPrintable join.evidence "zoom join button never appeared"
    error joinLogger "could not find a way to join the meeting"
    joinError "join control never appeared"

/-- A part of the flow that ends it with an outcome, or the parts behind it. -/
def orElse (part rest : Bot (Option BotOutcome)) : Bot (Option BotOutcome) := do
  match ← part with
  | some outcome => return some outcome
  | none => rest

def joinPrejoin : Bot (Option BotOutcome) := do
  if ← waitForPrejoin join.prejoinRounds join.lastRound then
    orElse (runPrejoin cfg join) (clickJoin cfg join)
  else
    let reason : Text := "web-client pre-join never rendered"
    debugScreenshot cfg.isPrintable join.evidence reason
    error joinLogger reason
    joinError reason

/-- Up to the join click; an outcome ends the run there. -/
def joinCall : Bot (Option BotOutcome) := do
  info joinLogger "navigating to meeting"
  .read join.goto
  orElse (detectFatalWall cfg join.arrivalWalls (fatalWalls join.arrivalWalls)) <|
    orElse (openWebClient cfg join) <|
      orElse (detectFatalWall cfg join.clientWalls (fatalWalls join.clientWalls)) (joinPrejoin cfg join)

end Zoom

/-! ## The run -/

/-- Whether `Recorder._proc` is set behind an event. -/
def procAfter (proc : Bool) : BotEvent → Bool
  | .recorderStart succeeds => succeeds
  | .recorderStop => false
  | _ => proc

def recorderProc (events : List BotEvent) : Bool := events.foldl procAfter false

/-- `Recorder.is_running`; `alive` says whether the process lives. -/
def isRunning (events : List BotEvent) (alive : Bool) : Bool := recorderProc events && alive

/-- The handler of what the loop raises; `running` is the answer of `is_running`. -/
def stopOnError (logger : Text) (running : Bool) (stop : Reading StopReport) : Bot Unit :=
  if running then
    (do recorderStop stop
        info logger "recording stopped" : Bot Unit).rescue
      (exception logger "failed to stop recorder during error handling")
  else pure ()

abbrev JoinRun := List BotEvent × PollingLoop.Status LoopState PageError BotOutcome

/-- The join, the loop and the handler. When the handler asks, `parec` is `alive` or not. -/
def recordCall (logger : Text) (join : Bot (Option BotOutcome)) (callLoop : JoinRun) (alive : Bool)
    (stop : Reading StopReport) : JoinRun :=
  match join.result with
  | .error e => (join.events, .raised e)
  | .ok (some outcome) => (join.events, .returned outcome)
  | .ok none =>
      let events := join.events ++ callLoop.1
      match callLoop.2 with
      | .raised e =>
          (events ++ (stopOnError logger (isRunning events alive) stop).events, .raised e)
      | status => (events, status)

section Runs

variable (cfg : LoopConfig) (start : ℚ) (alive : Bool) (stop : Reading StopReport)

def Meet.joinAndRecord (join : MeetJoin) (polls : List MeetPoll) : JoinRun :=
  recordCall mainLogger (Meet.joinCall cfg.isPrintable join) (Meet.runCallLoop cfg start polls) alive
    stop

def Zoom.joinAndRecordZoom (join : ZoomJoin) (polls : List ZoomPoll) : JoinRun :=
  recordCall Zoom.joinLogger (Zoom.joinCall cfg join) (Zoom.runCallLoop cfg start polls) alive stop

end Runs

def sampleJoin : MeetJoin where
  authenticated := true
  botName := "Notetaker"
  evidence := .saved [] [] [] []
  goto := .ok ()
  joinBlocked := .ok false
  dwell := .ok ()
  nameInput := .ok false
  typeName := .ok ()
  pauseBeforeMicrophone := .ok ()
  microphone := ⟨.ok true, .ok (some "Turn off microphone".toList), .ok ()⟩
  pauseBeforeCamera := .ok ()
  camera := ⟨.ok false, .ok none, .ok ()⟩
  joinButton := .ok true
  joinLabel := .ok (some "Join now".toList)
  pauseBeforeJoin := .ok ()
  joinClick := .ok ()

end Notetaker
