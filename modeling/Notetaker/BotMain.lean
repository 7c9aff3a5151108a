import Notetaker.BotConsent
import Notetaker.JoinFlow

/-!
# The process of the bot

`main` of `bot/join_meet.py` and of `bot/join_zoom.py`, with `_run` and the session check: what starts a
browser, when the meeting is joined, and what is reported. `_join_and_record` is the part of `JoinFlow`,
here a run of it that is over.
-/

open PythonText PythonFloat PythonUuid JsonText

namespace Notetaker

inductive MainEvent where
  | bot (event : BotEvent)
  /-- A browser is up, on a throwaway profile or on the one of a directory. -/
  | launch (profileDir : Option Text)
  /-- Its page is handed out, together with the `close` that belongs to it. -/
  | page
  | visitSession
  /-- `_join_and_record` begins. -/
  | join (meetingUrl : Text)
  /-- `close` is called. -/
  | close
  /-- `close` has closed the browser. -/
  | closed
  /-- The `with` block of Playwright is left. -/
  | exit
  /-- `_emit_result`. -/
  | result (callId : Text) (report : BotReport)

abbrev Process := EventLog MainEvent PageError

def process {α : Type} (x : Bot α) : Process α := ⟨x.events.map .bot, x.result⟩

def caught {α : Type} (x : Process α) : Process (Reading α) := ⟨x.events, .ok x.result⟩

/-! ## The environment -/

inductive AuthMode where
  | anonymous | authenticated
  deriving DecidableEq

def AuthMode.text : AuthMode → Text
  | anonymous => "anonymous"
  | authenticated => "authenticated"

section Environment

variable (environ : Environ)

def authModeOf (raw : Text) : AuthMode :=
  if folded raw = AuthMode.authenticated.text then .authenticated else .anonymous

def parseAuthMode (isPrintable : Char → Bool) (raw : Text) : Bot AuthMode := do
  if folded raw ∉ [[], AuthMode.anonymous.text, AuthMode.authenticated.text] then
    warning mainLogger (concat ["unknown BOT_AUTH_MODE ", reprText isPrintable raw, "; using anonymous"])
  return authModeOf raw

/-- `os.environ.get(name, "").strip()`. -/
def stripped (name : Text) : Text := strip ((environ name).getD [])

def meetingUrlOf : Text := stripped environ "MEETING_URL"

def callIdOf : Text :=
  let callId := stripped environ "CALL_ID"
  if callId = [] then "spike" else callId

def authMode : AuthMode := authModeOf ((environ "BOT_AUTH_MODE".toList).getD [])

def profileDirOf : Text :=
  let dir := stripped environ "BOT_PROFILE_DIR"
  if dir = [] then "/profile" else dir

def silenceFloorFromEnv : ℚ := envFloat environ "BOT_SILENCE_RMS_FLOOR" 50 (some 32767)

end Environment

theorem result_resolveBotName {environ : Environ} (isPrintable : Char → Bool) :
    (resolveBotName environ isPrintable).result = .ok botNameFixed := by
  unfold resolveBotName
  dsimp only
  split_ifs <;> rfl

theorem result_parseAuthMode (isPrintable : Char → Bool) (raw : Text) :
    (parseAuthMode isPrintable raw).result = .ok (authModeOf raw) := by
  unfold parseAuthMode
  dsimp only
  split_ifs <;> rfl

/-! ## What a process meets -/

structure ProfileDir where
  isDir : Bool
  accessible : Bool

structure SessionPages where
  goto : Reading Unit
  signedIn : Page
  account : Page

structure WavFile where
  /-- `wav_rms`. -/
  rms : Option ℚ
  present : Bool
  /-- The level and the floor of a silent recording, as they are logged. -/
  levels : Text

structure BrowserRun where
  /-- `sync_playwright`, on the way in and on the way out. -/
  enter : Reading Unit
  exit : Reading Unit
  profileDir : ProfileDir
  /-- `launch_browser`, or `launch_persistent_context`, which gives the context as well. -/
  launch : Reading Unit
  newContext : Reading Unit
  applyStealth : Reading Unit
  /-- Whether the context of a profile has a page already. -/
  pages : Reading Bool
  newPage : Reading Unit
  session : SessionPages
  contextClose : Reading Unit
  browserClose : Reading Unit
  wav : WavFile
  isPrintable : Char → Bool
  isAlnum : Char → Bool

def checkRecording (wav : WavFile) (floor : ℚ) : RecordingStatus :=
  match wav.rms with
  | none => if wav.present then .unreadable else .missing
  | some rms => if rms < floor then .silent else .ok

def validateProfileDir (path : Text) (dir : ProfileDir) : Option Text :=
  if path = [] then some "profile directory is not configured"
  else if dir.isDir = false then some "profile directory is missing (run make bot-login first)"
  else if dir.accessible = false then some "profile directory is not readable and writable"
  else none

/-! ## The run -/

section Run

variable (environ : Environ) (b : BrowserRun)

def checkIdentity : Bot (Option BotOutcome) := do
  let name ← EventLog.read (accountDisplayName b.isAlnum b.session.account)
  match ← verifyConsentIdentity name (environmentName environ) with
  | some problem =>
      error mainLogger problem
      joinError (concat ["consent identity: ", problem])
  | none =>
      if name = some botNameFixed then
        info mainLogger (concat ["consent identity verified: '", botNameFixed, "'"])
      return none

/-- `_check_session` behind the visit. -/
def checkSignedIn (reached : Reading Unit) : Bot (Option BotOutcome) := do
  match reached with
  | .error _ =>
      error mainLogger "google session check page failed to load"
      joinError "google session check page failed to load"
  | .ok () =>
      let (signedIn, detail) ← EventLog.read (isSignedIn b.session.signedIn)
      if signedIn then
        info mainLogger detail
        checkIdentity environ b
      else
        let reason := concat ["google session invalid: ", detail, " (run make bot-login to sign in)"]
        error mainLogger reason
        joinError reason

def checkSession : Process (Option BotOutcome) := do
  .emit .visitSession
  process (checkSignedIn environ b b.session.goto)

/-- `_launch_anonymous`. The browser is up before it has a context and a page. -/
def launchAnonymous : Process Unit := do
  .read b.launch
  .emit (.launch none)
  .read b.newContext
  .read b.applyStealth
  .read b.newPage
  .emit .page

def closeAnonymous : Process Unit := do
  .emit .close
  .read b.contextClose
  .read b.browserClose
  .emit .closed

/-- `_launch_authenticated`. -/
def launchAuthenticated (profileDir : Text) : Process Unit := do
  .read b.launch
  .emit (.launch (some profileDir))
  .read b.applyStealth
  if ¬ (← EventLog.read b.pages) then .read b.newPage
  .emit .page

def closeAuthenticated : Process Unit := do
  .emit .close
  .read b.contextClose
  .emit .closed

/-- The `try` of `_run`, which begins when the page is there. -/
def inBrowser (launch close : Process Unit) (body : Process BotOutcome) : Process BotOutcome := do
  launch
  body.ensure close

/-- `_join_and_record`, whose run is `joined`. -/
def joinMeeting (joined : Bot BotOutcome) : Process BotOutcome := do
  .emit (.join (meetingUrlOf environ))
  process joined

variable (joined : Bot BotOutcome)

/-- The session is checked before the meeting is joined. -/
def joinSignedIn : Process BotOutcome := do
  match ← checkSession environ b with
  | some sessionError => return sessionError
  | none => joinMeeting environ joined

def Meet.runAuthenticated : Process BotOutcome :=
  match validateProfileDir (profileDirOf environ) b.profileDir with
  | some problem => process (BotOutcome.make .botError none (concat ["authenticated mode: ", problem]) false)
  | none => inBrowser (launchAuthenticated b (profileDirOf environ)) (closeAuthenticated b)
      (joinSignedIn environ b joined)

def runAnonymous : Process BotOutcome :=
  inBrowser (launchAnonymous b) (closeAnonymous b) (joinMeeting environ joined)

/-- The `with` block of Playwright. -/
def withPlaywright (body : Process BotOutcome) : Process BotOutcome := do
  .read b.enter
  body.ensure do
    .emit .exit
    .read b.exit

/-- `_run` of the Meet bot. -/
def Meet.run (mode : AuthMode) : Process BotOutcome :=
  withPlaywright b <| match mode with
    | .authenticated => Meet.runAuthenticated environ b joined
    | .anonymous => runAnonymous environ b joined

/-- `_run` of the Zoom bot. -/
def Zoom.run : Process BotOutcome := withPlaywright b (runAnonymous environ b joined)

/-! ## `main` -/

def emitAll (records : List LogRecord) : Process Unit := ⟨records.map fun r => .bot (.log r), .ok ()⟩

def endRecords (logger : Text) (check : RecordingStatus) : Reading BotOutcome → Process Unit
  | .ok outcome => emitAll (finalizeRecords outcome check b.wav.levels)
  | .error e => process (exception logger "unexpected bot error" e)

def sendReport (logger : Text) (report : BotReport) : Process BotExit := do
  .emit (.result (callIdOf environ) report)
  emitAll [{ finishRecord report with logger := logger }]
  return report.exitCode

/-- The end of `main`, from its `try` on. -/
def finish (logger : Text) (run : Process BotOutcome) : Process BotExit := do
  let ended ← caught run
  endRecords b logger (checkRecording b.wav (silenceFloorFromEnv environ)) ended
  sendReport environ logger (exitReport ended (checkRecording b.wav (silenceFloorFromEnv environ)))

/-- A refusal before any browser work. -/
def refuse (logger message : Text) (exitCode : BotExit) : Process BotExit := do
  process (error logger message)
  .emit (.result (callIdOf environ) ⟨exitCode, none⟩)
  return exitCode

/-- `main` behind its first lines. -/
def guarded (logger : Text) (run : Process BotOutcome) : Process BotExit :=
  if consentGranted environ = false then
    refuse environ logger (concat ["CONSENT_ACK must be set to true to start the bot; refusing to join ",
      "without explicit recording consent (exit 6). Set CONSENT_ACK=true once every participant has ",
      "been told the call is recorded"]) .consentMissing
  else if meetingUrlOf environ = [] then refuse environ logger "MEETING_URL is required" .botError
  else finish environ b logger run

def boolText (b : Bool) : Text := if b then "True" else "False"

/-- `name=%s call_id=%s consent_ack=%s`. -/
def startingText (botName : Text) : Text :=
  concat ["name=", botName, " call_id=", callIdOf environ, " consent_ack=",
    boolText (consentGranted environ)]

/-- ` image_sha=%s`. -/
def imageText : Text := concat [" image_sha=", (environ "GIT_SHA".toList).getD "unknown"]

def Meet.main : Process BotExit := do
  let botName ← process (resolveBotName environ b.isPrintable)
  let mode ← process (parseAuthMode b.isPrintable ((environ "BOT_AUTH_MODE".toList).getD []))
  process (info mainLogger (concat ["oreeai bot starting: ", startingText environ botName, " auth_mode=",
    mode.text, imageText environ]))
  guarded environ b mainLogger (Meet.run environ b joined mode)

def Zoom.main : Process BotExit := do
  let botName ← process (resolveBotName environ b.isPrintable)
  process (info Zoom.joinLogger (concat ["oreeai bot starting: platform=zoom ",
    startingText environ botName, imageText environ]))
  guarded environ b Zoom.joinLogger (Zoom.run environ b joined)

end Run

/-- The browser of a run in which nothing fails. -/
def smoothBrowser : BrowserRun where
  enter := .ok ()
  exit := .ok ()
  profileDir := ⟨false, false⟩
  launch := .ok ()
  newContext := .ok ()
  applyStealth := .ok ()
  pages := .ok false
  newPage := .ok ()
  session := ⟨.ok (), ⟨fun _ _ => .ok []⟩, ⟨fun _ _ => .ok []⟩⟩
  contextClose := .ok ()
  browserClose := .ok ()
  wav := ⟨some 900, true, []⟩
  isPrintable _ := true
  isAlnum _ := false

end Notetaker
