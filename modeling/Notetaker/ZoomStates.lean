import Notetaker.BotPage
import Notetaker.ZoomLoop

/-!
# The predicates of the Zoom page

`bot/selectors_zoom.py` and `bot/states_zoom.py`. The web client lives in a frame of the page when there
is one. A notice counts as the end of the call if it is a dialog, or if the in-call controls are gone.
-/

open PythonText TextRegex

namespace Notetaker.Zoom

/-! ## Selectors -/

/-- `^\s*…\s*$` -/
def wholeName (r : TextRegex) : TextRegex := sequence [.start, spaces, r, spaces, .stop]

def leave : List Locator :=
  [.role .button (wholeName (sequence ["leave", optional " meeting"]))]

def endCall : List Locator := [.role .button (wholeName (sequence ["end", optional " meeting"]))]

def participants : List Locator :=
  [.role .button (sequence ["open the ", optional "manage ", "participants", anything]),
    .role .button (sequence ["participants", anything]),
    .role .button (sequence ["show participants", anything])]

def waitingRoom : TextRegex :=
  anyOf [sequence ["waiting for the host to let you in", anything],
    sequence ["host will let you in", anything],
    sequence ["you are in the waiting room", anything],
    sequence ["please wait until the host", anything],
    sequence ["we", apostrophe, "ve let them know you", apostrophe, "re here", anything],
    sequence ["host has joined", anything]]

def meetingNotStarted : TextRegex :=
  anyOf [sequence ["meeting has not started", anything],
    sequence ["hasn", apostrophe, "t started", anything],
    sequence ["wait", optional "ing", " for the host to start", anything],
    sequence ["host has not ", optional "yet ", "started", anything]]

def removed : TextRegex :=
  anyOf [sequence ["removed ", optional "you ", "from ", anyOf ["this ", "the ", .empty], "meeting",
      anything],
    sequence ["host", anything, "removed you", anything],
    sequence ["you have been removed", anything]]

def callEnded : TextRegex :=
  anyOf [sequence ["meeting has been ended", anything],
    sequence ["has ended by ", optional "the ", "host", anything],
    sequence ["host ended the meeting", anything], sequence ["meeting ended", anything],
    sequence ["meeting is end", anything]]

def aloneHintText : TextRegex :=
  anyOf [sequence ["you are the only ", anyOf ["one", "participant"], anything],
    sequence ["no one else is here", anything], sequence ["only you are in", anything]]

def passcodeInput : List Locator :=
  [.role .textbox (sequence [optional (anyOf ["meeting ", "enter "]), "passcode", anything]),
    .css "input[aria-label*=\"passcode\" i]", .css "input[placeholder*=\"passcode\" i]"]

def passcodeRequired : TextRegex :=
  anyOf [sequence ["enter ", optional "the ", optional "meeting ", "passcode", anything],
    sequence ["passcode is ", anyOf ["required", "incorrect"], anything],
    sequence ["incorrect passcode", anything]]

def signInRequired : TextRegex :=
  anyOf [sequence ["sign in to join", anything],
    sequence ["sign in to ", optional "the ", "meeting", anything],
    sequence ["please sign in", anything, "join", anything]]

def onlyAuthenticated : TextRegex :=
  anyOf [sequence ["only authenticated users", anything],
    sequence ["only for authenticated users", anything],
    sequence ["require", optional "s", " authentication", anything],
    sequence ["authenticated users can join", anything]]

def desktopAppRequired : TextRegex :=
  anyOf [sequence ["require", optional "s", " the ", optional "zoom ", optional "desktop ",
      anyOf ["app", "client"], anything],
    sequence ["only ", anyOf ["available", "supported"], " in the ", optional "zoom ",
      optional "desktop ", anyOf ["app", "client"], anything],
    sequence ["end-to-end encryption", anything], sequence ["e2ee", anything]]

def clientFrameSelectors : List Text := ["iframe#webclient", "iframe[src*=\"/wc/\"]"]

/-- The frame of the web client, or the page itself; a selector that raises is passed over. -/
def root (page : Page) : Option Text :=
  clientFrameSelectors.find? fun selector =>
    match page.query none (.css selector) with
    | .ok frames => frames ≠ []
    | .error _ => false

def client (locators : List Locator) : SelectorQuery := fun page =>
  firstVisible page (root page) locators

/-- The part of the protocol `SelectorSet` that the predicates of the loop use. -/
structure SelectorSet where
  leaveButton : SelectorQuery
  endButton : SelectorQuery
  waitingRoomIndicator : SelectorQuery
  meetingNotStartedIndicator : SelectorQuery
  removedIndicator : SelectorQuery
  removedDialog : SelectorQuery
  callEndedIndicator : SelectorQuery
  meetingEndedDialog : SelectorQuery
  participantCountButton : SelectorQuery
  aloneHint : SelectorQuery
  passcodeInput : SelectorQuery
  passcodeRequiredIndicator : SelectorQuery
  signInRequiredIndicator : SelectorQuery
  onlyAuthenticatedIndicator : SelectorQuery
  desktopAppRequiredIndicator : SelectorQuery

/-- The module `bot.selectors_zoom`. -/
def selectors : SelectorSet where
  leaveButton := client leave
  endButton := client endCall
  waitingRoomIndicator := client [.text waitingRoom]
  meetingNotStartedIndicator := client [.text meetingNotStarted]
  removedIndicator := client [.text removed]
  removedDialog := client [.role .dialog removed]
  callEndedIndicator := client [.text callEnded]
  meetingEndedDialog := client [.role .dialog callEnded]
  participantCountButton := client participants
  aloneHint := client [.text aloneHintText]
  passcodeInput := client passcodeInput
  passcodeRequiredIndicator := client [.text passcodeRequired]
  signInRequiredIndicator := client [.text signInRequired]
  onlyAuthenticatedIndicator := client [.text onlyAuthenticated]
  desktopAppRequiredIndicator := client [.text desktopAppRequired]

/-! ## States -/

variable (page : Page) (selectorSet : SelectorSet)

def inCallControls : Reading (Bool × Text) := do
  match ← selectorSet.leaveButton page with
  | some leave => return (true, concat ["in call: ", ← locatorDetail leave])
  | none =>
      match ← selectorSet.endButton page with
      | some endButton => return (true, concat ["in call: ", ← locatorDetail endButton])
      | none => return (false, "leave/end control absent")

def isInWaitingRoom : Reading (Bool × Text) :=
  noticeState page selectorSet.waitingRoomIndicator "waiting for admission: "
    "no waiting-room notice visible"

def isMeetingNotStarted : Reading (Bool × Text) :=
  noticeState page selectorSet.meetingNotStartedIndicator "meeting not started: "
    "no meeting-not-started notice visible"

def isAdmitted : Reading (Bool × Text) := do
  if (← selectorSet.waitingRoomIndicator page).isSome then
    return (false, "waiting-room notice overrides the in-call controls")
  if (← selectorSet.meetingNotStartedIndicator page).isSome then
    return (false, "meeting-not-started notice overrides the in-call controls")
  let (controls, controlsDetail) ← inCallControls page selectorSet
  if controls then return (true, controlsDetail)
  return (false, "leave/end control absent")

/-- A dialog is trusted, a text only without the in-call controls. -/
def terminalState (dialogQuery noticeQuery : SelectorQuery)
    (dialogHeading noticeHeading absent ambiguous : Text) : Reading (Bool × Text) := do
  match ← dialogQuery page with
  | some dialog => return (true, concat [dialogHeading, ← locatorDetail dialog])
  | none =>
      match ← noticeQuery page with
      | none => return (false, absent)
      | some notice =>
          let (controls, _) ← inCallControls page selectorSet
          if controls then return (false, ambiguous)
          return (true, concat [noticeHeading, ← locatorDetail notice])

def isRemoved : Reading (Bool × Text) :=
  terminalState page selectorSet selectorSet.removedDialog selectorSet.removedIndicator
    "removed from meeting (dialog): " "removed from meeting: " "no removal notice visible"
    "removal text visible mid-call with in-call controls (chat copy?)"

def isCallEnded : Reading (Bool × Text) :=
  terminalState page selectorSet selectorSet.meetingEndedDialog selectorSet.callEndedIndicator
    "call ended (dialog): " "call ended: " "no call-ended notice visible"
    "ended text visible mid-call with in-call controls (chat copy?)"

/-- `\[(\d{1,3})\]` -/
def participantBracket : TextRegex := sequence ["[", group (upToThree (.atom .digit)), "]"]

/-- `participants?\s*\(?(\d+)\)?` -/
def participantCountText : TextRegex :=
  sequence ["participant", optional "s", spaces, optional "(", group (plus (.atom .digit)),
    optional ")"]

/-- `^\s*(\d{1,3})\s+participants?\b` -/
def participantLeading : TextRegex :=
  sequence [.start, spaces, group (upToThree (.atom .digit)), plus (.atom .space), "participant",
    optional "s", .boundary]

def countIn (isAlnum : Char → Bool) (source : Text) : Option Text :=
  let found := (search (pythonRegex isAlnum) participantBracket source).or
    ((search (pythonIgnoreCase isAlnum) participantCountText source).or
      (search (pythonIgnoreCase isAlnum) participantLeading source))
  found.bind (·.captured)

def countText (isAlnum : Char → Bool) (label text : Text) : Option Text :=
  ((countIn isAlnum label).or (countIn isAlnum text)).or
    (capture (matchStart (pythonRegex isAlnum) bareCount) label text)

def participantCount (isAlnum : Char → Bool) : Reading (Option ℕ × Text) := do
  let (controls, _) ← inCallControls page selectorSet
  if ¬ controls then return (none, "not in a call")
  match ← selectorSet.participantCountButton page with
  | none => return (none, "participant-count control absent")
  | some button =>
      let (label, text) ← countSources button
      match countText isAlnum label text with
      | none =>
          let detail ← locatorDetail button
          return (none, concat ["participant count unavailable (", detail, ")"])
      | some digits =>
          let count ← parseCount digits
          return (some count, countDetail count)

def botAloneInCall (isAlnum : Char → Bool) : Reading (Bool × Text) := do
  let (controls, _) ← inCallControls page selectorSet
  if ¬ controls then return (false, "not in a call")
  let (count, detail) ← participantCount page selectorSet isAlnum
  aloneVerdict count detail (← selectorSet.aloneHint page)

def isPasscodeScreen : Reading (Bool × Text) := do
  match ← selectorSet.passcodeInput page with
  | some field => return (true, concat ["passcode required: ", ← locatorDetail field])
  | none =>
      noticeState page selectorSet.passcodeRequiredIndicator "passcode required: "
        "no passcode prompt visible"

def isSignInRequired : Reading (Bool × Text) :=
  noticeState page selectorSet.signInRequiredIndicator "sign-in required: "
    "no sign-in wall visible"

def isOnlyAuthenticated : Reading (Bool × Text) :=
  noticeState page selectorSet.onlyAuthenticatedIndicator "authenticated-only meeting: "
    "no authenticated-only notice visible"

def isDesktopAppRequired : Reading (Bool × Text) :=
  noticeState page selectorSet.desktopAppRequiredIndicator "desktop app required: "
    "no desktop-app-required notice visible"

/-- The poll of a turn that meets the page; what is not read from the page is that of `rest`. -/
def observe (isAlnum : Char → Bool) (rest : ZoomPoll) : ZoomPoll :=
  { rest with
    removed := isRemoved page selectors
    ended := isCallEnded page selectors
    admitted := isAdmitted page selectors
    participantCount := participantCount page selectors isAlnum
    botAlone := botAloneInCall page selectors isAlnum
    signInRequired := isSignInRequired page selectors
    onlyAuthenticated := isOnlyAuthenticated page selectors
    desktopAppRequired := isDesktopAppRequired page selectors
    passcodeScreen := isPasscodeScreen page selectors
    inWaitingRoom := isInWaitingRoom page selectors
    meetingNotStarted := isMeetingNotStarted page selectors
    inCallControls := inCallControls page selectors }

end Notetaker.Zoom
