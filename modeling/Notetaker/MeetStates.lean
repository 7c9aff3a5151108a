import Notetaker.BotPage
import Notetaker.MeetLoop

/-!
# The predicates of the Meet page

`bot/selectors.py` and `bot/states.py`: the selectors that the Meet loop uses, the predicates over a
selector set, and the poll that a page gives.
-/

open PythonText TextRegex

namespace Notetaker.Meet

/-! ## Selectors -/

def leaveCall : List Locator := [.role .button (sequence ["Leave call", anything])]

def knocking : TextRegex :=
  anyOf [sequence ["asking to be let in", anything],
    sequence ["please wait until a meeting host", anything]]

def callEnded : TextRegex :=
  anyOf [sequence ["meeting has ended", anything],
    sequence ["you", apostrophe, "ve left the meeting", anything],
    sequence ["you left the meeting", anything], sequence ["host ended the meeting", anything]]

def removed : TextRegex :=
  anyOf [sequence ["removed from the meeting", anything], sequence ["removed you", anything]]

def joinBlocked : TextRegex :=
  sequence ["you can", apostrophe, "t join this video call", anything]

def participants : List Locator :=
  [.role .button (sequence ["people",
      optional (sequence [" (", plus (.atom .digit), ")"]), anything]),
    .role .button (sequence ["show everyone", anything])]

def aloneHintText : TextRegex :=
  anyOf [sequence ["you", apostrophe, "re the only one here", anything],
    sequence ["no one else is here", anything]]

def visibleText (pattern : TextRegex) : SelectorQuery := fun page =>
  firstVisible page none [.text pattern]

/-- The part of the protocol `SelectorSet` that the predicates of the loop use. -/
structure SelectorSet where
  leaveCallButton : SelectorQuery
  knockingIndicator : SelectorQuery
  callEndedIndicator : SelectorQuery
  removedIndicator : SelectorQuery
  participantCountButton : SelectorQuery
  aloneHint : SelectorQuery

/-- The module `bot.selectors`. -/
def selectors : SelectorSet where
  leaveCallButton := fun page => firstVisible page none leaveCall
  knockingIndicator := visibleText knocking
  callEndedIndicator := visibleText callEnded
  removedIndicator := visibleText removed
  participantCountButton := fun page => firstVisible page none participants
  aloneHint := visibleText aloneHintText

def joinBlockedIndicator : SelectorQuery := visibleText joinBlocked

/-! ## States -/

variable (page : Page) (selectorSet : SelectorSet)

def isAdmitted : Reading (Bool × Text) := do
  if (← selectorSet.knockingIndicator page).isSome then
    return (false, "still knocking (admission pending)")
  if (← selectorSet.leaveCallButton page).isSome then
    return (true, "in call: leave control visible")
  return (false, "leave control absent")

def isRemoved : Reading (Bool × Text) :=
  noticeState page selectorSet.removedIndicator "removed from call: " "no removal notice visible"

def isCallEnded : Reading (Bool × Text) :=
  noticeState page selectorSet.callEndedIndicator "call ended: " "no call-ended notice visible"

/-- `people\s*\((\d+)\)` -/
def participantCountText : TextRegex :=
  sequence ["people", spaces, "(", group (plus (.atom .digit)), ")"]

def countText (isAlnum : Char → Bool) (label text : Text) : Option Text :=
  (capture (search (pythonIgnoreCase isAlnum) participantCountText) label text).or
    (capture (matchStart (pythonRegex isAlnum) bareCount) label text)

def participantCount (isAlnum : Char → Bool) : Reading (Option ℕ × Text) := do
  if (← selectorSet.leaveCallButton page).isNone then return (none, "not in a call")
  match ← selectorSet.participantCountButton page with
  | none => return (none, "participant-count control absent")
  | some button =>
      let (label, text) ← countSources button
      match countText isAlnum label text with
      | none =>
          let detail ← locatorDetail button
          return (none, concat ["participant count unavailable (", detail, ")"])
      | some digits =>
          let count ← parseCount digits
          return (some count, countDetail count)

/-- The count is read with the default selectors, whatever the selector set. -/
def botAloneInCall (isAlnum : Char → Bool) : Reading (Bool × Text) := do
  if (← selectorSet.leaveCallButton page).isNone then return (false, "not in a call")
  let (count, detail) ← participantCount page selectors isAlnum
  aloneVerdict count detail (← selectorSet.aloneHint page)

/-- The poll of a turn that meets the page; what is not read from the page is that of `rest`. -/
def observe (isAlnum : Char → Bool) (rest : Poll) : MeetPoll where
  toPoll := { rest with
    removed := isRemoved page selectors
    ended := isCallEnded page selectors
    admitted := isAdmitted page selectors
    participantCount := participantCount page selectors isAlnum
    botAlone := botAloneInCall page selectors isAlnum }
  joinBlocked := return (← joinBlockedIndicator page).isSome
  knocking := return (← selectors.knockingIndicator page).isSome
  leaveVisible := return (← selectors.leaveCallButton page).isSome

end Notetaker.Meet
