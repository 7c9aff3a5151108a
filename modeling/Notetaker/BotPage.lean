import Notetaker.BotLifecycle
import Notetaker.TextRegex

/-!
# What the bot sees of a page

A `Page` is whatever Playwright answers for a locator: the elements that match, in document order, for
the page itself or for the document of one of its frames. The predicates of both platforms read pages
only through it. `Document` is a page with explicit elements.
-/

open PythonText PythonFloat TextRegex

namespace Notetaker

inductive Role where
  | button | textbox | link | dialog
  deriving DecidableEq

inductive Locator where
  | role (role : Role) (name : TextRegex)
  | text (pattern : TextRegex)
  | css (selector : Text)

structure Element where
  visible : Reading Bool
  ariaLabel : Reading (Option Text)
  innerText : Reading Text

/-- The elements of a locator in the page, or in the frame that a selector picks. -/
structure Page where
  query : Option Text → Locator → Reading (List Element)

/-- `_first_visible` with no time to wait: of each locator only the first element counts. -/
def firstVisible (page : Page) (root : Option Text) : List Locator → Reading (Option Element)
  | [] => .ok none
  | locator :: locators => do
      match (← page.query root locator).head? with
      | none => firstVisible page root locators
      | some element =>
          if ← element.visible then return some element
          else firstVisible page root locators

abbrev SelectorQuery := Page → Reading (Option Element)

/-- `[\u2019']?` -/
def apostrophe : TextRegex := optional (.atom (.oneOf [Char.ofNat 0x2019, Char.ofNat 39]))

def detailChars : ℕ := 120

def clip (s : Text) : Text := (normalize s).take detailChars

def safeInnerText (element : Element) : Text :=
  match element.innerText with
  | .ok s => s
  | .error _ => []

def locatorDetail (element : Element) : Reading Text := do
  let label := (← element.ariaLabel).getD []
  let shown := if label ≠ [] then label else safeInnerText element
  return clip (if shown ≠ [] then shown else "matching control")

/-- A notice with its heading, or that there is none. -/
def noticeState (page : Page) (query : SelectorQuery) (heading absent : Text) :
    Reading (Bool × Text) := do
  match ← query page with
  | some notice => return (true, concat [heading, ← locatorDetail notice])
  | none => return (false, absent)

def countSources (button : Element) : Reading (Text × Text) := do
  return ((← button.ariaLabel).getD [], safeInnerText button)

/-- The digits that `int()` converts. -/
def maxIntDigits : ℕ := 4300

def parseCount (digits : Text) : Reading ℕ :=
  if maxIntDigits < digits.length then .error ⟨"ValueError"⟩ else .ok (intOfDigits digits)

def countDetail (count : ℕ) : Text :=
  concat [natText count, " ", if count = 1 then "participant" else "participants", " in call"]

/-- `^\s*\(?\s*(\d{1,3})\s*\)?\s*$` -/
def bareCount : TextRegex :=
  sequence [.start, spaces, optional "(", spaces, group (upToThree (.atom .digit)), spaces,
    optional ")", spaces, .stop]

def capture (find : Text → Option Cursor) (first second : Text) : Option Text :=
  ((find first).or (find second)).bind (·.captured)

def aloneVerdict (count : Option ℕ) (detail : Text) (hint : Option Element) :
    Reading (Bool × Text) := do
  if count = some 1 then
    match hint with
    | some hint =>
        let hintDetail ← locatorDetail hint
        return (true, concat ["only the bot remains (", detail, "; ", hintDetail, ")"])
    | none => return (true, concat ["only the bot remains (", detail, ")"])
  else if count.any (1 < ·) then
    return (false, concat ["other participants remain (", detail, ")"])
  else
    match hint with
    | some hint =>
        let hintDetail ← locatorDetail hint
        return (true, concat ["only the bot remains (", hintDetail, ")"])
    | none => return (false, concat ["not enough evidence the bot is alone (", detail, ")"])

/-! ## Documents -/

/-- An element of a document. `childTexts` are the texts of its children, `selectors` the CSS selectors
that match it. -/
structure Node where
  /-- The role in the accessibility tree. -/
  role : Option Role
  name : Text
  text : Text
  childTexts : List Text
  ariaLabel : Option Text
  innerText : Text
  selectors : List Text
  visible : Bool

namespace Node

def element (node : Node) : Element where
  visible := .ok node.visible
  ariaLabel := .ok node.ariaLabel
  innerText := .ok node.innerText

/-- A text is looked for in the smallest element that has it. -/
def matchedBy (node : Node) : Locator → Bool
  | .role r name => node.role = some r ∧ (search javascriptIgnoreCase name node.name).isSome
  | .text pattern =>
      (search javascriptIgnoreCase pattern node.text).isSome ∧
        ∀ text ∈ node.childTexts, (search javascriptIgnoreCase pattern text).isNone
  | .css selector => selector ∈ node.selectors

end Node

structure Document where
  nodes : List Node
  /-- The documents of the frames, by the selectors that pick them. -/
  frames : List (Text × List Node)

namespace Document

def root (document : Document) : Option Text → List Node
  | none => document.nodes
  | some selector => (document.frames.lookup selector).getD []

def page (document : Document) : Page where
  query root locator := .ok (((document.root root).filter (·.matchedBy locator)).map Node.element)

end Document

end Notetaker
