import Notetaker.Effectful
import Notetaker.PythonText

/-!
# The consent announcement in the chat

`post_chat_announcement` of `bot/consent.py`, on a page where every interaction takes effect, is ignored
or raises. The composer has a caret and a selection, may hold a draft, and empties when it is posted.

The announcement is all or nothing except in two cases: the composer holds another text than the message
when it is sent, since single keystrokes were ignored, or nothing is ever sent and no step raises.
-/

open PythonText

namespace Notetaker.ChatAnnouncement

/-! ## The page -/

inductive PageError where
  | playwright

inductive Response where
  | effect | ignored | raises
  deriving DecidableEq

def Response.apply {α : Type} (r : Response) (f : α → α) (a : α) : α :=
  if r = .effect then f a else a

structure Composer where
  beforeCaret : Text
  afterCaret : Text
  /-- Everything is selected. -/
  selected : Bool

namespace Composer

def text (c : Composer) : Text := c.beforeCaret ++ c.afterCaret

def empty : Composer := ⟨[], [], false⟩

def placeCaret (position : ℕ) (c : Composer) : Composer :=
  ⟨c.text.take position, c.text.drop position, false⟩

def selectAll (c : Composer) : Composer := { c with selected := true }

def delete (c : Composer) : Composer :=
  if c.selected then empty else { c with afterCaret := c.afterCaret.tail }

def insert (char : Char) (c : Composer) : Composer :=
  if c.selected then ⟨[char], [], false⟩ else { c with beforeCaret := c.beforeCaret ++ [char] }

def fill (message : Text) (_ : Composer) : Composer := ⟨message, [], false⟩

end Composer

structure ChatState where
  composer : Composer
  posted : List Text

/-- An empty composer has nothing to post. -/
def ChatState.post (s : ChatState) : ChatState :=
  if s.composer.text = [] then s else ⟨.empty, s.posted ++ [s.composer.text]⟩

def onComposer (f : Composer → Composer) (s : ChatState) : ChatState :=
  { s with composer := f s.composer }

/-- The three interactions of `_click_with_dom_fallback`. -/
structure ControlClick where
  move : Response
  trusted : Response
  dom : Response

/-- The reads of `_box_has_text`. -/
structure BoxRead where
  inputValue : Response
  innerText : Response

structure KeyStep where
  wait : Response
  press : Response

/-- How the page answers, in the order of the calls. -/
structure ChatPage where
  openButton : Except PageError Bool
  toggle : ControlClick
  pause : Response
  messageBox : Except PageError Bool
  /-- The open control is still there. -/
  openButtonStays : Except PageError Bool
  toggleAgain : Response
  messageBoxAgain : Except PageError Bool
  fieldClick : Response
  /-- Where the click on the field puts the caret. -/
  caret : ℕ
  selectAll : Response
  delete : Response
  keys : ℕ → KeyStep
  typedRead : BoxRead
  fill : Response
  sendButton : Except PageError Bool
  send : ControlClick
  confirmWait : Response
  sentRead : BoxRead
  sendAgain : Response
  enter : Response

/-! ## The announcement -/

abbrev Acting := Effectful PageError ChatState

def respond (r : Response) (f : ChatState → ChatState) : Acting Unit :=
  match r with
  | .effect => .update f
  | .ignored => pure ()
  | .raises => .raise .playwright

/-- Whether the trusted click was accepted. -/
def clickWithDomFallback (click : ControlClick) (f : ChatState → ChatState) : Acting Bool := do
  respond click.move id
  .rescue
    (do
      respond click.trusted f
      return true)
    fun _ => do
      respond click.dom f
      return false

/-- A read that is ignored sees nothing. -/
def readText (r : Response) : Acting Text :=
  match r with
  | .effect => do return (← .current).composer.text
  | .ignored => return []
  | .raises => .raise .playwright

def boxHasText (read : BoxRead) : Acting Bool :=
  .rescue (do return decide ((← readText read.inputValue) ≠ [])) fun _ =>
    .rescue (do return decide (strip (← readText read.innerText) ≠ [])) fun _ => return false

section Announcement

variable (page : ChatPage) (message : Text)

def typeText : Acting Unit := do
  respond page.fieldClick (onComposer (.placeCaret page.caret))
  respond page.selectAll (onComposer .selectAll)
  respond page.delete (onComposer .delete)
  .forEach
    (fun key => do
      respond (page.keys key.2).wait id
      respond (page.keys key.2).press (onComposer (.insert key.1)))
    message.zipIdx

/-- Whether there is a composer after the click on the open control, or after a second one. -/
def openComposer : Acting Bool := do
  let trustedClicked ← clickWithDomFallback page.toggle id
  respond page.pause id
  let box ← .attempt page.messageBox
  if ¬ box ∧ trustedClicked then
    if ← .attempt page.openButtonStays then
      respond page.toggleAgain id
      .attempt page.messageBoxAgain
    else return box
  else return box

def writeMessage : Acting Unit := do
  typeText page message
  if ¬ (← boxHasText page.typedRead) then respond page.fill (onComposer (.fill message))

def sendMessage : Acting Unit := do
  if ← .attempt page.sendButton then
    let _ ← clickWithDomFallback page.send .post
    respond page.confirmWait id
    if ← boxHasText page.sentRead then respond page.sendAgain .post
  else respond page.enter .post

def postChatAnnouncement : Acting Bool := do
  if ¬ (← .attempt page.openButton) then return false
  .rescue
    (do
      if ← openComposer page then
        writeMessage page message
        sendMessage page
        return true
      else return false)
    fun _ => return false

end Announcement

/-- What the announcement promises, with `draft` in the composer. -/
def AllOrNothing (page : ChatPage) (draft : Composer) (message : Text) : Prop :=
  let run := postChatAnnouncement page message ⟨draft, []⟩
  (∃ returned, run.1 = .ok returned ∧ (returned = true → run.2.posted ≠ [])) ∧
    run.2.posted.length ≤ 1 ∧ ∀ text ∈ run.2.posted, text = message

/-! ## When it is kept -/

def ControlClick.Lands (click : ControlClick) : Prop :=
  click.move ≠ .raises ∧ (click.trusted ≠ .raises ∨ click.dom ≠ .raises)

def ControlClick.TakesEffect (click : ControlClick) : Prop :=
  click.trusted = .effect ∨ click.trusted = .raises ∧ click.dom = .effect

def BoxRead.sees (read : BoxRead) (text : Text) : Bool :=
  match read.inputValue with
  | .effect => text ≠ []
  | .ignored => false
  | .raises =>
      match read.innerText with
      | .effect => strip text ≠ []
      | _ => false

instance (click : ControlClick) : Decidable click.TakesEffect :=
  inferInstanceAs (Decidable (_ ∨ _))

namespace ChatPage

variable (page : ChatPage) (message : Text) (draft : Composer)

def Opens : Prop :=
  page.toggle.Lands ∧ page.pause ≠ .raises ∧
    (page.messageBox = .ok true ∨
      page.messageBox = .ok false ∧ page.toggle.trusted ≠ .raises ∧
        page.openButtonStays = .ok true ∧ page.toggleAgain ≠ .raises ∧
        page.messageBoxAgain = .ok true)

def Types : Prop :=
  page.fieldClick ≠ .raises ∧ page.selectAll ≠ .raises ∧ page.delete ≠ .raises ∧
    ∀ key ∈ message.zipIdx,
      (page.keys key.2).wait ≠ .raises ∧ (page.keys key.2).press ≠ .raises

def cleared : Composer :=
  page.delete.apply .delete (page.selectAll.apply .selectAll
    (page.fieldClick.apply (.placeCaret page.caret) draft))

def typed : Composer :=
  message.zipIdx.foldl (fun c key => (page.keys key.2).press.apply (.insert key.1) c)
    (page.cleared draft)

/-- No text is seen after the typing. -/
def Fills : Prop := page.typedRead.sees (page.typed message draft).text = false

instance : Decidable (page.Fills message draft) := inferInstanceAs (Decidable (_ = _))

def Writes : Prop :=
  page.Types message ∧ (page.Fills message draft → page.fill ≠ .raises)

def written : Text :=
  (if page.Fills message draft then page.fill.apply (.fill message) (page.typed message draft)
    else page.typed message draft).text

/-- One of the sending steps takes effect on a text. -/
def Sends (text : Text) : Prop :=
  text ≠ [] ∧
    (page.sendButton = .ok true ∧ page.send.Lands ∧
        (page.send.TakesEffect ∨ page.confirmWait ≠ .raises ∧ page.sentRead.sees text = true ∧
          page.sendAgain = .effect) ∨
      page.sendButton = .ok false ∧ page.enter = .effect)

/-- No sending step raises on a text that stays. -/
def Finishes (text : Text) : Prop :=
  page.sendButton = .ok true ∧ page.send.Lands ∧ page.confirmWait ≠ .raises ∧
      (page.sentRead.sees text = true → page.sendAgain ≠ .raises) ∨
    page.sendButton = .ok false ∧ page.enter ≠ .raises

/-- Once the composer is written, what it holds is sent and is the message, or sending raises. -/
def KeepsPromise : Prop :=
  (∃ found, page.openButton = .ok found) ∧
    (page.openButton = .ok true → page.Opens → page.Writes message draft →
      page.Sends (page.written message draft) ∧ page.written message draft = message ∨
        ¬ page.Sends (page.written message draft) ∧ ¬ page.Finishes (page.written message draft))

end ChatPage

/-! ## One interaction -/

section Steps

variable {s : ChatState}

theorem respond_of_ne_raises {r : Response} (h : r ≠ .raises) (f : ChatState → ChatState)
    (s : ChatState) : respond r f s = (.ok (), r.apply f s) := by
  cases r with
  | effect => rfl
  | ignored => rfl
  | raises => exact absurd rfl h

theorem respond_of_raises {r : Response} (h : r = .raises) (f : ChatState → ChatState)
    (s : ChatState) : respond r f s = (.error .playwright, s) := by
  subst h
  rfl

theorem apply_id {α : Type} (r : Response) (a : α) : r.apply id a = a := by
  unfold Response.apply
  split_ifs <;> rfl

theorem apply_onComposer (r : Response) (f : Composer → Composer) (s : ChatState) :
    r.apply (onComposer f) s = onComposer (r.apply f) s := by
  unfold Response.apply
  split_ifs <;> rfl

theorem clickWithDomFallback_of_lands {click : ControlClick} (h : click.Lands)
    (f : ChatState → ChatState) (s : ChatState) :
    clickWithDomFallback click f s =
      (.ok (click.trusted ≠ .raises), if click.TakesEffect then f s else s) := by
  obtain ⟨move, trusted, dom⟩ := click
  obtain ⟨hmove, hclick⟩ := h
  unfold clickWithDomFallback
  rw [Effectful.bind_of_ok (respond_of_ne_raises hmove id s), apply_id]
  cases trusted with
  | effect => rfl
  | ignored => rfl
  | raises =>
      cases dom with
      | effect => rfl
      | ignored => rfl
      | raises => exact absurd rfl (hclick.resolve_left (not_not.2 rfl))

theorem clickWithDomFallback_of_not_lands {click : ControlClick} (h : ¬ click.Lands)
    (f : ChatState → ChatState) (s : ChatState) :
    clickWithDomFallback click f s = (.error .playwright, s) := by
  obtain ⟨move, trusted, dom⟩ := click
  unfold clickWithDomFallback
  by_cases hmove : move = .raises
  · exact Effectful.bind_of_error (respond_of_raises hmove id s)
  · rw [Effectful.bind_of_ok (respond_of_ne_raises hmove id s), apply_id]
    obtain ⟨rfl, rfl⟩ : trusted = .raises ∧ dom = .raises := by
      by_contra hother
      exact h ⟨hmove, not_and_or.1 hother⟩
    rfl

theorem boxHasText_apply (read : BoxRead) (s : ChatState) :
    boxHasText read s = (.ok (read.sees s.composer.text), s) := by
  obtain ⟨inputValue, innerText⟩ := read
  cases inputValue with
  | effect => rfl
  | ignored => rfl
  | raises => cases innerText <;> rfl

theorem sees_nil (read : BoxRead) : read.sees [] = false := by
  obtain ⟨inputValue, innerText⟩ := read
  cases inputValue with
  | raises => cases innerText <;> rfl
  | _ => rfl

theorem post_of_ne_nil (h : s.composer.text ≠ []) :
    s.post = ⟨.empty, s.posted ++ [s.composer.text]⟩ := if_neg h

theorem post_of_eq_nil (h : s.composer.text = []) : s.post = s := if_pos h

end Steps

/-! ## The composer -/

section Composer

variable {page : ChatPage} {message : Text} {s : ChatState}

theorem keeps_posted_respond (p : List Text) (r : Response) (f : Composer → Composer) :
    Effectful.Keeps (fun s => s.posted = p) (respond r (onComposer f)) := by
  intro s hs
  cases r <;> exact hs

theorem clickWithDomFallback_id {click : ControlClick} (h : click.Lands) (s : ChatState) :
    clickWithDomFallback click id s = (.ok (click.trusted ≠ .raises), s) := by
  rw [clickWithDomFallback_of_lands h, id, ite_self]

theorem openComposer_of_opens (h : page.Opens) (s : ChatState) :
    openComposer page s = (.ok true, s) := by
  obtain ⟨hlands, hpause, hbox⟩ := h
  unfold openComposer
  rw [Effectful.bind_of_ok (clickWithDomFallback_id hlands s),
    Effectful.bind_of_ok (respond_of_ne_raises hpause id s), apply_id]
  rcases hbox with hbox | ⟨hbox, htrusted, hstays, hagain, hboxAgain⟩
  · rw [Effectful.attempt_bind_of_ok hbox]
    rfl
  · rw [Effectful.attempt_bind_of_ok hbox, if_pos ⟨Bool.false_ne_true, decide_eq_true htrusted⟩,
      Effectful.attempt_bind_of_ok hstays, if_pos rfl,
      Effectful.bind_of_ok (respond_of_ne_raises hagain id s), apply_id, hboxAgain]
    rfl

theorem openComposer_of_not_opens (h : ¬ page.Opens) (s : ChatState) :
    openComposer page s = (.ok false, s) ∨ openComposer page s = (.error .playwright, s) := by
  unfold openComposer
  by_cases hlands : page.toggle.Lands
  · rw [Effectful.bind_of_ok (clickWithDomFallback_id hlands s)]
    by_cases hpause : page.pause = .raises
    · exact .inr (Effectful.bind_of_error (respond_of_raises hpause id s))
    · rw [Effectful.bind_of_ok (respond_of_ne_raises hpause id s), apply_id]
      cases hbox : page.messageBox with
      | error e => exact .inr (Effectful.attempt_bind_of_error rfl)
      | ok box =>
          rw [Effectful.attempt_bind_of_ok rfl]
          cases box with
          | true => exact absurd ⟨hlands, hpause, .inl hbox⟩ h
          | false =>
              by_cases htrusted : page.toggle.trusted = .raises
              · have hretry : ¬ (¬ false = true ∧ decide (page.toggle.trusted ≠ .raises) = true) :=
                  fun h => of_decide_eq_true h.2 htrusted
                rw [if_neg hretry]
                exact .inl rfl
              · rw [if_pos ⟨Bool.false_ne_true, decide_eq_true htrusted⟩]
                cases hstays : page.openButtonStays with
                | error e => exact .inr (Effectful.attempt_bind_of_error rfl)
                | ok stays =>
                    rw [Effectful.attempt_bind_of_ok rfl]
                    cases stays with
                    | false => exact .inl rfl
                    | true =>
                        rw [if_pos rfl]
                        by_cases hagain : page.toggleAgain = .raises
                        · exact .inr (Effectful.bind_of_error (respond_of_raises hagain id s))
                        · rw [Effectful.bind_of_ok (respond_of_ne_raises hagain id s), apply_id]
                          cases hboxAgain : page.messageBoxAgain with
                          | error e => exact .inr rfl
                          | ok box =>
                              cases box with
                              | false => exact .inl rfl
                              | true => exact absurd ⟨hlands, hpause,
                                  .inr ⟨hbox, htrusted, hstays, hagain, hboxAgain⟩⟩ h
  · exact .inr (Effectful.bind_of_error (clickWithDomFallback_of_not_lands hlands id s))

theorem typeKey_of_ne_raises {key : Char × ℕ} (hwait : (page.keys key.2).wait ≠ .raises)
    (hpress : (page.keys key.2).press ≠ .raises) (s : ChatState) :
    (do
      respond (page.keys key.2).wait id
      respond (page.keys key.2).press (onComposer (.insert key.1)) : Acting Unit) s =
      (.ok (), onComposer ((page.keys key.2).press.apply (.insert key.1)) s) := by
  rw [Effectful.bind_of_ok (respond_of_ne_raises hwait id s), apply_id,
    respond_of_ne_raises hpress, apply_onComposer]

theorem foldl_onComposer {ι : Type} (f : ι → Composer → Composer) (items : List ι)
    (s : ChatState) :
    items.foldl (fun s i => onComposer (f i) s) s =
      onComposer (fun c => items.foldl (fun c i => f i c) c) s := by
  induction items generalizing s with
  | nil => rfl
  | cons i items ih => exact ih (onComposer (f i) s)

theorem typeText_of_types (h : page.Types message) (s : ChatState) :
    typeText page message s = (.ok (), onComposer (page.typed message) s) := by
  obtain ⟨hclick, hselect, hdelete, hkeys⟩ := h
  unfold typeText
  rw [Effectful.bind_of_ok (respond_of_ne_raises hclick _ s),
    Effectful.bind_of_ok (respond_of_ne_raises hselect _ _),
    Effectful.bind_of_ok (respond_of_ne_raises hdelete _ _), apply_onComposer, apply_onComposer,
    apply_onComposer, Effectful.forEach_of_forall_ok fun key hkey =>
      typeKey_of_ne_raises (hkeys key hkey).1 (hkeys key hkey).2, foldl_onComposer]
  rfl

theorem typeText_of_not_types (h : ¬ page.Types message) (s : ChatState) :
    ∃ e t, typeText page message s = (.error e, t) := by
  unfold typeText
  by_cases hclick : page.fieldClick = .raises
  · exact ⟨_, _, Effectful.bind_of_error (respond_of_raises hclick _ s)⟩
  · rw [Effectful.bind_of_ok (respond_of_ne_raises hclick _ s)]
    by_cases hselect : page.selectAll = .raises
    · exact ⟨_, _, Effectful.bind_of_error (respond_of_raises hselect _ _)⟩
    · rw [Effectful.bind_of_ok (respond_of_ne_raises hselect _ _)]
      by_cases hdelete : page.delete = .raises
      · exact ⟨_, _, Effectful.bind_of_error (respond_of_raises hdelete _ _)⟩
      · rw [Effectful.bind_of_ok (respond_of_ne_raises hdelete _ _)]
        obtain ⟨key, hkey, hraises⟩ : ∃ key ∈ message.zipIdx,
            ¬ ((page.keys key.2).wait ≠ .raises ∧ (page.keys key.2).press ≠ .raises) := by
          by_contra hnone
          push Not at hnone
          exact h ⟨hclick, hselect, hdelete, hnone⟩
        apply Effectful.forEach_raises hkey
        intro t
        by_cases hwait : (page.keys key.2).wait = .raises
        · exact ⟨_, _, Effectful.bind_of_error (respond_of_raises hwait id t)⟩
        · rw [Effectful.bind_of_ok (respond_of_ne_raises hwait id t)]
          have hpress : (page.keys key.2).press = .raises := by
            by_contra hpress
            exact hraises ⟨hwait, hpress⟩
          exact ⟨_, _, respond_of_raises hpress _ _⟩

theorem writeMessage_of_writes (h : page.Writes message s.composer) :
    ∃ t, writeMessage page message s = (.ok (), t) ∧ t.posted = s.posted ∧
      t.composer.text = page.written message s.composer := by
  obtain ⟨htypes, hfill⟩ := h
  unfold writeMessage ChatPage.written
  rw [Effectful.bind_of_ok (typeText_of_types htypes s), Effectful.bind_of_ok (boxHasText_apply _ _)]
  by_cases hfills : page.Fills message s.composer
  · have hunseen :
        ¬ page.typedRead.sees (onComposer (page.typed message) s).composer.text = true :=
      (Bool.not_eq_true _).mpr hfills
    rw [if_pos hfills, if_pos hunseen]
    refine ⟨_, respond_of_ne_raises (hfill hfills) _ _, ?_, ?_⟩
    · rw [apply_onComposer]
      rfl
    · rw [apply_onComposer]
      rfl
  · have hseen :
        ¬ ¬ page.typedRead.sees (onComposer (page.typed message) s).composer.text = true :=
      not_not.2 ((Bool.not_eq_false _).mp hfills)
    rw [if_neg hfills, if_neg hseen]
    exact ⟨_, rfl, rfl, rfl⟩

variable (page message) in
theorem keeps_posted_writeMessage (p : List Text) :
    Effectful.Keeps (fun s => s.posted = p) (writeMessage page message) := by
  have hid : ∀ r : Response, Effectful.Keeps (fun s => s.posted = p) (respond r id) := by
    intro r s hs
    cases r <;> exact hs
  have hread : Effectful.Keeps (fun s => s.posted = p) (boxHasText page.typedRead) := by
    intro s hs
    rw [boxHasText_apply]
    exact hs
  have htype : Effectful.Keeps (fun s => s.posted = p) (typeText page message) := by
    refine (keeps_posted_respond p _ _).bind fun _ => (keeps_posted_respond p _ _).bind fun _ =>
      (keeps_posted_respond p _ _).bind fun _ => Effectful.keeps_forEach fun key _ => ?_
    exact (hid _).bind fun _ => keeps_posted_respond p _ _
  refine htype.bind fun _ => hread.bind fun seen => ?_
  cases seen with
  | true => exact Effectful.keeps_pure ()
  | false => exact keeps_posted_respond p _ _

theorem writeMessage_of_not_writes (h : ¬ page.Writes message s.composer) :
    ∃ e t, writeMessage page message s = (.error e, t) ∧ t.posted = s.posted := by
  have hraises : ∃ e t, writeMessage page message s = (.error e, t) := by
    unfold writeMessage
    by_cases htypes : page.Types message
    · obtain ⟨hfills, hfill⟩ : page.Fills message s.composer ∧ page.fill = .raises := by
        by_contra hother
        exact h ⟨htypes, fun hfills hfill => hother ⟨hfills, hfill⟩⟩
      have hunseen :
          ¬ page.typedRead.sees (onComposer (page.typed message) s).composer.text = true :=
        (Bool.not_eq_true _).mpr hfills
      rw [Effectful.bind_of_ok (typeText_of_types htypes s),
        Effectful.bind_of_ok (boxHasText_apply _ _), if_pos hunseen]
      exact ⟨_, _, respond_of_raises hfill _ _⟩
    · obtain ⟨e, t, htype⟩ := typeText_of_not_types htypes s
      exact ⟨e, t, Effectful.bind_of_error htype⟩
  obtain ⟨e, t, hraises⟩ := hraises
  have hkept := keeps_posted_writeMessage page message s.posted s rfl
  rw [hraises] at hkept
  exact ⟨e, t, hraises, hkept⟩

end Composer

/-! ## The sending -/

section Sending

variable {page : ChatPage} {s : ChatState}

theorem sendMessage_of_sends (h : page.Sends s.composer.text) :
    ∃ r t, sendMessage page s = (r, t) ∧ t.posted = s.posted ++ [s.composer.text] := by
  obtain ⟨hne, hsent⟩ := h
  have hpost := post_of_ne_nil hne
  unfold sendMessage
  rcases hsent with ⟨hbutton, hlands, hsent⟩ | ⟨hbutton, henter⟩
  · rw [Effectful.attempt_bind_of_ok hbutton, if_pos rfl,
      Effectful.bind_of_ok (clickWithDomFallback_of_lands hlands _ s)]
    by_cases heffect : page.send.TakesEffect
    · -- The first click posts; nothing is left that a second one could post.
      rw [if_pos heffect, hpost]
      by_cases hwait : page.confirmWait = .raises
      · exact ⟨_, _, Effectful.bind_of_error (respond_of_raises hwait _ _), rfl⟩
      · rw [Effectful.bind_of_ok (respond_of_ne_raises hwait _ _), apply_id,
          Effectful.bind_of_ok (boxHasText_apply _ _)]
        have hempty : ¬ page.sentRead.sees Composer.empty.text = true := by
          change ¬ page.sentRead.sees [] = true
          rw [sees_nil]
          exact Bool.false_ne_true
        rw [if_neg hempty]
        exact ⟨_, _, rfl, rfl⟩
    · obtain ⟨hwait, hsees, hagain⟩ := hsent.resolve_left heffect
      rw [if_neg heffect, Effectful.bind_of_ok (respond_of_ne_raises hwait _ _), apply_id,
        Effectful.bind_of_ok (boxHasText_apply _ _), if_pos hsees, hagain]
      refine ⟨.ok (), s.post, rfl, ?_⟩
      rw [hpost]
  · rw [Effectful.attempt_bind_of_ok hbutton, if_neg Bool.false_ne_true, henter]
    refine ⟨.ok (), s.post, rfl, ?_⟩
    rw [hpost]

/-- A step that takes effect on a text that is not sent finds nothing to post. -/
theorem apply_post_of_not {r : Response} (h : ¬ (s.composer.text ≠ [] ∧ r = .effect)) :
    r.apply ChatState.post s = s := by
  unfold Response.apply
  split_ifs with heffect
  · exact post_of_eq_nil (not_not.1 fun hne => h ⟨hne, heffect⟩)
  · rfl

theorem ite_post_of_not {p : Prop} [Decidable p] (h : ¬ (s.composer.text ≠ [] ∧ p)) :
    (if p then s.post else s) = s := by
  split_ifs with hp
  · exact post_of_eq_nil (not_not.1 fun hne => h ⟨hne, hp⟩)
  · rfl

theorem sendMessage_of_finishes (h : ¬ page.Sends s.composer.text)
    (hfinishes : page.Finishes s.composer.text) : sendMessage page s = (.ok (), s) := by
  unfold sendMessage
  rcases hfinishes with ⟨hbutton, hlands, hwait, hagain⟩ | ⟨hbutton, henter⟩
  · rw [Effectful.attempt_bind_of_ok hbutton, if_pos rfl,
      Effectful.bind_of_ok (clickWithDomFallback_of_lands hlands _ s),
      ite_post_of_not fun hsent => h ⟨hsent.1, .inl ⟨hbutton, hlands, .inl hsent.2⟩⟩,
      Effectful.bind_of_ok (respond_of_ne_raises hwait _ _), apply_id,
      Effectful.bind_of_ok (boxHasText_apply _ _)]
    by_cases hsees : page.sentRead.sees s.composer.text = true
    · rw [if_pos hsees, respond_of_ne_raises (hagain hsees), apply_post_of_not fun hsent =>
        h ⟨hsent.1, .inl ⟨hbutton, hlands, .inr ⟨hwait, hsees, hsent.2⟩⟩⟩]
    · rw [if_neg hsees]
      rfl
  · rw [Effectful.attempt_bind_of_ok hbutton, if_neg Bool.false_ne_true,
      respond_of_ne_raises henter,
      apply_post_of_not fun hsent => h ⟨hsent.1, .inr ⟨hbutton, hsent.2⟩⟩]

theorem sendMessage_of_not_finishes (h : ¬ page.Sends s.composer.text)
    (hfinishes : ¬ page.Finishes s.composer.text) : ∃ e, sendMessage page s = (.error e, s) := by
  unfold sendMessage
  cases hbutton : page.sendButton with
  | error e => exact ⟨e, Effectful.attempt_bind_of_error rfl⟩
  | ok found =>
      rw [Effectful.attempt_bind_of_ok rfl]
      cases found with
      | true =>
          rw [if_pos rfl]
          by_cases hlands : page.send.Lands
          · rw [Effectful.bind_of_ok (clickWithDomFallback_of_lands hlands _ s),
              ite_post_of_not fun hsent => h ⟨hsent.1, .inl ⟨hbutton, hlands, .inl hsent.2⟩⟩]
            by_cases hwait : page.confirmWait = .raises
            · exact ⟨_, Effectful.bind_of_error (respond_of_raises hwait _ _)⟩
            · obtain ⟨hsees, hagain⟩ :
                  page.sentRead.sees s.composer.text = true ∧ page.sendAgain = .raises := by
                by_contra hother
                exact hfinishes (.inl ⟨hbutton, hlands, hwait,
                  fun hsees hagain => hother ⟨hsees, hagain⟩⟩)
              rw [Effectful.bind_of_ok (respond_of_ne_raises hwait _ _), apply_id,
                Effectful.bind_of_ok (boxHasText_apply _ _), if_pos hsees]
              exact ⟨_, respond_of_raises hagain _ _⟩
          · exact ⟨_, Effectful.bind_of_error (clickWithDomFallback_of_not_lands hlands _ s)⟩
      | false =>
          rw [if_neg Bool.false_ne_true]
          have henter : page.enter = .raises := by
            by_contra henter
            exact hfinishes (.inr ⟨hbutton, henter⟩)
          exact ⟨_, respond_of_raises henter _ _⟩

end Sending

/-! ## The promise -/

section Promise

variable {page : ChatPage} {draft : Composer} {message : Text}

section Run

variable {s t u : ChatState} {e : PageError}

theorem postChatAnnouncement_of_found (hfound : page.openButton = .ok true) (s : ChatState) :
    postChatAnnouncement page message s =
      Effectful.rescue
        (do
          if ← openComposer page then
            writeMessage page message
            sendMessage page
            return true
          else return false : Acting Bool)
        (fun _ => return false) s := by
  unfold postChatAnnouncement
  rw [Effectful.attempt_bind_of_ok hfound]
  rfl

theorem run_of_not_opens (hfound : page.openButton = .ok true) (h : ¬ page.Opens)
    (s : ChatState) : postChatAnnouncement page message s = (.ok false, s) := by
  rw [postChatAnnouncement_of_found hfound]
  rcases openComposer_of_not_opens h s with hopen | hopen
  · exact Effectful.rescue_of_ok (Effectful.bind_of_ok hopen)
  · exact Effectful.rescue_of_error (Effectful.bind_of_error hopen)

theorem run_of_write_error (hfound : page.openButton = .ok true) (hopens : page.Opens)
    (hwrite : writeMessage page message s = (.error e, t)) :
    postChatAnnouncement page message s = (.ok false, t) := by
  rw [postChatAnnouncement_of_found hfound]
  refine Effectful.rescue_of_error (e := e) ?_
  rw [Effectful.bind_of_ok (openComposer_of_opens hopens s)]
  exact Effectful.bind_of_error hwrite

theorem run_of_send_error (hfound : page.openButton = .ok true) (hopens : page.Opens)
    (hwrite : writeMessage page message s = (.ok (), t))
    (hsend : sendMessage page t = (.error e, u)) :
    postChatAnnouncement page message s = (.ok false, u) := by
  rw [postChatAnnouncement_of_found hfound]
  refine Effectful.rescue_of_error (e := e) ?_
  rw [Effectful.bind_of_ok (openComposer_of_opens hopens s)]
  exact (Effectful.bind_of_ok hwrite).trans (Effectful.bind_of_error hsend)

theorem run_of_send_ok (hfound : page.openButton = .ok true) (hopens : page.Opens)
    (hwrite : writeMessage page message s = (.ok (), t))
    (hsend : sendMessage page t = (.ok (), u)) :
    postChatAnnouncement page message s = (.ok true, u) := by
  rw [postChatAnnouncement_of_found hfound]
  refine Effectful.rescue_of_ok ?_
  rw [Effectful.bind_of_ok (openComposer_of_opens hopens s)]
  exact (Effectful.bind_of_ok hwrite).trans (Effectful.bind_of_ok hsend)

end Run

theorem allOrNothing_of_unsent {t : ChatState}
    (h : postChatAnnouncement page message ⟨draft, []⟩ = (.ok false, t)) (ht : t.posted = []) :
    AllOrNothing page draft message := by
  unfold AllOrNothing
  rw [h]
  dsimp only
  rw [ht]
  exact ⟨⟨false, rfl, fun hfalse => absurd hfalse Bool.false_ne_true⟩, Nat.zero_le 1,
    fun text htext => absurd htext List.not_mem_nil⟩

theorem allOrNothing_iff_of_sent {returned : Bool} {t : ChatState} {text : Text}
    (h : postChatAnnouncement page message ⟨draft, []⟩ = (.ok returned, t))
    (ht : t.posted = [text]) : AllOrNothing page draft message ↔ text = message := by
  unfold AllOrNothing
  rw [h]
  dsimp only
  rw [ht]
  constructor
  · rintro ⟨-, -, hposted⟩
    exact hposted text (List.mem_singleton_self text)
  · rintro rfl
    refine ⟨⟨returned, rfl, fun _ => List.cons_ne_nil _ _⟩, Nat.le_refl 1, ?_⟩
    intro posted hposted
    exact List.mem_singleton.1 hposted

theorem allOrNothing_iff_of_writes (hfound : page.openButton = .ok true) (hopens : page.Opens)
    (hwrites : page.Writes message draft) :
    AllOrNothing page draft message ↔
      page.Sends (page.written message draft) ∧ page.written message draft = message ∨
        ¬ page.Sends (page.written message draft) ∧ ¬ page.Finishes (page.written message draft) := by
  obtain ⟨t, hwrite, hposted, htext⟩ := writeMessage_of_writes (s := ⟨draft, []⟩) hwrites
  replace hposted : t.posted = [] := hposted
  replace htext : t.composer.text = page.written message draft := htext
  rw [← htext]
  by_cases hsends : page.Sends t.composer.text
  · obtain ⟨r, u, hsend, hu⟩ := sendMessage_of_sends hsends
    rw [hposted, List.nil_append] at hu
    obtain ⟨returned, hrun⟩ : ∃ returned,
        postChatAnnouncement page message ⟨draft, []⟩ = (.ok returned, u) := by
      cases r with
      | error e => exact ⟨false, run_of_send_error hfound hopens hwrite hsend⟩
      | ok a => exact ⟨true, run_of_send_ok hfound hopens hwrite hsend⟩
    rw [allOrNothing_iff_of_sent hrun hu]
    constructor
    · exact fun hmessage => .inl ⟨hsends, hmessage⟩
    · rintro (⟨-, hmessage⟩ | ⟨hunsent, -⟩)
      · exact hmessage
      · exact absurd hsends hunsent
  · by_cases hfinishes : page.Finishes t.composer.text
    · -- It returns `True`, and nothing is posted.
      have hrun := run_of_send_ok hfound hopens hwrite (sendMessage_of_finishes hsends hfinishes)
      constructor
      · rintro ⟨⟨returned, hreturned, htrue⟩, -⟩
        rw [hrun] at hreturned htrue
        cases hreturned
        exact absurd hposted (htrue rfl)
      · rintro (⟨hsent, -⟩ | ⟨-, hstuck⟩)
        · exact absurd hsent hsends
        · exact absurd hfinishes hstuck
    · obtain ⟨e, hsend⟩ := sendMessage_of_not_finishes hsends hfinishes
      exact iff_of_true
        (allOrNothing_of_unsent (run_of_send_error hfound hopens hwrite hsend) hposted)
        (.inr ⟨hsends, hfinishes⟩)

end Promise

section EmptyComposer

variable {page : ChatPage} {message : Text}

/-- The characters whose keystrokes take effect. -/
def accepted (page : ChatPage) (message : Text) : Text :=
  (message.zipIdx.filter fun key => (page.keys key.2).press = .effect).map Prod.fst

def Composer.Appends (c : Composer) : Prop :=
  c.afterCaret = [] ∧ (c.selected = true → c.beforeCaret = [])

theorem Composer.Appends.insert {c : Composer} (h : c.Appends) (char : Char) :
    (c.insert char).Appends ∧ (c.insert char).text = c.text ++ [char] := by
  obtain ⟨beforeCaret, afterCaret, selected⟩ := c
  obtain ⟨hafter, hselected⟩ := h
  replace hafter : afterCaret = [] := hafter
  subst hafter
  cases selected with
  | false => exact ⟨⟨rfl, fun h => absurd h Bool.false_ne_true⟩, by simp [Composer.insert, text]⟩
  | true =>
      obtain rfl : beforeCaret = [] := hselected rfl
      exact ⟨⟨rfl, fun h => absurd h Bool.false_ne_true⟩, rfl⟩

theorem appends_cleared_empty (page : ChatPage) :
    (page.cleared .empty).Appends ∧ (page.cleared .empty).text = [] := by
  unfold ChatPage.cleared Response.apply
  split_ifs <;> simp [Composer.Appends, Composer.text, Composer.empty, Composer.placeCaret,
    Composer.selectAll, Composer.delete]

theorem text_foldl_insert {c : Composer} (h : c.Appends) (keys : List (Char × ℕ)) :
    (keys.foldl (fun c key => (page.keys key.2).press.apply (.insert key.1) c) c).text =
      c.text ++ (keys.filter fun key => (page.keys key.2).press = .effect).map Prod.fst := by
  induction keys generalizing c with
  | nil => exact (List.append_nil _).symm
  | cons key keys ih =>
      rw [List.foldl_cons]
      by_cases heffect : (page.keys key.2).press = .effect
      · have happly : (page.keys key.2).press.apply (Composer.insert key.1) c =
            c.insert key.1 := if_pos heffect
        obtain ⟨happends, htext⟩ := h.insert key.1
        rw [happly, ih happends, htext, List.filter_cons, if_pos (decide_eq_true heffect),
          List.map_cons, List.append_assoc, List.singleton_append]
      · have happly : (page.keys key.2).press.apply (Composer.insert key.1) c = c :=
          if_neg heffect
        rw [happly, ih h, List.filter_cons, if_neg (mt of_decide_eq_true heffect)]

theorem text_typed_empty : (page.typed message .empty).text = accepted page message := by
  obtain ⟨happends, htext⟩ := appends_cleared_empty page
  rw [ChatPage.typed, text_foldl_insert happends, htext, List.nil_append, accepted]

theorem accepted_eq_iff :
    accepted page message = message ↔
      ∀ key ∈ message.zipIdx, (page.keys key.2).press = .effect := by
  constructor
  · intro h
    have hlength : (message.zipIdx.filter fun key =>
        (page.keys key.2).press = .effect).length = message.zipIdx.length := by
      rw [List.length_zipIdx, ← List.length_map Prod.fst]
      exact congrArg List.length h
    have hall := List.length_filter_eq_length_iff.1 hlength
    intro key hkey
    exact of_decide_eq_true (hall key hkey)
  · intro h
    have hall : (message.zipIdx.filter fun key => (page.keys key.2).press = .effect) =
        message.zipIdx := List.filter_eq_self.2 fun key hkey => decide_eq_true (h key hkey)
    rw [accepted, hall, List.zipIdx_map_fst]

/-- Without a draft the composer holds the message when every keystroke takes effect, or the fill. -/
theorem written_empty_eq_iff :
    page.written message .empty = message ↔
      (∀ key ∈ message.zipIdx, (page.keys key.2).press = .effect) ∨
        page.Fills message .empty ∧ page.fill = .effect := by
  rw [← accepted_eq_iff]
  unfold ChatPage.written
  by_cases hfills : page.Fills message .empty
  · rw [if_pos hfills]
    by_cases hfill : page.fill = .effect
    · have happly : page.fill.apply (Composer.fill message) (page.typed message .empty) =
          ⟨message, [], false⟩ := if_pos hfill
      rw [happly]
      exact iff_of_true (List.append_nil message) (.inr ⟨hfills, hfill⟩)
    · have happly : page.fill.apply (Composer.fill message) (page.typed message .empty) =
          page.typed message .empty := if_neg hfill
      rw [happly, text_typed_empty]
      exact (or_iff_left fun h => hfill h.2).symm
  · rw [if_neg hfills, text_typed_empty]
    exact (or_iff_left fun h => hfills h.1).symm

end EmptyComposer

/-! ## A page that drops keystrokes -/

def landing : ControlClick := ⟨.effect, .effect, .effect⟩

/-- Of the keystrokes only the first takes effect; everything else works. -/
def droppingPage : ChatPage where
  openButton := .ok true
  toggle := landing
  pause := .effect
  messageBox := .ok true
  openButtonStays := .ok false
  toggleAgain := .effect
  messageBoxAgain := .ok true
  fieldClick := .effect
  caret := 0
  selectAll := .effect
  delete := .effect
  keys number := ⟨.effect, if number = 0 then .effect else .ignored⟩
  typedRead := ⟨.effect, .effect⟩
  fill := .effect
  sendButton := .ok true
  send := landing
  confirmWait := .effect
  sentRead := ⟨.effect, .effect⟩
  sendAgain := .effect
  enter := .effect

end Notetaker.ChatAnnouncement
