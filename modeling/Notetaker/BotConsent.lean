import Notetaker.CreateRequest
import Notetaker.MeetStates

/-!
# Consent and identity

`bot/consent.py` without the chat. The bot starts only with an acknowledged consent, and in production a
signed-in bot joins only under the name that tells the participants what it is. The name is read off the
account control of the page.
-/

open PythonText TextRegex

namespace Notetaker

def consentLogger : Text := "oreeai.bot.consent"

/-- `s.strip().lower()`; the texts that it is compared with are ASCII. -/
def folded (s : Text) : Text := (strip s).map Char.toLower

/-- `BOT_NAME_FIXED`. -/
def botNameFixed : Text := "Oree Notetaker"

section Environment

variable (environ : Environ)

def resolveBotName (isPrintable : Char → Bool) : Bot Text := do
  let raw := strip ((environ "BOT_NAME".toList).getD [])
  if raw = [] ∨ raw = botNameFixed then return botNameFixed
  else
    warning consentLogger (concat ["BOT_NAME=", reprText isPrintable raw,
      " is deprecated; the bot name is hard-coded to ", reprText isPrintable botNameFixed,
      " for consent visibility - proceeding with ", reprText isPrintable botNameFixed])
    return botNameFixed

def consentGranted : Bool :=
  folded ((environ "CONSENT_ACK".toList).getD []) ∈ ["1".toList, "true".toList, "yes".toList]

/-- `environment()`. -/
def environmentName : Text :=
  let name := folded ((environ "ENVIRONMENT".toList).getD "local")
  if name = [] then "local" else name

end Environment

/-! ## The signed-in account -/

/-- `_SIGNED_IN_AVATAR`. -/
def signedInAvatar : Locator :=
  .role .button (sequence ["google", plus (.atom .space), "account", spaces, ":", spaces,
    .atom .notSpace])

def signedInIndicator : SelectorQuery := fun page => firstVisible page none [signedInAvatar]

def isSignedIn (page : Page) : Reading (Bool × Text) :=
  noticeState page signedInIndicator "google session active: " "no signed-in session visible"

/-- `_GOOGLE_ACCOUNT_LABEL`. -/
def googleAccountLabel : TextRegex :=
  sequence ["google", plus (.atom .space), "account", spaces, ":", spaces, group (plus (.atom .dot)),
    .stop]

/-- `s[: s.rfind(c)]`, if there is one. -/
def beforeLast (c : Char) (s : Text) : Option Text :=
  if c ∈ s then some (s.reverse.dropWhile (· ≠ c)).tail.reverse else none

def withoutAddress (s : Text) : Text :=
  if s.getLast? = some ')' then ((beforeLast '(' s).map strip).getD s else s

variable (isAlnum : Char → Bool)

def displayName (label : Text) : Option Text := do
  let name ← (search (pythonIgnoreCase isAlnum) googleAccountLabel label).bind (·.captured)
  let rest := withoutAddress (strip name)
  if rest = [] then none else some rest

def accountDisplayName (page : Page) : Reading (Option Text) := do
  match ← signedInIndicator page with
  | none => return none
  | some avatar =>
      let label := (← avatar.ariaLabel).getD []
      return displayName isAlnum (if label ≠ [] then label else safeInnerText avatar)

def verifyConsentIdentity (displayName : Option Text) (environment : Text) : Bot (Option Text) := do
  if displayName = some botNameFixed then return none
  else
    let detail := match displayName with
      | none => concat ["could not determine the signed-in account display name; the consent identity ",
          "must be the dedicated '", botNameFixed, "' account"]
      | some name => concat ["signed in as '", name, "'; the consent identity must be the dedicated '",
          botNameFixed, "' account (run make bot-login with the dedicated account)"]
    if environment = "production".toList then return some detail
    else
      warning consentLogger (concat [detail, " (warning only because ENVIRONMENT=",
        if environment ≠ [] then environment else "local", ")"])
      return none

/-! ## The label of an account -/

section Label

variable {isAlnum : Char → Bool}

/-- `Google Account: Name (address)` -/
def accountLabel (name address : Text) : Text :=
  concat ["Google Account: ", name, " (", address, ")"]

theorem beforeLast_append {c : Char} (before : Text) {after : Text} (h : c ∉ after) :
    beforeLast c (before ++ c :: after) = some before := by
  have hdrop : ((before ++ c :: after).reverse.dropWhile (· ≠ c)) = c :: before.reverse := by
    rw [List.reverse_append, List.reverse_cons, List.append_assoc, List.dropWhile_append_of_pos]
    · rw [List.singleton_append, List.dropWhile_cons_of_neg (by simp)]
    · intro x hx
      have hne : x ≠ c := fun heq => h (heq ▸ List.mem_reverse.1 hx)
      simpa using hne
  rw [beforeLast, if_pos (by simp), hdrop, List.tail_cons, List.reverse_reverse]

theorem withoutAddress_append (name : Text) {address : Text} (h : '(' ∉ address) :
    withoutAddress (name ++ '(' :: (address ++ [')'])) = strip name := by
  have hlast : (name ++ '(' :: (address ++ [')'])).getLast? = some ')' := by
    rw [← List.cons_append, ← List.append_assoc, List.getLast?_concat]
  have hafter : '(' ∉ address ++ [')'] := by simp [h]
  rw [withoutAddress, if_pos hlast, beforeLast_append name hafter]
  rfl

theorem lstrip_append_cons (s : Text) {c : Char} (hc : isSpace c = false) (t : Text) :
    lstrip (s ++ c :: t) = lstrip s ++ c :: t := by
  unfold lstrip
  induction s with
  | nil => exact List.dropWhile_cons_of_neg (by simp [hc])
  | cons x s ih =>
      rw [List.cons_append, List.dropWhile_cons, List.dropWhile_cons]
      split_ifs
      · exact ih
      · rfl

theorem strip_lstrip_append_space (s : Text) : strip (lstrip (s ++ [' '])) = strip s := by
  have hlstrip : lstrip (lstrip (s ++ [' '])) = lstrip (s ++ [' ']) :=
    List.dropWhile_idempotent _ _
  rw [strip, hlstrip, strip]
  by_cases h : ∀ c ∈ s, isSpace c
  · have hall : ∀ c ∈ s ++ [' '], isSpace c := by
      intro c hc
      rcases List.mem_append.1 hc with hc | hc
      · exact h c hc
      · rw [List.mem_singleton.1 hc]
        rfl
    rw [lstrip, lstrip, List.dropWhile_eq_nil_iff.2 hall, List.dropWhile_eq_nil_iff.2 h]
  · have hlast : lstrip (s ++ [' ']) = lstrip s ++ [' '] := by
      unfold lstrip
      rw [List.dropWhile_append, if_neg]
      rw [List.isEmpty_iff, List.dropWhile_eq_nil_iff]
      exact h
    rw [hlast]
    exact List.rdropWhile_concat_pos _ _ _ rfl

/-- What the group captures of a label, behind the spaces. -/
def labelled (name address : Text) : Text :=
  lstrip (name ++ [' ']) ++ '(' :: (address ++ [')'])

theorem accountLabel_eq (name address : Text) : accountLabel name address =
    "Google".toList ++ (" ".toList ++ ("Account".toList ++ (":".toList ++
      (' ' :: (name ++ [' ']).takeWhile isSpace ++ labelled name address)))) := by
  have hsplit : ' ' :: (name ++ [' ']).takeWhile isSpace ++ labelled name address =
      ' ' :: (name ++ [' '] ++ '(' :: (address ++ [')'])) := by
    rw [labelled, List.cons_append, ← List.append_assoc, lstrip, List.takeWhile_append_dropWhile]
  rw [hsplit]
  simp [accountLabel, concat]

theorem strip_labelled (name address : Text) : strip (labelled name address) = labelled name address := by
  have hlstrip : lstrip (labelled name address) = labelled name address := by
    rw [labelled, lstrip_append_cons _ rfl]
    congr 1
    exact List.dropWhile_idempotent _ _
  have hlast : labelled name address = lstrip (name ++ [' ']) ++ '(' :: address ++ [')'] := by
    simp [labelled]
  rw [strip, hlstrip, hlast, rstrip_append_singleton _ rfl]

theorem not_isSpace_head?_labelled (name address : Text) :
    ∀ x ∈ (labelled name address).head?, isSpace x = false := by
  unfold labelled lstrip
  cases hdrop : (name ++ [' ']).dropWhile isSpace with
  | nil =>
      rintro x ⟨⟩
      rfl
  | cons c cs =>
      rintro x ⟨⟩
      have hhead := List.head_dropWhile_not isSpace (by rw [hdrop]; exact List.cons_ne_nil c cs)
      simpa [hdrop] using hhead

theorem head?_ends_name {name address : Text} (hname : '\n' ∉ name) (haddress : '\n' ∉ address)
    (previous : Option Char) :
    ∃ e, ((seq (group (plus (.atom .dot))) stop).ends (pythonIgnoreCase isAlnum)
      ⟨previous, labelled name address, none⟩).head? = some e ∧
        e.captured = some (labelled name address) := by
  have hline : ∀ x ∈ labelled name address, (pythonIgnoreCase isAlnum).accepts .dot x := by
    intro x hx
    have hne : x ≠ '\n' := by
      rintro rfl
      have hsub : '\n' ∈ name ++ [' '] ∨ '\n' ∈ '(' :: (address ++ [')']) :=
        (List.mem_append.1 hx).imp_left fun h => (List.dropWhile_sublist isSpace).subset h
      simp [hname, haddress] at hsub
    exact decide_eq_true hne
  have hnone : ∀ x ∈ ([] : Text).head?, (pythonIgnoreCase isAlnum).accepts .dot x = false := nofun
  obtain ⟨dots, hdots⟩ := ends_plus_atom (by simp [labelled]) hline hnone previous none
  obtain ⟨groups, hgroup⟩ := ends_group_of_cons hdots
  rw [List.append_nil] at hgroup
  exact ⟨_, head?_ends_seq hgroup rfl, rfl⟩

theorem search_googleAccountLabel {name address : Text} (hname : '\n' ∉ name)
    (haddress : '\n' ∉ address) : ∃ e, search (pythonIgnoreCase isAlnum) googleAccountLabel
      (accountLabel name address) = some e ∧ e.captured = some (labelled name address) := by
  have hspaces : ∀ x ∈ ' ' :: (name ++ [' ']).takeWhile isSpace,
      (pythonIgnoreCase isAlnum).accepts .space x := by
    intro x hx
    rcases List.mem_cons.1 hx with rfl | hx
    · rfl
    · exact List.mem_takeWhile_imp hx
  have hone : ∀ x ∈ " ".toList, (pythonIgnoreCase isAlnum).accepts .space x :=
    fun x hx => by rw [List.mem_singleton.1 hx]; rfl
  have hword : ∀ cs w : Text, List.Forall₂ (fun c x => pythonSameLetter c x) cs w →
      ∀ rest p, (literal cs).ends (pythonIgnoreCase isAlnum) ⟨p, w ++ rest, none⟩ =
        [⟨w.getLast?.or p, rest, none⟩] := fun cs w h rest p => ends_literal_of_forall₂ h rest p none
  have hcolon : ∀ rest : Text, ∀ x ∈ (":".toList ++ rest).head?,
      (pythonIgnoreCase isAlnum).accepts .space x = false := by
    rintro rest x ⟨⟩
    rfl
  have hletter : ∀ rest : Text, ∀ x ∈ ("Account".toList ++ rest).head?,
      (pythonIgnoreCase isAlnum).accepts .space x = false := by
    rintro rest x ⟨⟩
    rfl
  obtain ⟨e, he, hcaptured⟩ := head?_ends_name hname haddress
    ((' ' :: (name ++ [' ']).takeWhile isSpace).getLast?.or (some ':'))
  refine ⟨e, searchFrom_of_ends ?_, hcaptured⟩
  rw [accountLabel_eq]
  change ((seq _ (seq _ (seq _ (seq _ (seq _ (seq _ (seq _ _))))))).ends _ _).head? = _
  obtain ⟨first, hfirst⟩ := ends_plus_atom (by simp) hone (hletter _) (some 'e') none
  obtain ⟨spaces, hspaces⟩ := ends_star_atom hspaces (not_isSpace_head?_labelled name address)
    (some ':') none
  refine head?_ends_seq (hword _ _ (by decide) _ none) (head?_ends_seq hfirst ?_)
  refine head?_ends_seq (hword _ _ (by decide) _ _) ?_
  refine head?_ends_seq (ends_star_atom_of_not (hcolon _)) ?_
  refine head?_ends_seq (hword _ _ (by decide) _ _) ?_
  exact head?_ends_seq hspaces he

theorem displayName_accountLabel {name address : Text} (hname : '\n' ∉ name)
    (haddress : '\n' ∉ address) (hbracket : '(' ∉ address) :
    displayName isAlnum (accountLabel name address) =
      if strip name = [] then none else some (strip name) := by
  obtain ⟨e, hsearch, hcaptured⟩ := search_googleAccountLabel hname haddress
  have hrest : withoutAddress (strip (labelled name address)) = strip name := by
    rw [strip_labelled, labelled, withoutAddress_append _ hbracket, strip_lstrip_append_space]
  unfold displayName
  rw [hsearch, Option.bind_some, hcaptured]
  change (if withoutAddress (strip (labelled name address)) = [] then none else _) = _
  rw [hrest]

theorem result_verifyConsentIdentity (name : Option Text) (environment : Text) :
    (verifyConsentIdentity name environment).result = .ok none ↔
      name = some botNameFixed ∨ environment ≠ "production".toList := by
  unfold verifyConsentIdentity
  by_cases hname : name = some botNameFixed
  · rw [if_pos hname]
    exact iff_of_true rfl (.inl hname)
  · rw [if_neg hname]
    by_cases henvironment : environment = "production".toList
    · rw [if_pos henvironment]
      refine iff_of_false nofun ?_
      rintro (h | h)
      · exact hname h
      · exact h henvironment
    · rw [if_neg henvironment]
      exact iff_of_true rfl (.inr henvironment)

/-- The account control as the page shows it: the label is its accessible name or else its text. -/
def ShowsAccount (page : Page) (label : Text) : Prop :=
  ∃ avatar, signedInIndicator page = .ok (some avatar) ∧
    (avatar.ariaLabel = .ok (some label) ∨
      (avatar.ariaLabel = .ok none ∨ avatar.ariaLabel = .ok (some [])) ∧ avatar.innerText = .ok label)

theorem accountDisplayName_of_showsAccount {page : Page} {label : Text} (h : ShowsAccount page label)
    (hne : label ≠ []) : accountDisplayName isAlnum page = .ok (displayName isAlnum label) := by
  obtain ⟨avatar, havatar, hlabel⟩ := h
  have hread : ∀ aria, avatar.ariaLabel = .ok aria → accountDisplayName isAlnum page =
      .ok (displayName isAlnum (if aria.getD [] ≠ [] then aria.getD [] else safeInnerText avatar)) := by
    intro aria haria
    unfold accountDisplayName
    rw [havatar]
    change (do return displayName isAlnum (if (← avatar.ariaLabel).getD [] ≠ [] then _ else _)) = _
    rw [haria]
    rfl
  rcases hlabel with hlabel | ⟨hempty, htext⟩
  · rw [hread _ hlabel, Option.getD_some, if_pos hne]
  · have hshown : safeInnerText avatar = label := by
      unfold safeInnerText
      rw [htext]
    rcases hempty with hempty | hempty
    · rw [hread _ hempty, Option.getD_none, if_neg (not_not.2 rfl), hshown]
    · rw [hread _ hempty, Option.getD_some, if_neg (not_not.2 rfl), hshown]

end Label

/-- In production a signed-in bot passes exactly under its own name, whatever the address and the
spaces of the label are; elsewhere under any name. -/
theorem verifyConsentIdentity_label (isAlnum : Char → Bool) {page : Page} {name address : Text}
    (hpage : ShowsAccount page (accountLabel name address)) (hname : '\n' ∉ name) (haddress : '\n' ∉ address)
    (hbracket : '(' ∉ address) : ∃ shown, accountDisplayName isAlnum page = .ok shown ∧
      ∀ environment, (verifyConsentIdentity shown environment).result = .ok none ↔
        strip name = botNameFixed ∨ environment ≠ "production".toList := by
  have hne : accountLabel name address ≠ [] := concat_ne_nil (by decide) _
  refine ⟨_, accountDisplayName_of_showsAccount hpage hne, fun environment => ?_⟩
  have hshown : displayName isAlnum (accountLabel name address) = some botNameFixed ↔
      strip name = botNameFixed := by
    rw [displayName_accountLabel hname haddress hbracket]
    by_cases hblank : strip name = []
    · rw [if_pos hblank, hblank]
      exact iff_of_false nofun (by decide)
    · rw [if_neg hblank, Option.some_inj]
  rw [result_verifyConsentIdentity, hshown]

def accountPage (label : Text) : Page where
  query _ _ := .ok [⟨.ok true, .ok none, .ok label⟩]

theorem verifyConsentIdentity_label_accountPage :
    ∃ shown, accountDisplayName (fun _ => false)
        (accountPage (accountLabel " Oree Notetaker " "bot@example.org")) = .ok shown ∧
      (verifyConsentIdentity shown "production").result = .ok none := by
  have hpage : ShowsAccount (accountPage (accountLabel " Oree Notetaker " "bot@example.org"))
      (accountLabel " Oree Notetaker " "bot@example.org") := ⟨_, rfl, .inr ⟨.inl rfl, rfl⟩⟩
  obtain ⟨shown, hshown, hverified⟩ := verifyConsentIdentity_label (fun _ => false) hpage
    (by decide) (by decide) (by decide)
  exact ⟨shown, hshown, (hverified _).2 (.inl (by decide))⟩

end Notetaker
