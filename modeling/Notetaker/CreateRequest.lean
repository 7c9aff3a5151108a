import Notetaker.CallService
import Notetaker.JsonText
import Notetaker.RegexSpans

/-!
# The create request

`schemas/call.py`. The fields of the body are validated in their order, and the validators of the whole
model run when no field has an error. Of the errors of a body, the API reports the first whose code is
part of the contract, and else all of them.

What pydantic makes of a boolean, a URL and an identifier are parameters, with error codes of its own.
-/

open PythonText PythonUuid JsonText

namespace TextRegex

/-- The end that `fullmatch` reports. -/
def fullMatch (d : Dialect) (r : TextRegex) (s : Text) : Option Cursor :=
  (r.ends d ⟨none, s, none⟩).find? fun e => e.rest = []

/-- `r{n}` -/
def exactly (n : ℕ) (r : TextRegex) : TextRegex := TextRegex.sequence (List.replicate n r)

variable {d : Dialect}

theorem isSome_fullMatch_iff {r : TextRegex} {s : Text} :
    (fullMatch d r s).isSome ↔ ∃ e ∈ r.ends d ⟨none, s, none⟩, e.rest = [] := by
  rw [fullMatch, List.find?_isSome]
  simp

theorem spans_of_isSome_fullMatch {r : TextRegex} {s : Text} (h : (fullMatch d r s).isSome) :
    Spans d r none s [] := by
  obtain ⟨e, he, hrest⟩ := isSome_fullMatch_iff.1 h
  obtain ⟨w, hw, -, hspans⟩ := endsBehind_of_mem he
  rw [hrest, List.append_nil] at hw
  rw [hrest, ← hw] at hspans
  exact hspans

theorem exactly_succ_succ (n : ℕ) (r : TextRegex) :
    exactly (n + 2) r = seq r (exactly (n + 1) r) := rfl

theorem spans_exactly_atom {a : Atom} {n : ℕ} {p : Option Char} {w t : Text}
    (h : Spans d (exactly n (atom a)) p w t) : w.length = n ∧ ∀ x ∈ w, d.accepts a x := by
  induction n generalizing p w with
  | zero =>
      obtain rfl : w = [] := h
      simp
  | succ n ih =>
      cases n with
      | zero =>
          obtain ⟨x, rfl, hx⟩ := h
          simp [hx]
      | succ n =>
          rw [exactly_succ_succ] at h
          obtain ⟨u, v, rfl, ⟨x, rfl, hx⟩, hv⟩ := h
          obtain ⟨hlength, hall⟩ := ih hv
          exact ⟨by simp [hlength], List.forall_mem_cons.2 ⟨hx, hall⟩⟩

theorem ends_exactly_atom {a : Atom} {n : ℕ} {w : Text} (hlength : w.length = n)
    (hw : ∀ x ∈ w, d.accepts a x) (p : Option Char) (t : Text) (captured : Option Text) :
    (exactly n (atom a)).ends d ⟨p, w ++ t, captured⟩ = [⟨w.getLast?.or p, t, captured⟩] := by
  induction n generalizing p w with
  | zero =>
      obtain rfl := List.length_eq_zero_iff.1 hlength
      rfl
  | succ n ih =>
      cases w with
      | nil => cases hlength
      | cons x w =>
          obtain ⟨hx, hw⟩ := List.forall_mem_cons.1 hw
          have hrest : w.length = n := Nat.succ.inj hlength
          cases n with
          | zero =>
              obtain rfl := List.length_eq_zero_iff.1 hrest
              exact ends_atom_of_accepts hx p t captured
          | succ n =>
              rw [exactly_succ_succ, ends_seq, List.cons_append, ends_atom_of_accepts hx,
                List.flatMap_singleton, ih hrest hw, getLast?_cons_or]

theorem ends_star_atom {a : Atom} {w rest : Text} (hw : ∀ x ∈ w, d.accepts a x)
    (hrest : ∀ x ∈ rest.head?, d.accepts a x = false) (previous : Option Char)
    (captured : Option Text) :
    ∃ cursors, (star (atom a)).ends d ⟨previous, w ++ rest, captured⟩ =
      ⟨w.getLast?.or previous, rest, captured⟩ :: cursors := by
  rw [ends_star]
  change ∃ cursors, starFrom _ (w ++ rest).length _ = _
  induction w generalizing previous with
  | nil => exact ⟨[], ends_star_atom_of_not (c := ⟨previous, rest, captured⟩) hrest⟩
  | cons x w ih =>
      obtain ⟨hx, hw⟩ := List.forall_mem_cons.1 hw
      obtain ⟨cursors, hcursors⟩ := ih hw (some x)
      have hround : ((atom a).ends d ⟨previous, x :: (w ++ rest), captured⟩).filter
          (·.rest.length < (x :: (w ++ rest)).length) = [⟨some x, w ++ rest, captured⟩] := by
        rw [ends_atom_of_accepts hx]
        simp
      refine ⟨cursors ++ [⟨previous, x :: (w ++ rest), captured⟩], ?_⟩
      rw [List.cons_append, List.length_cons, starFrom_succ]
      dsimp only
      rw [hround, List.flatMap_singleton, hcursors, getLast?_cons_or, List.cons_append]

theorem head?_ends_seq {r s : TextRegex} {c e f : Cursor} {cursors : List Cursor}
    (hr : r.ends d c = e :: cursors) (hs : (s.ends d e).head? = some f) :
    ((seq r s).ends d c).head? = some f := by
  rw [ends_seq]
  exact head?_flatMap_of_cons hr hs

theorem ends_plus_atom {a : Atom} {w rest : Text} (hne : w ≠ []) (hw : ∀ x ∈ w, d.accepts a x)
    (hrest : ∀ x ∈ rest.head?, d.accepts a x = false) (previous : Option Char)
    (captured : Option Text) :
    ∃ cursors, (plus (atom a)).ends d ⟨previous, w ++ rest, captured⟩ =
      ⟨w.getLast?.or previous, rest, captured⟩ :: cursors := by
  obtain ⟨x, w, rfl⟩ := List.exists_cons_of_ne_nil hne
  obtain ⟨hx, hw⟩ := List.forall_mem_cons.1 hw
  obtain ⟨cursors, hcursors⟩ := ends_star_atom hw hrest (some x) captured
  refine ⟨cursors, ?_⟩
  rw [plus, ends_seq, List.cons_append, ends_atom_of_accepts hx, List.flatMap_singleton, hcursors,
    getLast?_cons_or]

theorem mem_ends_star_atom {a : Atom} {w : Text} (hw : ∀ x ∈ w, d.accepts a x) (p : Option Char)
    (captured : Option Text) :
    ⟨w.getLast?.or p, [], captured⟩ ∈ (star (atom a)).ends d ⟨p, w, captured⟩ := by
  have hnone : ∀ x ∈ ([] : Text).head?, d.accepts a x = false := nofun
  obtain ⟨cursors, hcursors⟩ := ends_star_atom hw hnone p captured
  rw [List.append_nil] at hcursors
  rw [hcursors]
  exact List.mem_cons_self

end TextRegex

open TextRegex

namespace Notetaker

/-! ## The URL of a meeting -/

/-- `[a-z]` -/
def lowercaseLetter : TextRegex := .atom (.oneOf "abcdefghijklmnopqrstuvwxyz")

/-- `MEETING_URL_PATTERN`. -/
def meetingUrlPattern : TextRegex :=
  .sequence [.start, "https://meet.google.com/",
    .exactly 3 lowercaseLetter, "-", .exactly 4 lowercaseLetter, "-", .exactly 3 lowercaseLetter,
    .optional (.group (.seq "?" .anything)), .stop]

/-- No part of the pattern asks for the characters of words. -/
def meetingUrlMatches (s : Text) : Bool :=
  (meetingUrlPattern.fullMatch (pythonRegex fun _ => false) s).isSome

/-- Three groups of letters, and perhaps a query on the same line. -/
def IsMeetUrl (s : Text) : Prop :=
  ∃ a b c query : Text, s = "https://meet.google.com/".toList ++
      (a ++ '-' :: (b ++ '-' :: (c ++ query))) ∧
    (a.length = 3 ∧ b.length = 4 ∧ c.length = 3) ∧
    (∀ x ∈ a ++ b ++ c, x.isLower) ∧
    (query = [] ∨ ∃ rest, query = '?' :: rest ∧ '\n' ∉ rest)

theorem accepts_lowercaseLetter_iff {x : Char} :
    (pythonRegex fun _ => false).accepts (.oneOf "abcdefghijklmnopqrstuvwxyz".toList) x ↔
      x.isLower := by
  change ("abcdefghijklmnopqrstuvwxyz".toList.any fun c => c = x) = true ↔ _
  constructor
  · intro h
    obtain ⟨c, hc, heq⟩ := List.any_eq_true.1 h
    obtain rfl := of_decide_eq_true heq
    have hall : ∀ c ∈ "abcdefghijklmnopqrstuvwxyz".toList, c.isLower := forall_mem_of_all (by decide)
    exact hall c hc
  · intro h
    have hcode : 97 ≤ x.toNat ∧ x.toNat ≤ 122 := by
      replace h : (decide (x.val ≥ 97) && decide (x.val ≤ 122)) = true := h
      simpa [UInt32.le_iff_toNat_le] using h
    have hall : ∀ k < 26, ("abcdefghijklmnopqrstuvwxyz".toList.any fun c =>
        c = Char.ofNat (97 + k)) = true := by decide
    have hx := hall (x.toNat - 97) (by omega)
    rwa [show 97 + (x.toNat - 97) = x.toNat by omega, Char.ofNat_toNat] at hx

theorem meetingUrlMatches_iff (s : Text) : meetingUrlMatches s ↔ IsMeetUrl s := by
  have hexact := exact_pythonRegex fun _ => false
  have hletters : ∀ {n p w t}, Spans (pythonRegex fun _ => false) (exactly n lowercaseLetter) p w t →
      w.length = n ∧ ∀ x ∈ w, x.isLower := by
    intro n p w t h
    obtain ⟨hlength, hall⟩ := spans_exactly_atom h
    exact ⟨hlength, fun x hx => accepts_lowercaseLetter_iff.1 (hall x hx)⟩
  constructor
  · intro h
    obtain ⟨_, _, rfl, ⟨rfl, -⟩, hspans⟩ := spans_of_isSome_fullMatch h
    obtain ⟨host, _, rfl, hhost, a, _, rfl, ha, dash, _, rfl, hdash, b, _, rfl, hb, dash', _, rfl,
      hdash', c, _, rfl, hc, query, _, rfl, hquery, rfl, -⟩ := hspans
    obtain rfl := eq_of_spans_literal hexact hhost
    obtain rfl := eq_of_spans_literal hexact hdash
    obtain rfl := eq_of_spans_literal hexact hdash'
    obtain ⟨halen, hall⟩ := hletters ha
    obtain ⟨hblen, hbll⟩ := hletters hb
    obtain ⟨hclen, hcll⟩ := hletters hc
    refine ⟨a, b, c, query, by simp, ⟨halen, hblen, hclen⟩, ?_, ?_⟩
    · simp only [List.mem_append]
      rintro x ((hx | hx) | hx)
      · exact hall x hx
      · exact hbll x hx
      · exact hcll x hx
    · rcases hquery with ⟨mark, rest, rfl, hmark, hrest⟩ | hempty
      · obtain rfl := eq_of_spans_literal hexact hmark
        refine .inr ⟨rest, rfl, fun hnewline => ?_⟩
        have haccepts := forall_of_spans_star_atom hrest _ hnewline
        exact absurd haccepts (by decide)
      · exact .inl hempty
  · rintro ⟨a, b, c, query, rfl, ⟨ha, hb, hc⟩, hlower, hquery⟩
    have haccepts : ∀ x ∈ a ++ b ++ c, (pythonRegex fun _ => false).accepts
        (.oneOf "abcdefghijklmnopqrstuvwxyz".toList) x :=
      fun x hx => accepts_lowercaseLetter_iff.2 (hlower x hx)
    simp only [List.mem_append] at haccepts
    apply isSome_fullMatch_iff.2
    have hstop : ∀ p captured, (stop.ends (pythonRegex fun _ => false) ⟨p, [], captured⟩) =
        [⟨p, [], captured⟩] := fun p captured => rfl
    have hend : ∀ p, ∃ e ∈ (seq (optional (group (seq (literal ['?']) anything))) stop).ends
        (pythonRegex fun _ => false) ⟨p, query, none⟩, e.rest = [] := by
      intro p
      rw [ends_seq, ends_optional]
      rcases hquery with rfl | ⟨rest, rfl, hline⟩
      · exact ⟨⟨p, [], none⟩, List.mem_flatMap.2 ⟨⟨p, [], none⟩, by simp, by simp [hstop]⟩, rfl⟩
      · have hdot : ∀ x ∈ rest, (pythonRegex fun _ => false).accepts .dot x := fun x hx =>
          decide_eq_true fun heq => hline (heq ▸ hx)
        have hany := mem_ends_star_atom hdot (some '?') none
        have hmark : (seq (literal ['?']) anything).ends (pythonRegex fun _ => false)
            ⟨p, '?' :: rest, none⟩ = anything.ends (pythonRegex fun _ => false)
              ⟨some '?', rest, none⟩ := by
          rw [ends_seq, literal_singleton, ends_char hexact, if_pos rfl, List.flatMap_singleton]
        obtain ⟨e, he, hrest⟩ : ∃ e ∈ (group (seq (literal ['?']) anything)).ends
            (pythonRegex fun _ => false) ⟨p, '?' :: rest, none⟩, e.rest = [] := by
          rw [ends_group, hmark]
          exact ⟨_, List.mem_map_of_mem hany, rfl⟩
        obtain ⟨q, _, captured⟩ := e
        obtain rfl : _ = [] := hrest
        refine ⟨⟨q, [], captured⟩, List.mem_flatMap.2 ⟨_, List.mem_append_left _ he, ?_⟩, rfl⟩
        rw [hstop]
        exact List.mem_singleton_self _
    obtain ⟨e, he, hrest⟩ := hend (c.getLast?.or (some '-'))
    refine ⟨e, ?_, hrest⟩
    have hdash : ∀ p t, (literal "-".toList).ends (pythonRegex fun _ => false) ⟨p, '-' :: t, none⟩ =
        [⟨some '-', t, none⟩] := fun p t => ends_literal hexact ['-'] t p none
    unfold meetingUrlPattern lowercaseLetter
    simp only [TextRegex.sequence]
    rw [ends_seq, ends_start, if_pos rfl, List.flatMap_singleton, ends_seq, ends_literal hexact,
      List.flatMap_singleton, ends_seq, ends_exactly_atom ha fun x hx => haccepts x (.inl (.inl hx)),
      List.flatMap_singleton, ends_seq, hdash, List.flatMap_singleton, ends_seq,
      ends_exactly_atom hb fun x hx => haccepts x (.inl (.inr hx)), List.flatMap_singleton, ends_seq,
      hdash, List.flatMap_singleton, ends_seq,
      ends_exactly_atom hc fun x hx => haccepts x (.inr hx), List.flatMap_singleton]
    exact he

/-! ## Errors -/

structure FieldError where
  loc : List Text
  code : Text
  deriving DecidableEq

/-- `CONTRACT_VALIDATION_CODES`. -/
def contractValidationCodes : List Text := ["consent_missing", "invalid_meeting_url"]

/-- `MIN_WEBHOOK_SECRET_LENGTH`. -/
def minWebhookSecretLength : ℕ := 16

/-- The values that pydantic reads, or the code of its error. -/
structure Coercions where
  bool : Json → Except Text Bool
  httpUrl : Text → Except Text Text
  uuid : Text → Option Uuid
  bool_code : ∀ v code, bool v = .error code → code ∉ contractValidationCodes
  httpUrl_code : ∀ s code, httpUrl s = .error code → code ∉ contractValidationCodes

/-! ## Fields -/

namespace CallCreate

def fieldError (name code : Text) : FieldError := ⟨[name], code⟩

/-- A required `str`. -/
def requiredText (name : Text) (members : List (Text × Json)) : Except FieldError Text :=
  match members.lookup name with
  | none => .error (fieldError name "missing")
  | some (.str s) => .ok s
  | some _ => .error (fieldError name "string_type")

/-- `Field(min_length=n)`. -/
def minLength (name : Text) (n : ℕ) (s : Text) : Except FieldError Text :=
  if s.length < n then .error (fieldError name "string_too_short") else .ok s

/-- `_validate_meeting_url`. -/
def validateMeetingUrl (s : Text) : Except FieldError Text :=
  if meetingUrlMatches s then .ok s else .error (fieldError "meeting_url" "invalid_meeting_url")

section Fields

variable (coercions : Coercions) (members : List (Text × Json))

def meetingUrlField : Except FieldError Text := do
  validateMeetingUrl (← requiredText "meeting_url" members)

def userRefField : Except FieldError Text := do
  minLength "user_ref" 1 (← requiredText "user_ref" members)

def consentAckField : Except FieldError Bool :=
  match members.lookup "consent_ack".toList with
  | none => .ok false
  | some v => (coercions.bool v).mapError (fieldError "consent_ack")

def webhookUrlField : Except FieldError Text :=
  match members.lookup "webhook_url".toList with
  | none => .error (fieldError "webhook_url" "missing")
  | some (.str s) => (coercions.httpUrl s).mapError (fieldError "webhook_url")
  | some _ => .error (fieldError "webhook_url" "url_type")

def webhookSecretField : Except FieldError Text := do
  minLength "webhook_secret" minWebhookSecretLength (← requiredText "webhook_secret" members)

def platformField : Except FieldError (Option CallPlatform) :=
  match members.lookup "platform".toList with
  | none | some .null => .ok none
  | some (.str s) =>
      if s = "google_meet".toList then .ok (some .googleMeet) else .error (fieldError "platform" "enum")
  | some _ => .error (fieldError "platform" "enum")

/-- `_require_consent`. -/
def requireConsent (data : CallCreate) : Except FieldError CallCreate :=
  if data.consentAck then .ok data else .error ⟨[], "consent_missing"⟩

/-- `_derive_platform`. -/
def derivePlatform (data : CallCreate) : Except FieldError CallCreate :=
  match data.platform with
  | none => .ok { data with platform := some .googleMeet }
  | some platform =>
      if platform ≠ .googleMeet then .error ⟨[], "invalid_meeting_url"⟩ else .ok data

def errorOf {α : Type} : Except FieldError α → List FieldError
  | .error e => [e]
  | .ok _ => []

def fieldErrors : List FieldError :=
  errorOf (meetingUrlField members) ++ errorOf (userRefField members) ++
    errorOf (consentAckField coercions members) ++ errorOf (webhookUrlField coercions members) ++
    errorOf (webhookSecretField members) ++ errorOf (platformField members)

def fieldsOf : Except FieldError CallCreate := do
  return {
    meetingUrl := ← meetingUrlField members
    userRef := ← userRefField members
    consentAck := ← consentAckField coercions members
    webhookUrl := ← webhookUrlField coercions members
    webhookSecret := ← webhookSecretField members
    platform := ← platformField members }

/-- `CallCreate.model_validate` of a body. -/
def validate (body : Json) : Except (List FieldError) CallCreate :=
  match body with
  | .obj members =>
      match fieldsOf coercions members with
      | .error _ => .error (fieldErrors coercions members)
      | .ok data => (requireConsent data >>= derivePlatform).mapError fun e => [e]
  | _ => .error [⟨[], "model_attributes_type"⟩]

end Fields

end CallCreate

/-- The first error that the contract names. -/
def contractCode (errors : List FieldError) : Option Text :=
  (errors.map FieldError.code).find? fun code => code ∈ contractValidationCodes

/-! ## What is accepted -/

namespace CallCreate

/-- Each field of the body is valid and has been read into the data. -/
structure Reads (coercions : Coercions) (members : List (Text × Json)) (data : CallCreate) : Prop where
  meetingUrl : members.lookup "meeting_url".toList = some (.str data.meetingUrl)
  isMeetUrl : IsMeetUrl data.meetingUrl
  userRef : members.lookup "user_ref".toList = some (.str data.userRef)
  userRef_ne_nil : data.userRef ≠ []
  consentAck : (members.lookup "consent_ack".toList = none ∧ data.consentAck = false) ∨
    ∃ v, members.lookup "consent_ack".toList = some v ∧ coercions.bool v = .ok data.consentAck
  webhookUrl : ∃ s, members.lookup "webhook_url".toList = some (.str s) ∧
    coercions.httpUrl s = .ok data.webhookUrl
  webhookSecret : members.lookup "webhook_secret".toList = some (.str data.webhookSecret)
  secret_length : minWebhookSecretLength ≤ data.webhookSecret.length
  platform : ((members.lookup "platform".toList = none ∨
      members.lookup "platform".toList = some .null) ∧ data.platform = none) ∨
    (members.lookup "platform".toList = some (.str "google_meet".toList) ∧
      data.platform = some .googleMeet)

section Fields

variable {coercions : Coercions} {members : List (Text × Json)}

theorem requiredText_eq_ok_iff {name : Text} {s : Text} :
    requiredText name members = .ok s ↔ members.lookup name = some (.str s) := by
  unfold requiredText
  cases members.lookup name with
  | none => simp
  | some v => cases v <;> simp

theorem meetingUrlField_eq_ok_iff {s : Text} : meetingUrlField members = .ok s ↔
    members.lookup "meeting_url".toList = some (.str s) ∧ IsMeetUrl s := by
  rw [← requiredText_eq_ok_iff, ← meetingUrlMatches_iff]
  unfold meetingUrlField
  cases requiredText "meeting_url" members with
  | error e => simp [bind, Except.bind]
  | ok s' =>
      change validateMeetingUrl s' = _ ↔ _
      unfold validateMeetingUrl
      split_ifs with hmatch
      · constructor
        · rintro ⟨⟩
          exact ⟨rfl, hmatch⟩
        · exact fun h => h.1
      · constructor
        · intro h
          cases h
        · rintro ⟨⟨⟩, hs⟩
          exact absurd hs hmatch

theorem minLength_eq_ok_iff {name : Text} {n : ℕ} {s : Text} :
    (requiredText name members >>= minLength name n) = .ok s ↔
      members.lookup name = some (.str s) ∧ n ≤ s.length := by
  rw [← requiredText_eq_ok_iff]
  cases requiredText name members with
  | error e => simp [bind, Except.bind]
  | ok s' =>
      change minLength name n s' = _ ↔ _
      unfold minLength
      split_ifs with hshort
      · constructor
        · intro h
          cases h
        · rintro ⟨⟨⟩, hlength⟩
          omega
      · constructor
        · rintro ⟨⟩
          exact ⟨rfl, not_lt.1 hshort⟩
        · exact fun h => h.1

theorem bind_eq_ok_iff {ε α β : Type} {x : Except ε α} {f : α → Except ε β} {b : β} :
    (x >>= f) = .ok b ↔ ∃ a, x = .ok a ∧ f a = .ok b := by
  cases x with
  | error e => simp [bind, Except.bind]
  | ok a => exact ⟨fun h => ⟨a, rfl, h⟩, fun ⟨_, ha, h⟩ => Except.ok.inj ha ▸ h⟩

theorem mapError_eq_ok_iff {ε ε' α : Type} {x : Except ε α} {f : ε → ε'} {a : α} :
    x.mapError f = .ok a ↔ x = .ok a := by
  cases x <;> simp [Except.mapError]

theorem consentAckField_eq_ok_iff {b : Bool} : consentAckField coercions members = .ok b ↔
    (members.lookup "consent_ack".toList = none ∧ b = false) ∨
      ∃ v, members.lookup "consent_ack".toList = some v ∧ coercions.bool v = .ok b := by
  unfold consentAckField
  cases members.lookup "consent_ack".toList with
  | none => simp [eq_comm]
  | some v => simp [mapError_eq_ok_iff]

theorem webhookUrlField_eq_ok_iff {url : Text} : webhookUrlField coercions members = .ok url ↔
    ∃ s, members.lookup "webhook_url".toList = some (.str s) ∧ coercions.httpUrl s = .ok url := by
  unfold webhookUrlField
  cases members.lookup "webhook_url".toList with
  | none => simp
  | some v => cases v <;> simp [mapError_eq_ok_iff]

theorem platformField_eq_ok_iff {platform : Option CallPlatform} :
    platformField members = .ok platform ↔
      ((members.lookup "platform".toList = none ∨
        members.lookup "platform".toList = some .null) ∧ platform = none) ∨
      (members.lookup "platform".toList = some (.str "google_meet".toList) ∧
        platform = some .googleMeet) := by
  unfold platformField
  cases members.lookup "platform".toList with
  | none => simp [eq_comm]
  | some v =>
      cases v with
      | str s =>
          dsimp only
          split_ifs with hs
          · simp [hs, eq_comm]
          · simp only [reduceCtorEq, false_and, false_or, false_iff, not_and, Option.some.injEq,
              Json.str.injEq, or_self]
            exact fun heq => absurd heq hs
      | null => simp [eq_comm]
      | _ => simp

theorem reads_iff (data : CallCreate) : Reads coercions members data ↔
    fieldsOf coercions members = .ok data := by
  unfold fieldsOf
  simp only [bind_eq_ok_iff, meetingUrlField_eq_ok_iff, consentAckField_eq_ok_iff,
    webhookUrlField_eq_ok_iff, platformField_eq_ok_iff]
  constructor
  · intro h
    refine ⟨_, ⟨h.meetingUrl, h.isMeetUrl⟩, _, minLength_eq_ok_iff.2 ⟨h.userRef, ?_⟩, _, h.consentAck, _,
      h.webhookUrl, _, minLength_eq_ok_iff.2 ⟨h.webhookSecret, h.secret_length⟩, _, h.platform, rfl⟩
    exact List.length_pos_of_ne_nil h.userRef_ne_nil
  · rintro ⟨url, ⟨hurl, hmeet⟩, user, huser, consent, hconsent, hook, hhook, secret, hsecret, platform,
      hplatform, ⟨⟩⟩
    obtain ⟨huser, hlength⟩ := minLength_eq_ok_iff.1 huser
    obtain ⟨hsecret, hlong⟩ := minLength_eq_ok_iff.1 hsecret
    exact ⟨hurl, hmeet, huser, List.length_pos_iff.1 hlength, hconsent, hhook, hsecret, hlong,
      hplatform⟩

/-! ## What is reported -/

def Own (errors : List FieldError) : Prop := ∀ e ∈ errors, e.code ∉ contractValidationCodes

theorem contractCode_append {errors others : List FieldError} (h : Own others) :
    contractCode (errors ++ others) = contractCode errors := by
  have hnone : contractCode others = none := by
    apply List.find?_eq_none.2
    intro code hcode
    obtain ⟨e, he, rfl⟩ := List.mem_map.1 hcode
    simpa using h e he
  unfold contractCode at hnone ⊢
  rw [List.map_append, List.find?_append, hnone, Option.or_none]

theorem own_errorOf {α : Type} {x : Except FieldError α}
    (h : ∀ e, x = .error e → e.code ∉ contractValidationCodes) : Own (errorOf x) := by
  cases x with
  | ok a => exact fun e he => absurd he List.not_mem_nil
  | error e =>
      intro e' he
      obtain rfl := List.mem_singleton.1 he
      exact h _ rfl

theorem own_requiredText {name : Text} {e : FieldError} (h : requiredText name members = .error e) :
    e.code ∉ contractValidationCodes := by
  unfold requiredText at h
  split at h <;> cases h <;> exact of_decide_eq_true rfl

theorem own_minLength {name : Text} {n : ℕ} {e : FieldError}
    (h : (requiredText name members >>= minLength name n) = .error e) :
    e.code ∉ contractValidationCodes := by
  cases htext : requiredText name members with
  | error e' =>
      rw [htext] at h
      cases h
      exact own_requiredText htext
  | ok s =>
      rw [htext] at h
      change minLength name n s = _ at h
      unfold minLength at h
      split_ifs at h
      cases h
      exact of_decide_eq_true rfl

theorem own_mapError {α : Type} {name : Text} {x : Except Text α} {e : FieldError}
    (hx : ∀ code, x = .error code → code ∉ contractValidationCodes)
    (h : x.mapError (fieldError name) = .error e) : e.code ∉ contractValidationCodes := by
  cases x with
  | ok a => cases h
  | error code =>
      cases h
      exact hx code rfl

theorem contractCode_fieldErrors :
    contractCode (fieldErrors coercions members) = contractCode (errorOf (meetingUrlField members)) := by
  have huser : Own (errorOf (userRefField members)) := own_errorOf fun e he => own_minLength he
  have hconsent : Own (errorOf (consentAckField coercions members)) := by
    refine own_errorOf fun e he => ?_
    unfold consentAckField at he
    split at he
    · cases he
    · exact own_mapError (coercions.bool_code _) he
  have hhook : Own (errorOf (webhookUrlField coercions members)) := by
    refine own_errorOf fun e he => ?_
    unfold webhookUrlField at he
    split at he
    · cases he
      exact of_decide_eq_true rfl
    · exact own_mapError (coercions.httpUrl_code _) he
    · cases he
      exact of_decide_eq_true rfl
  have hsecret : Own (errorOf (webhookSecretField members)) := own_errorOf fun e he => own_minLength he
  have hplatform : Own (errorOf (platformField members)) := by
    refine own_errorOf fun e he => ?_
    unfold platformField at he
    split at he
    · cases he
    · cases he
    · split_ifs at he
      cases he
      exact of_decide_eq_true rfl
    · cases he
      exact of_decide_eq_true rfl
  unfold fieldErrors
  rw [contractCode_append hplatform, contractCode_append hsecret, contractCode_append hhook,
    contractCode_append hconsent, contractCode_append huser]

theorem contractCode_meetingUrlField : contractCode (errorOf (meetingUrlField members)) =
    match members.lookup "meeting_url".toList with
    | some (.str s) => if meetingUrlMatches s then none else some "invalid_meeting_url".toList
    | _ => none := by
  unfold meetingUrlField requiredText
  cases members.lookup "meeting_url".toList with
  | none => rfl
  | some v =>
      cases v with
      | str s =>
          change contractCode (errorOf (validateMeetingUrl s)) = _
          unfold validateMeetingUrl
          dsimp only
          split_ifs <;> rfl
      | _ => rfl

end Fields

theorem validate_obj (coercions : Coercions) (members : List (Text × Json)) :
    validate coercions (.obj members) = match fieldsOf coercions members with
      | .error _ => .error (fieldErrors coercions members)
      | .ok data => (requireConsent data >>= derivePlatform).mapError fun e => [e] := rfl

/-- The validators of the whole model ask for the consent only: the enumeration has one platform. -/
theorem modelValidators_eq (data : CallCreate) : (requireConsent data >>= derivePlatform) =
    if data.consentAck then .ok { data with platform := some .googleMeet }
    else .error ⟨[], "consent_missing"⟩ := by
  unfold requireConsent
  split_ifs
  · change derivePlatform data = _
    unfold derivePlatform
    obtain ⟨url, user, consent, hook, secret, platform⟩ := data
    cases platform with
    | none => rfl
    | some platform => cases platform; rfl
  · rfl

theorem validate_eq_ok_iff {coercions : Coercions} {body : Json} {data : CallCreate} :
    validate coercions body = .ok data ↔
      ∃ members read, body = .obj members ∧ Reads coercions members read ∧ read.consentAck = true ∧
        data = { read with platform := some .googleMeet } := by
  constructor
  · intro h
    cases body with
    | obj members =>
        rw [validate_obj] at h
        cases hfields : fieldsOf coercions members with
        | error e =>
            rw [hfields] at h
            cases h
        | ok read =>
            rw [hfields] at h
            dsimp only at h
            rw [modelValidators_eq] at h
            by_cases hconsent : read.consentAck = true
            · rw [if_pos hconsent] at h
              cases h
              exact ⟨members, read, rfl, (reads_iff read).2 hfields, hconsent, rfl⟩
            · rw [if_neg hconsent] at h
              cases h
    | _ => cases h
  · rintro ⟨members, read, rfl, hread, hconsent, rfl⟩
    rw [validate_obj, (reads_iff read).1 hread]
    dsimp only
    rw [modelValidators_eq, if_pos hconsent]
    rfl

end CallCreate

open CallCreate in
/-- A body is accepted when all its fields are valid and it has the consent. Of the codes of the contract
a refusal reports `invalid_meeting_url` for a text that is not the URL of a meeting, whatever else is
wrong with the body, and `consent_missing` when nothing but the consent is missing. -/
theorem validate_contract (coercions : Coercions) (body : Json) :
    (∀ data, validate coercions body = .ok data ↔
      ∃ members read, body = .obj members ∧ Reads coercions members read ∧ read.consentAck = true ∧
        data = { read with platform := some .googleMeet }) ∧
    ∀ errors, validate coercions body = .error errors →
      (contractCode errors = some "invalid_meeting_url".toList ↔ ∃ members s, body = .obj members ∧
        members.lookup "meeting_url".toList = some (.str s) ∧ ¬ IsMeetUrl s) ∧
      (contractCode errors = some "consent_missing".toList ↔ ∃ members read, body = .obj members ∧
        Reads coercions members read ∧ read.consentAck = false) := by
  refine ⟨fun data => validate_eq_ok_iff, fun errors herrors => ?_⟩
  have hcodes : ("invalid_meeting_url".toList : Text) ≠ "consent_missing".toList := by decide
  cases body with
  | obj members =>
      have hurl : (∃ members' s, Json.obj members = .obj members' ∧
          members'.lookup "meeting_url".toList = some (.str s) ∧ ¬ IsMeetUrl s) ↔
            contractCode (errorOf (meetingUrlField members)) = some "invalid_meeting_url".toList := by
        rw [contractCode_meetingUrlField]
        constructor
        · rintro ⟨_, s, ⟨⟩, hs, hmeet⟩
          rw [hs]
          exact if_neg (mt (meetingUrlMatches_iff s).1 hmeet)
        · intro h
          split at h
          · rename_i s hs
            split_ifs at h with hmatch
            exact ⟨members, s, rfl, hs, mt (meetingUrlMatches_iff s).2 hmatch⟩
          · cases h
      rw [validate_obj] at herrors
      cases hfields : fieldsOf coercions members with
      | error e =>
          rw [hfields] at herrors
          cases herrors
          rw [contractCode_fieldErrors]
          refine ⟨hurl.symm, ?_, ?_⟩
          · intro h
            rw [contractCode_meetingUrlField] at h
            split at h
            · split_ifs at h
              exact absurd (Option.some.inj h) hcodes
            · cases h
          · rintro ⟨_, read, ⟨⟩, hread, -⟩
            rw [reads_iff, hfields] at hread
            cases hread
      | ok read =>
          have hread := (reads_iff read).2 hfields
          have hvalid : contractCode (errorOf (meetingUrlField members)) = none := by
            rw [contractCode_meetingUrlField, hread.meetingUrl]
            exact if_pos ((meetingUrlMatches_iff _).2 hread.isMeetUrl)
          rw [hvalid] at hurl
          have hconsent : read.consentAck ≠ true := by
            intro hconsent
            have hok := validate_eq_ok_iff.2 ⟨members, read, rfl, hread, hconsent, rfl⟩
            rw [validate_obj, herrors] at hok
            cases hok
          rw [hfields] at herrors
          dsimp only at herrors
          rw [modelValidators_eq, if_neg hconsent] at herrors
          cases herrors
          refine ⟨⟨fun h => absurd h (by decide), fun h => by simpa using hurl.1 h⟩, ?_⟩
          exact iff_of_true rfl ⟨members, read, rfl, hread, (Bool.not_eq_true _).mp hconsent⟩
  | _ =>
      cases herrors
      refine ⟨⟨fun h => absurd h (by decide), ?_⟩, fun h => absurd h (by decide), ?_⟩
      · rintro ⟨members, s, hbody, -⟩
        cases hbody
      · rintro ⟨members, read, hbody, -⟩
        cases hbody

/-! ### Two requests -/

def sampleCoercions : Coercions where
  bool
    | .bool b => .ok b
    | _ => .error "bool_type"
  httpUrl s := if "https://".toList.isPrefixOf s then .ok s else .error "url_parsing"
  uuid := PythonUuid.parse
  bool_code v code h := by
    split at h <;> cases h
    decide
  httpUrl_code s code h := by
    split_ifs at h
    cases h
    decide

def sampleMembers (consent : Bool) : List (Text × Json) :=
  [("meeting_url".toList, .str "https://meet.google.com/abc-defg-hij".toList),
    ("user_ref".toList, .str "user".toList), ("consent_ack".toList, .bool consent),
    ("webhook_url".toList, .str "https://example.org/hook".toList),
    ("webhook_secret".toList, .str "0123456789abcdef".toList)]

def sampleBody : Json := .obj (sampleMembers true)

def acceptedCreate : CallCreate where
  meetingUrl := "https://meet.google.com/abc-defg-hij".toList
  userRef := "user".toList
  consentAck := true
  webhookUrl := "https://example.org/hook".toList
  webhookSecret := "0123456789abcdef".toList
  platform := some .googleMeet

open CallCreate in
theorem validate_sampleBody : validate sampleCoercions sampleBody = .ok acceptedCreate := by rfl

open CallCreate in
theorem validate_unconsented : validate sampleCoercions (.obj (sampleMembers false)) =
    .error [⟨[], "consent_missing".toList⟩] := by rfl

open CallCreate in
theorem validate_contract_sampleBody :
    (∃ members read, sampleBody = .obj members ∧ Reads sampleCoercions members read ∧
      read.consentAck = true ∧ acceptedCreate = { read with platform := some .googleMeet }) ∧
    ∃ members read, Json.obj (sampleMembers false) = .obj members ∧
      Reads sampleCoercions members read ∧ read.consentAck = false :=
  ⟨((validate_contract sampleCoercions sampleBody).1 acceptedCreate).1 validate_sampleBody,
    ((validate_contract sampleCoercions _).2 _ validate_unconsented).2.1 rfl⟩

end Notetaker
