import Mathlib.Data.Nat.Digits.Defs
import Notetaker.PythonFloat

/-!
# UUIDs and their text

`Uuid.text` is `str(u)`. `parse` is the constructor `uuid.UUID(s)`, which is lenient: it drops
`urn:` and `uuid:` wherever they occur, braces at both ends and every hyphen, and then hands the 32
remaining characters to `int(_, 16)`, which takes surrounding white space, a sign, a `0x` prefix,
underscores between digits and the decimal digits of every script.
-/

open PythonText PythonFloat

namespace PythonUuid

abbrev Uuid := BitVec 128

def hyphen : Char := '-'

/-- `str(u)`. -/
def Uuid.text (u : Uuid) : Text :=
  let h := hexText 32 u.toNat
  h.take 8 ++ hyphen :: (h.drop 8).take 4 ++ hyphen :: (h.drop 12).take 4 ++
    hyphen :: (h.drop 16).take 4 ++ hyphen :: h.drop 20

/-- The white space `int` skips once the text is ASCII. -/
def asciiSpace : Text := [9, 10, 11, 12, 13, 32].map Char.ofNat

/-- A text with a character beyond ASCII is transcribed first; the rest of them become `?`. -/
def toAscii (s : Text) : Text :=
  if s.all fun c => c.toNat < 128 then s
  else s.map fun c =>
    if c.toNat < 128 then c else if isSpace c then ' '
    else if (digitValue c).isSome then toAsciiDigit c else '?'

def hexNumber : Bool → ℕ → Text → Option ℕ
  | afterDigit, acc, [] => if afterDigit then some acc else none
  | afterDigit, acc, c :: cs =>
      if c = '_' then if afterDigit then hexNumber false acc cs else none
      else (hexValue c).bind fun d => hexNumber true (acc * 16 + d) cs

def unsignedHex : Text → Option ℕ
  | '0' :: x :: cs =>
      if x = 'x' ∨ x = 'X' then
        match cs with
        | '_' :: ds => hexNumber false 0 ds
        | ds => hexNumber false 0 ds
      else hexNumber false 0 ('0' :: x :: cs)
  | cs => hexNumber false 0 cs

/-- `int(s, 16)`; `none` is the `ValueError`. -/
def hexInt (s : Text) : Option ℤ :=
  match stripChars asciiSpace (toAscii s) with
  | '+' :: cs => (unsignedHex cs).map (↑)
  | '-' :: cs => (unsignedHex cs).map fun n => -(n : ℤ)
  | cs => (unsignedHex cs).map (↑)

/-- The text `uuid.UUID` reads as a number. -/
def bareHex (s : Text) : Text :=
  (stripChars "{}".toList (removeAll "uuid:".toList (removeAll "urn:".toList s))).filter (· ≠ hyphen)

/-- `uuid.UUID(s)`; `none` is the `ValueError`. -/
def parse (s : Text) : Option Uuid :=
  if (bareHex s).length ≠ 32 then none
  else (hexInt (bareHex s)).bind fun n =>
    if 0 ≤ n ∧ n < 2 ^ 128 then some (BitVec.ofInt 128 n) else none

/-! ## `parse` inverts `text` -/

theorem length_hexText (k n : ℕ) : (hexText k n).length = k := by
  induction k generalizing n with
  | zero => rfl
  | succ k ih => simp [hexText, ih]

theorem mem_hexText {k n : ℕ} {c : Char} (h : c ∈ hexText k n) : ∃ d < 16, c = hexDigit d := by
  induction k generalizing n with
  | zero => simp [hexText] at h
  | succ k ih =>
      rcases List.mem_append.1 h with h | h
      · exact ih h
      · exact ⟨n % 16, Nat.mod_lt _ (by decide), by simpa using h⟩

theorem forall_mem_hexText {P : Char → Prop} (hP : ∀ d < 16, P (hexDigit d)) {k n : ℕ} :
    ∀ c ∈ hexText k n, P c := by
  intro c hc
  obtain ⟨d, hd, rfl⟩ := mem_hexText hc
  exact hP d hd

theorem hexNumber_hexDigit (b : Bool) (acc : ℕ) {d : ℕ} (hd : d < 16) (cs : Text) :
    hexNumber b acc (hexDigit d :: cs) = hexNumber true (acc * 16 + d) cs := by
  have hne : ∀ d < 16, hexDigit d ≠ '_' := by decide
  rw [hexNumber, if_neg (hne d hd), hexValue_hexDigit d hd]
  rfl

theorem hexNumber_hexText (b : Bool) (acc k n : ℕ) (cs : Text) :
    hexNumber b acc (hexText (k + 1) n ++ cs) =
      hexNumber true (acc * 16 ^ (k + 1) + n % 16 ^ (k + 1)) cs := by
  induction k generalizing n cs with
  | zero =>
      change hexNumber b acc (hexDigit (n % 16) :: cs) = _
      rw [hexNumber_hexDigit b acc (Nat.mod_lt _ (by decide))]
      simp
  | succ k ih =>
      have hsplit : hexText (k + 2) n ++ cs =
          hexText (k + 1) (n / 16) ++ hexDigit (n % 16) :: cs := by
        simp [hexText]
      rw [hsplit, ih, hexNumber_hexDigit true _ (Nat.mod_lt _ (by decide))]
      congr 1
      rw [show 16 ^ (k + 1 + 1) = 16 * 16 ^ (k + 1) by ring, Nat.mod_mul]
      ring

theorem toAscii_of_ascii {s : Text} (h : ∀ c ∈ s, c.toNat < 128) : toAscii s = s := by
  have hall : (s.all fun c => c.toNat < 128) = true := by simpa using h
  rw [toAscii, if_pos hall]

theorem unsignedHex_of_notMem {s : Text} (h : 'x' ∉ s) (h' : 'X' ∉ s) :
    unsignedHex s = hexNumber false 0 s := by
  unfold unsignedHex
  split
  · rename_i x cs
    have hx : ¬ (x = 'x' ∨ x = 'X') := by
      rintro (rfl | rfl)
      · exact h (by simp)
      · exact h' (by simp)
    rw [if_neg hx]
  · rfl

theorem hexInt_of_plain {s : Text} (hascii : ∀ c ∈ s, c.toNat < 128)
    (hspace : ∀ c ∈ s, c ∉ asciiSpace) (hplus : '+' ∉ s) (hminus : '-' ∉ s) :
    hexInt s = (unsignedHex s).map (↑) := by
  rw [hexInt, toAscii_of_ascii hascii, stripChars_of_notMem hspace]
  split
  · exact absurd (by simp) hplus
  · exact absurd (by simp) hminus
  · rfl

theorem hexInt_hexText (k n : ℕ) : hexInt (hexText (k + 1) n) = some ↑(n % 16 ^ (k + 1)) := by
  have hnumber := hexNumber_hexText false 0 k n []
  rw [List.append_nil] at hnumber
  rw [hexInt_of_plain (forall_mem_hexText (by decide)) (forall_mem_hexText (by decide))
    (fun h => forall_mem_hexText (P := (· ≠ '+')) (by decide) _ h rfl)
    (fun h => forall_mem_hexText (P := (· ≠ '-')) (by decide) _ h rfl),
    unsignedHex_of_notMem (fun h => forall_mem_hexText (P := (· ≠ 'x')) (by decide) _ h rfl)
    (fun h => forall_mem_hexText (P := (· ≠ 'X')) (by decide) _ h rfl), hnumber]
  simp [hexNumber]

theorem bareHex_of_plain {s : Text} (hcolon : ':' ∉ s) (hbrace : ∀ c ∈ s, c ∉ "{}".toList) :
    bareHex s = s.filter (· ≠ hyphen) := by
  rw [bareHex, removeAll_of_notMem (c := ':') (by decide) hcolon,
    removeAll_of_notMem (c := ':') (by decide) hcolon, stripChars_of_notMem hbrace]

theorem Uuid.forall_mem_text {P : Char → Prop} (hP : ∀ d < 16, P (hexDigit d)) (hh : P hyphen)
    (u : Uuid) : ∀ c ∈ u.text, P c := by
  have hhex : ∀ c ∈ hexText 32 u.toNat, P c := forall_mem_hexText hP
  intro c hc
  simp only [text, List.mem_append, List.mem_cons] at hc
  rcases hc with (((h | rfl | h) | rfl | h) | rfl | h) | rfl | h
  · exact hhex c (List.mem_of_mem_take h)
  · exact hh
  · exact hhex c (List.mem_of_mem_drop (List.mem_of_mem_take h))
  · exact hh
  · exact hhex c (List.mem_of_mem_drop (List.mem_of_mem_take h))
  · exact hh
  · exact hhex c (List.mem_of_mem_drop (List.mem_of_mem_take h))
  · exact hh
  · exact hhex c (List.mem_of_mem_drop h)

theorem Uuid.filter_text (u : Uuid) : u.text.filter (· ≠ hyphen) = hexText 32 u.toNat := by
  have hplain : ∀ c ∈ hexText 32 u.toNat, c ≠ hyphen := forall_mem_hexText (by decide)
  have hkeep : ∀ l : Text, (∀ c ∈ l, c ∈ hexText 32 u.toNat) → l.filter (· ≠ hyphen) = l :=
    fun l hl => List.filter_eq_self.2 fun c hc => by simpa using hplain c (hl c hc)
  set h := hexText 32 u.toNat with hh
  have hdrop : ∀ i c, c ∈ h.drop i → c ∈ h := fun i c hc => List.mem_of_mem_drop hc
  have htake : ∀ i j c, c ∈ (h.drop i).take j → c ∈ h := fun i j c hc =>
    hdrop i c (List.mem_of_mem_take hc)
  have hsep : ∀ l : Text, (hyphen :: l).filter (· ≠ hyphen) = l.filter (· ≠ hyphen) := fun l => by
    simp
  rw [text, ← hh]
  simp only [List.filter_append, hsep]
  rw [hkeep _ fun c hc => List.mem_of_mem_take hc, hkeep _ (htake 8 4), hkeep _ (htake 12 4),
    hkeep _ (htake 16 4), hkeep _ (hdrop 20)]
  have hglue : ∀ i j, (h.drop i).take j ++ h.drop (i + j) = h.drop i := fun i j => by
    rw [← List.drop_drop, List.take_append_drop]
  rw [List.append_assoc, List.append_assoc, List.append_assoc, hglue 16 4, hglue 12 4, hglue 8 4,
    List.take_append_drop]

/-- The constructor reads back what `str` writes. -/
theorem parse_text (u : Uuid) : parse u.text = some u := by
  have hcolon : ':' ∉ u.text := fun h =>
    Uuid.forall_mem_text (P := (· ≠ ':')) (by decide) (by decide) u _ h rfl
  have hbare : bareHex u.text = hexText 32 u.toNat := by
    rw [bareHex_of_plain hcolon (Uuid.forall_mem_text (by decide) (by decide) u), u.filter_text]
  have hlt : u.toNat < 16 ^ 32 := u.isLt
  have hlen : ¬ (hexText 32 u.toNat).length ≠ 32 := by simp [length_hexText]
  rw [parse, hbare, if_neg hlen, hexInt_hexText, Nat.mod_eq_of_lt hlt, Option.bind_some]
  have hrange : (0 : ℤ) ≤ (u.toNat : ℤ) ∧ (u.toNat : ℤ) < 2 ^ 128 := by
    have := u.isLt
    omega
  rw [if_pos hrange]
  simp

theorem parse_eq_none {s cs : Text} {c : Char} (hcolon : ':' ∉ s)
    (hbrace : ∀ d ∈ s, d ∉ "{}".toList) (hascii : ∀ d ∈ s, d.toNat < 128)
    (hspace : ∀ d ∈ s, d ∉ asciiSpace) (hplus : '+' ∉ s) (hx : 'x' ∉ s) (hX : 'X' ∉ s)
    (hhead : s.filter (· ≠ hyphen) = c :: cs) (hscore : c ≠ '_') (hc : hexValue c = none) :
    parse s = none := by
  have hbare : bareHex s = c :: cs := by rw [bareHex_of_plain hcolon hbrace, hhead]
  have hmem : ∀ d ∈ c :: cs, d ∈ s ∧ d ≠ hyphen := fun d hd => by
    obtain ⟨hds, hdh⟩ := List.mem_filter.1 (hhead ▸ hd)
    exact ⟨hds, of_decide_eq_true hdh⟩
  have hint : hexInt (c :: cs) = none := by
    rw [hexInt_of_plain (fun d hd => hascii d (hmem d hd).1) (fun d hd => hspace d (hmem d hd).1)
      (fun h => hplus (hmem _ h).1) (fun h => (hmem _ h).2 rfl),
      unsignedHex_of_notMem (fun h => hx (hmem _ h).1) (fun h => hX (hmem _ h).1), hexNumber,
      if_neg hscore, hc]
    rfl
  rw [parse, hbare, hint]
  split_ifs <;> rfl

end PythonUuid
