import Mathlib.Data.List.DropRight
import Mathlib.Data.List.Infix

/-!
# Python strings as lists of characters

`Text` is a Python `str` without lone surrogates. The operations follow `str.split`, `str.strip`,
`str.splitlines` restricted to line feeds, and the decimal rendering of integers. `afterFirst`
finds the leftmost occurrence of a needle, which is what a regular expression search with a literal
head does.
-/

namespace PythonText

abbrev Text := List Char

instance : Coe String Text := ⟨String.toList⟩

instance : LawfulBEq Text := inferInstanceAs (LawfulBEq (List Char))

/-- An f-string, or a format with its arguments. -/
def concat (parts : List Text) : Text := parts.flatten

theorem concat_ne_nil {head : Text} (h : head ≠ []) (rest : List Text) :
    concat (head :: rest) ≠ [] := by
  simp [concat, h]

/-- The code points for which `str.isspace` holds. -/
def whitespace : List ℕ :=
  [0x9, 0xa, 0xb, 0xc, 0xd, 0x1c, 0x1d, 0x1e, 0x1f, 0x20, 0x85, 0xa0, 0x1680, 0x2000, 0x2001,
    0x2002, 0x2003, 0x2004, 0x2005, 0x2006, 0x2007, 0x2008, 0x2009, 0x200a, 0x2028, 0x2029, 0x202f,
    0x205f, 0x3000]

def isSpace (c : Char) : Bool := c.toNat ∈ whitespace

/-- `s.split()`. -/
def splitWords (s : Text) : List Text := (s.splitOnP isSpace).filter (· ≠ [])

/-- `" ".join(s.split())`. -/
def normalize (s : Text) : Text := [' '].intercalate (splitWords s)

def lstrip (s : Text) : Text := s.dropWhile isSpace

def rstrip (s : Text) : Text := s.rdropWhile isSpace

def strip (s : Text) : Text := rstrip (lstrip s)

/-- The lines a stream reader sees in a text whose records end with a line feed. -/
def physicalLines (s : Text) : List Text := s.splitOn '\n'

/-- The characters at which `str.splitlines` breaks. -/
def lineBreaks : Text :=
  [0xa, 0xb, 0xc, 0xd, 0x1c, 0x1d, 0x1e, 0x85, 0x2028, 0x2029].map Char.ofNat

/-- `s.splitlines()`, with the characters of the current line in reverse. A carriage return before a
line feed leaves the break to it. -/
def splitLinesFrom : Text → Text → List Text
  | acc, [] => if acc = [] then [] else [acc.reverse]
  | acc, c :: cs =>
      if c = '\r' ∧ cs.head? = some '\n' then splitLinesFrom acc cs
      else if c ∈ lineBreaks then acc.reverse :: splitLinesFrom [] cs
      else splitLinesFrom (c :: acc) cs

def splitLines (s : Text) : List Text := splitLinesFrom [] s

def natText (n : ℕ) : Text := Nat.toDigits 10 n

def intText : ℤ → Text
  | .ofNat n => natText n
  | .negSucc n => '-' :: natText (n + 1)

def hexDigit (n : ℕ) : Char := Nat.digitChar n

/-- The `width` lowest hexadecimal digits of `n`. -/
def hexText : ℕ → ℕ → Text
  | 0, _ => []
  | width + 1, n => hexText width (n / 16) ++ [hexDigit (n % 16)]

/-- One character of `repr(s)`; which characters beyond ASCII are printable is a matter of the
Unicode tables. -/
def reprChar (isPrintable : Char → Bool) (quote c : Char) : Text :=
  if c = quote ∨ c = '\\' then ['\\', c]
  else if c = '\t' then ['\\', 't']
  else if c = '\n' then ['\\', 'n']
  else if c = '\r' then ['\\', 'r']
  else if 32 ≤ c.toNat ∧ c.toNat < 127 then [c]
  else if 128 ≤ c.toNat ∧ isPrintable c then [c]
  else if c.toNat < 256 then '\\' :: 'x' :: hexText 2 c.toNat
  else if c.toNat < 65536 then '\\' :: 'u' :: hexText 4 c.toNat
  else '\\' :: 'U' :: hexText 8 c.toNat

/-- `repr(s)`. -/
def reprText (isPrintable : Char → Bool) (s : Text) : Text :=
  let quote := if Char.ofNat 39 ∈ s ∧ '"' ∉ s then '"' else Char.ofNat 39
  quote :: s.flatMap (reprChar isPrintable quote) ++ [quote]

/-- The code points of the zeros of the decimal digit systems. -/
def decimalZeros : List ℕ :=
  [0x30, 0x660, 0x6f0, 0x7c0, 0x966, 0x9e6, 0xa66, 0xae6, 0xb66, 0xbe6, 0xc66, 0xce6, 0xd66, 0xde6,
    0xe50, 0xed0, 0xf20, 0x1040, 0x1090, 0x17e0, 0x1810, 0x1946, 0x19d0, 0x1a80, 0x1a90, 0x1b50,
    0x1bb0, 0x1c40, 0x1c50, 0xa620, 0xa8d0, 0xa900, 0xa9d0, 0xa9f0, 0xaa50, 0xabf0, 0xff10, 0x104a0,
    0x10d30, 0x11066, 0x110f0, 0x11136, 0x111d0, 0x112f0, 0x11450, 0x114d0, 0x11650, 0x116c0,
    0x11730, 0x118e0, 0x11950, 0x11c50, 0x11d50, 0x11da0, 0x11f50, 0x16a60, 0x16ac0, 0x16b50,
    0x1d7ce, 0x1d7d8, 0x1d7e2, 0x1d7ec, 0x1d7f6, 0x1e140, 0x1e2f0, 0x1e4f0, 0x1e950, 0x1fbf0]

/-- The value of a decimal digit of any script. -/
def digitValue (c : Char) : Option ℕ :=
  (decimalZeros.find? fun z => z ≤ c.toNat ∧ c.toNat < z + 10).map (c.toNat - ·)

/-- `int(s)` of a text of decimal digits. -/
def intOfDigits (s : Text) : ℕ := s.foldl (fun n c => 10 * n + (digitValue c).getD 0) 0

def hexValue (c : Char) : Option ℕ :=
  if c.isDigit then some (c.toNat - 48)
  else if 'a' ≤ c ∧ c ≤ 'f' then some (c.toNat - 87)
  else if 'A' ≤ c ∧ c ≤ 'F' then some (c.toNat - 55)
  else none

/-- `s.replace(needle, "")`, with `skip` characters of the last occurrence still to drop. -/
def removeAllFrom (needle : Text) : ℕ → Text → Text
  | _, [] => []
  | skip + 1, _ :: cs => removeAllFrom needle skip cs
  | 0, c :: cs =>
      if needle.isPrefixOf (c :: cs) then removeAllFrom needle (needle.length - 1) cs
      else c :: removeAllFrom needle 0 cs

def removeAll (needle s : Text) : Text := removeAllFrom needle 0 s

/-- `s.strip(chars)`. -/
def stripChars (chars s : Text) : Text := (s.dropWhile (· ∈ chars)).rdropWhile (· ∈ chars)

def afterFirst (needle : Text) : Text → Option Text
  | [] => needle.isPrefixOf? []
  | c :: cs => needle.isPrefixOf? (c :: cs) <|> afterFirst needle cs

/-- A check over the characters of a concrete text. -/
theorem forall_mem_of_all {P : Char → Prop} [DecidablePred P] {s : Text}
    (h : (s.all fun c => decide (P c)) = true) : ∀ c ∈ s, P c := fun c hc =>
  of_decide_eq_true (List.all_eq_true.1 h c hc)

theorem natText_ne_nil (n : ℕ) : natText n ≠ [] := Nat.toDigits_ne_nil

theorem isDigit_of_mem_natText {n : ℕ} {c : Char} (h : c ∈ natText n) : c.isDigit :=
  Nat.isDigit_of_mem_toDigits (by decide) (by decide) h

theorem ofDigitChars_natText (n : ℕ) : Nat.ofDigitChars 10 (natText n) 0 = n :=
  Nat.ofDigitChars_ten_toDigits

theorem natText_head_ne {n : ℕ} {c : Char} (hc : c.isDigit = false) (cs : Text) :
    natText n ≠ c :: cs := by
  intro h
  have hd : c.isDigit := isDigit_of_mem_natText (n := n) (by rw [h]; exact List.mem_cons_self)
  simp [hc] at hd

theorem head?_natText (n : ℕ) (h : (natText n).head? = some '0') : natText n = ['0'] := by
  induction n using Nat.strong_induction_on with
  | _ n ih =>
      by_cases hn : n < 10
      · revert h
        have hdigits : ∀ k < 10, (natText k).head? = some '0' → natText k = ['0'] := by decide
        exact hdigits n hn
      · have hstep : natText n = natText (n / 10) ++ [Nat.digitChar (n % 10)] :=
          Nat.toDigits_of_base_le (by decide) (by omega)
        have hne := natText_ne_nil (n / 10)
        have hhead : (natText (n / 10)).head? = some '0' := by
          rw [hstep, List.head?_append_of_ne_nil _ hne] at h
          exact h
        have hzero := ih (n / 10) (by omega) hhead
        have hvalue : n / 10 = 0 := by
          rw [← ofDigitChars_natText (n / 10), hzero]
          rfl
        omega

theorem natText_injective : Function.Injective natText := fun m n h => by
  rw [← ofDigitChars_natText m, h, ofDigitChars_natText]

theorem intText_injective : Function.Injective intText := by
  intro m n h
  cases m with
  | ofNat m =>
      cases n with
      | ofNat n => rw [natText_injective h]
      | negSucc n => exact absurd h (natText_head_ne (by decide) _)
  | negSucc m =>
      cases n with
      | ofNat n => exact absurd h.symm (natText_head_ne (by decide) _)
      | negSucc n => rw [Nat.succ_injective (natText_injective (List.cons.inj h).2)]

theorem hexValue_hexDigit : ∀ d < 16, hexValue (hexDigit d) = some d := by decide

/-- A text without one of the needle's characters has nothing to remove. -/
theorem removeAll_of_notMem {c : Char} {needle s : Text} (hc : c ∈ needle) (hs : c ∉ s) :
    removeAll needle s = s := by
  unfold removeAll
  induction s with
  | nil => rfl
  | cons d s ih =>
      have hprefix : needle.isPrefixOf (d :: s) = false := by
        by_contra h
        exact hs ((List.isPrefixOf_iff_prefix.1 (by simpa using h)).subset hc)
      rw [removeAllFrom, hprefix, ih fun h => hs (List.mem_cons_of_mem d h)]
      rfl

theorem stripChars_of_notMem {chars s : Text} (h : ∀ c ∈ s, c ∉ chars) :
    stripChars chars s = s := by
  have hleft : s.dropWhile (· ∈ chars) = s := by
    cases s with
    | nil => rfl
    | cons c s => simp [h c (by simp)]
  rw [stripChars, hleft, List.rdropWhile_eq_self_iff]
  exact fun hne => by simpa using h _ (List.getLast_mem hne)

theorem splitLinesFrom_append (acc line cs : Text) (h : ∀ c ∈ line, c ∉ lineBreaks) :
    splitLinesFrom acc (line ++ '\n' :: cs) = (acc.reverse ++ line) :: splitLinesFrom [] cs := by
  induction line generalizing acc with
  | nil => simp [splitLinesFrom, lineBreaks]
  | cons c line ih =>
      have hc : c ∉ lineBreaks := h c (by simp)
      have hreturn : c ≠ '\r' := by
        rintro rfl
        exact hc (by decide)
      rw [List.cons_append, splitLinesFrom, if_neg fun h => hreturn h.1, if_neg hc,
        ih _ fun d hd => h d (List.mem_cons_of_mem c hd)]
      simp

/-- A reader of lines gets back what a writer of lines wrote. -/
theorem splitLines_flatMap (lines : List Text) (h : ∀ l ∈ lines, ∀ c ∈ l, c ∉ lineBreaks) :
    splitLines (lines.flatMap (· ++ ['\n'])) = lines := by
  unfold splitLines
  induction lines with
  | nil => rfl
  | cons l lines ih =>
      have hl := splitLinesFrom_append [] l (lines.flatMap (· ++ ['\n'])) (h l (by simp))
      rw [List.flatMap_cons, List.append_assoc]
      change splitLinesFrom [] (l ++ '\n' :: lines.flatMap (· ++ ['\n'])) = _
      rw [hl, ih fun m hm => h m (List.mem_cons_of_mem l hm)]
      rfl

theorem strip_of_forall {s : Text} (h : ∀ c ∈ s, isSpace c = false) : strip s = s := by
  have hleft : lstrip s = s := by
    cases s with
    | nil => rfl
    | cons c s => exact List.dropWhile_cons_of_neg (by simp [h c])
  rw [strip, hleft, rstrip, List.rdropWhile_eq_self_iff]
  exact fun hne => by simp [h _ (List.getLast_mem hne)]

theorem rstrip_append_singleton (s : Text) {c : Char} (hc : isSpace c = false) :
    rstrip (s ++ [c]) = s ++ [c] :=
  List.rdropWhile_concat_neg _ _ _ (by simp [hc])

theorem rstrip_append (head s : Text) {c : Char} (hc : isSpace c = false) :
    rstrip (head ++ [c] ++ s) = head ++ [c] ++ rstrip s := by
  induction s using List.reverseRecOn with
  | nil =>
      rw [List.append_nil]
      exact (List.rdropWhile_concat_neg isSpace head c (by simp [hc])).trans (List.append_nil _).symm
  | append_singleton s x ih =>
      rw [← List.append_assoc]
      unfold rstrip at *
      by_cases hx : isSpace x
      · rw [List.rdropWhile_concat_pos isSpace _ x hx, List.rdropWhile_concat_pos isSpace _ x hx, ih]
      · rw [List.rdropWhile_concat_neg isSpace _ x hx, List.rdropWhile_concat_neg isSpace _ x hx,
          List.append_assoc]

theorem splitWords_append_cons (before after : Text) {c : Char} (hc : isSpace c) :
    splitWords (before ++ c :: after) = splitWords before ++ splitWords after := by
  rw [splitWords, List.splitOnP_append_cons _ _ hc, List.filter_append]
  rfl

theorem splitWords_cons_space {c : Char} (hc : isSpace c) (s : Text) :
    splitWords (c :: s) = splitWords s := splitWords_append_cons [] s hc

theorem splitWords_concat_space {c : Char} (hc : isSpace c) (s : Text) :
    splitWords (s ++ [c]) = splitWords s := by
  rw [splitWords_append_cons s [] hc]
  exact List.append_nil _

theorem splitWords_lstrip (s : Text) : splitWords (lstrip s) = splitWords s := by
  induction s with
  | nil => rfl
  | cons c s ih =>
      unfold lstrip at ih ⊢
      by_cases hc : isSpace c
      · rw [List.dropWhile_cons_of_pos hc, ih, splitWords_cons_space hc]
      · rw [List.dropWhile_cons_of_neg hc]

theorem splitWords_rstrip (s : Text) : splitWords (rstrip s) = splitWords s := by
  induction s using List.reverseRecOn with
  | nil => rfl
  | append_singleton s c ih =>
      unfold rstrip at ih ⊢
      by_cases hc : isSpace c
      · rw [List.rdropWhile_concat_pos isSpace s c hc, ih, splitWords_concat_space hc]
      · rw [List.rdropWhile_concat_neg isSpace s c hc]

/-- Stripping loses no word. -/
theorem splitWords_strip (s : Text) : splitWords (strip s) = splitWords s := by
  rw [strip, splitWords_rstrip, splitWords_lstrip]

theorem physicalLines_eq_singleton {s : Text} (h : '\n' ∉ s) : physicalLines s = [s] :=
  List.splitOn_eq_singleton h

theorem newline_ne_hexDigit (d : ℕ) : '\n' ≠ hexDigit d := by
  have hsmall : ∀ d < 16, '\n' ≠ hexDigit d := by decide
  rcases Nat.lt_or_ge d 16 with hd | hd
  · exact hsmall d hd
  · have hstar : hexDigit d = '*' := by
      unfold hexDigit Nat.digitChar
      repeat rw [if_neg (by omega)]
    rw [hstar]
    decide

theorem physicalLines_append {head : Text} (h : '\n' ∉ head) (s : Text) :
    physicalLines (head ++ s) = (physicalLines s).modifyHead (head ++ ·) := by
  induction head with
  | nil =>
      change physicalLines s = (physicalLines s).modifyHead id
      rw [List.modifyHead_id]
      rfl
  | cons c head ih =>
      obtain ⟨hc, hhead⟩ := not_or.1 (mt List.mem_cons.2 h)
      unfold physicalLines at ih ⊢
      rw [List.cons_append, List.splitOn_cons_eq_if_modifyHead, if_neg (by simpa using Ne.symm hc),
        ih hhead, List.modifyHead_modifyHead]
      rfl

theorem infix_intercalate {sep line : Text} {lines : List Text} (h : line ∈ lines) :
    line <:+: sep.intercalate lines := by
  induction lines with
  | nil => cases h
  | cons first lines ih =>
      cases lines with
      | nil =>
          obtain rfl := List.mem_singleton.1 h
          simp [List.intercalate]
      | cons second lines =>
          rw [List.intercalate_cons_cons]
          rcases List.mem_cons.1 h with rfl | h
          · exact ⟨[], sep ++ sep.intercalate (second :: lines), by simp⟩
          · obtain ⟨before, after, hjoin⟩ := ih h
            exact ⟨first ++ sep ++ before, after, by rw [← hjoin]; simp⟩

theorem infix_of_mem_physicalLines {line s : Text} (h : line ∈ physicalLines s) : line <:+: s := by
  have hjoin : ['\n'].intercalate (physicalLines s) = s := List.intercalate_splitOn '\n'
  have hline : line <:+: ['\n'].intercalate (physicalLines s) := infix_intercalate h
  rwa [hjoin] at hline

theorem infix_append_cons {word before after : Text} {c : Char} (hc : c ∉ word)
    (h : word <:+: before ++ c :: after) : word <:+: before ∨ word <:+: after := by
  rcases List.infix_append_iff.1 h with h | h | ⟨first, second, rfl, hfirst, hsecond⟩
  · exact .inl h
  · rcases List.infix_cons_iff.1 h with h | h
    · rcases List.prefix_cons_iff.1 h with rfl | ⟨rest, rfl, -⟩
      · exact .inl List.nil_infix
      · exact absurd List.mem_cons_self hc
    · exact .inr h
  · rcases List.prefix_cons_iff.1 hsecond with rfl | ⟨rest, rfl, -⟩
    · rw [List.append_nil]
      exact .inl hfirst.isInfix
    · exact absurd (by simp) hc

theorem isPrefixOf?_append (needle s : Text) : needle.isPrefixOf? (needle ++ s) = some s := by
  induction needle with
  | nil => rfl
  | cons c cs ih => simp [List.isPrefixOf?, ih]

end PythonText
