import Mathlib.Algebra.Group.Int.Defs
import Mathlib.Algebra.Group.Nat.Defs
import Mathlib.Data.Rat.Init
import Mathlib.Data.Nat.Log
import Notetaker.PythonText

/-!
# Python floats read from text

A finite float is the rational number it denotes. `toDouble` rounds a nonnegative fraction to the
nearest binary64 value, ties to even, and `pyFloat` is the constructor `float(s)`: surrounding white
space, a sign, underscores between digits, the decimal digits of every script, an exponent, and the
spellings of infinity and NaN. The sign of zero is not kept.
-/

open PythonText

namespace PythonFloat

inductive PyFloat where
  | nan
  | inf (negative : Bool)
  | finite (q : ℚ)
  deriving DecidableEq

/-- `math.isfinite`. -/
def PyFloat.isFinite : PyFloat → Bool
  | .finite _ => true
  | _ => false

/-- `x <= y`; a `nan` compares with nothing. -/
def FloatLe : PyFloat → PyFloat → Prop
  | .nan, _ => False
  | _, .nan => False
  | .finite p, .finite q => p ≤ q
  | .inf true, _ => True
  | _, .inf false => True
  | _, _ => False

theorem FloatLe.trans {x y z : PyFloat} (hxy : FloatLe x y) (hyz : FloatLe y z) : FloatLe x z := by
  cases x with
  | nan => cases hxy
  | inf negative =>
      cases negative with
      | true =>
          cases z with
          | nan => cases y <;> cases hyz
          | _ => trivial
      | false =>
          cases y with
          | nan => cases hxy
          | finite q => cases hxy
          | inf negative =>
              cases negative with
              | true => cases hxy
              | false => exact hyz
  | finite p =>
      cases y with
      | nan => cases hxy
      | finite q =>
          cases z with
          | nan => cases hyz
          | finite r => exact Rat.le_trans hxy hyz
          | inf negative =>
              cases negative with
              | true => cases hyz
              | false => trivial
      | inf negative =>
          cases negative with
          | true => cases hxy
          | false =>
              cases z with
              | nan => cases hyz
              | finite r => cases hyz
              | inf negative =>
                  cases negative with
                  | true => cases hyz
                  | false => trivial

def roundHalfEven (n d : ℕ) : ℕ :=
  let q := n / d
  let r := n % d
  if 2 * r < d then q else if d < 2 * r then q + 1 else if q % 2 = 0 then q else q + 1

/-- The exponent `k` with `2 ^ k ≤ n / d < 2 ^ (k + 1)`, for positive `n` and `d`. -/
def binaryExponent (n d : ℕ) : ℤ :=
  let k : ℤ := (Nat.log2 n : ℤ) - Nat.log2 d
  let below := if 0 ≤ k then n < d * 2 ^ k.toNat else n * 2 ^ (-k).toNat < d
  if below then k - 1 else k

def toDouble (negative : Bool) (n d : ℕ) : PyFloat :=
  if n = 0 then .finite 0
  else
    let e := max (binaryExponent n d - 52) (-1074)
    let m := if 0 ≤ e then roundHalfEven n (d * 2 ^ e.toNat) else roundHalfEven (n * 2 ^ (-e).toNat) d
    if 1024 ≤ (Nat.log2 m : ℤ) + e then .inf negative
    else
      let q : ℚ := mkRat (m * 2 ^ e.toNat) (2 ^ (-e).toNat)
      .finite (if negative then -q else q)

def decimalToDouble (negative : Bool) (digits : Text) (exponent : ℤ) : PyFloat :=
  let n := Nat.ofDigitChars 10 digits 0
  if 0 ≤ exponent then toDouble negative (n * 10 ^ exponent.toNat) 1
  else toDouble negative n (10 ^ (-exponent).toNat)

/-- Digits of every script become ASCII digits, as `float` and `int` do first. -/
def toAsciiDigit (c : Char) : Char := ((digitValue c).map Nat.digitChar).getD c

/-- Underscores are allowed between two digits only, and are then dropped. -/
def dropUnderscores : Bool → Text → Option Text
  | _, [] => some []
  | afterDigit, '_' :: c :: cs =>
      if afterDigit ∧ c.isDigit then (dropUnderscores true cs).map (c :: ·) else none
  | _, '_' :: [] => none
  | _, c :: cs => (dropUnderscores c.isDigit cs).map (c :: ·)

/-- An unsigned decimal literal: digits, an optional fraction, an optional exponent. -/
def decimalLiteral (negative : Bool) (s : Text) : Option PyFloat :=
  let whole := s.takeWhile Char.isDigit
  let afterWhole := s.dropWhile Char.isDigit
  let (fraction, afterFraction) := match afterWhole with
    | '.' :: cs => (cs.takeWhile Char.isDigit, cs.dropWhile Char.isDigit)
    | cs => ([], cs)
  let digits := whole ++ fraction
  let scale : ℤ := -(fraction.length : ℤ)
  if digits = [] then none
  else match afterFraction with
    | [] => some (decimalToDouble negative digits scale)
    | c :: cs =>
      if c = 'e' ∨ c = 'E' then
        let (exponentNegative, exponent) := match cs with
          | '+' :: ds => (false, ds)
          | '-' :: ds => (true, ds)
          | ds => (false, ds)
        if exponent ≠ [] ∧ exponent.all Char.isDigit then
          let k : ℤ := Nat.ofDigitChars 10 exponent 0
          some (decimalToDouble negative digits (scale + if exponentNegative then -k else k))
        else none
      else none

def unsignedFloat (negative : Bool) (s : Text) : Option PyFloat :=
  let lower := s.map Char.toLower
  if lower = "inf".toList ∨ lower = "infinity".toList then some (.inf negative)
  else if lower = "nan".toList then some .nan
  else (dropUnderscores false s).bind (decimalLiteral negative)

/-- `float(s)`; `none` is the `ValueError`. -/
def pyFloat (s : Text) : Option PyFloat :=
  match (strip s).map toAsciiDigit with
  | '+' :: cs => unsignedFloat false cs
  | '-' :: cs => unsignedFloat true cs
  | cs => unsignedFloat false cs

/-! ## Writing a float -/

def decimalPoint (n d : ℕ) : ℤ :=
  if d ≤ n then (natText (n / d)).length else 1 - (natText ((d + n - 1) / n - 1)).length

def leadingDigits (n d : ℕ) (k : ℤ) (p : ℕ) : ℕ :=
  if k ≤ p then roundHalfEven (n * 10 ^ (p - k).toNat) d
  else roundHalfEven n (d * 10 ^ (k - p).toNat)

/-- The fewest digits, from `p` on, that read back as `q`; seventeen always do. -/
def shortestDigits (q : ℚ) (k : ℤ) : ℕ → ℕ → ℕ × ℤ
  | 0, p => (leadingDigits q.num.natAbs q.den k p, k - p)
  | fuel + 1, p =>
      let digits := leadingDigits q.num.natAbs q.den k p
      if decimalToDouble false (natText digits) (k - p) = .finite q then (digits, k - p)
      else shortestDigits q k fuel (p + 1)

def exponentText (x : ℤ) : Text :=
  let digits := natText x.natAbs
  (if x < 0 then '-' else '+') :: (if digits.length < 2 then '0' :: digits else digits)

/-- Digits with the decimal point at `k`, in fixed notation when that is short. -/
def placePoint (digits : Text) (k : ℤ) : Text :=
  if k ≤ -4 ∨ 16 < k then
    digits.take 1 ++ (if digits.length ≤ 1 then [] else '.' :: digits.drop 1) ++
      'e' :: exponentText (k - 1)
  else if k ≤ 0 then '0' :: '.' :: (List.replicate (-k).toNat '0' ++ digits)
  else if digits.length ≤ k then
    digits ++ List.replicate (k.toNat - digits.length) '0' ++ ['.', '0']
  else digits.take k.toNat ++ '.' :: digits.drop k.toNat

/-- `repr` of a nonnegative finite float. -/
def reprFloat (q : ℚ) : Text :=
  if q = 0 then ['0', '.', '0']
  else
    let (digits, e) := shortestDigits q (decimalPoint q.num.natAbs q.den) 16 1
    let text := natText digits
    placePoint (text.rdropWhile (· = '0')) (text.length + e)

def FloatChar (c : Char) : Prop := c.isDigit ∨ c ∈ ".e+-".toList

theorem floatChar_of_mem_exponentText {x : ℤ} {c : Char} (h : c ∈ exponentText x) :
    FloatChar c := by
  rw [exponentText] at h
  rcases List.mem_cons.1 h with rfl | h
  · right
    split <;> decide
  · left
    split at h
    · rcases List.mem_cons.1 h with rfl | h
      · decide
      · exact isDigit_of_mem_natText h
    · exact isDigit_of_mem_natText h

theorem floatChar_of_mem_placePoint {digits : Text} (hdigits : ∀ c ∈ digits, c.isDigit) {k : ℤ}
    {c : Char} (h : c ∈ placePoint digits k) : FloatChar c := by
  have hdigit : ∀ {c}, c ∈ digits → FloatChar c := fun hc => .inl (hdigits _ hc)
  have hzero : FloatChar '0' := .inl (by decide)
  have hpoint : FloatChar '.' := .inr (by decide)
  unfold placePoint at h
  split_ifs at h
  · rcases List.mem_append.1 h with h | h
    · exact hdigit (List.mem_of_mem_take (by simpa using h))
    · rcases List.mem_cons.1 h with rfl | h
      · exact .inr (by decide)
      · exact floatChar_of_mem_exponentText h
  · rcases List.mem_append.1 h with h | h
    · rcases List.mem_append.1 h with h | h
      · exact hdigit (List.mem_of_mem_take h)
      · rcases List.mem_cons.1 h with rfl | h
        · exact hpoint
        · exact hdigit (List.mem_of_mem_drop h)
    · rcases List.mem_cons.1 h with rfl | h
      · exact .inr (by decide)
      · exact floatChar_of_mem_exponentText h
  · rcases List.mem_cons.1 h with rfl | h
    · exact hzero
    · rcases List.mem_cons.1 h with rfl | h
      · exact hpoint
      · rcases List.mem_append.1 h with h | h
        · exact (List.eq_of_mem_replicate h).symm ▸ hzero
        · exact hdigit h
  · rcases List.mem_append.1 h with h | h
    · rcases List.mem_append.1 h with h | h
      · exact hdigit h
      · exact (List.eq_of_mem_replicate h).symm ▸ hzero
    · rcases List.mem_cons.1 h with rfl | h
      · exact hpoint
      · obtain rfl := List.mem_singleton.1 h
        exact hzero
  · rcases List.mem_append.1 h with h | h
    · exact hdigit (List.mem_of_mem_take h)
    · rcases List.mem_cons.1 h with rfl | h
      · exact hpoint
      · exact hdigit (List.mem_of_mem_drop h)

theorem floatChar_of_mem_reprFloat {q : ℚ} {c : Char} (h : c ∈ reprFloat q) : FloatChar c := by
  unfold reprFloat at h
  split_ifs at h
  · simp only [List.mem_cons, List.not_mem_nil, or_false] at h
    rcases h with rfl | rfl | rfl
    · exact .inl (by decide)
    · exact .inr (by decide)
    · exact .inl (by decide)
  · refine floatChar_of_mem_placePoint ?_ h
    intro x hx
    exact isDigit_of_mem_natText ((List.rdropWhile_prefix _ _).subset hx)

theorem notMem_reprFloat {q : ℚ} {c : Char} (hc : ¬ FloatChar c) : c ∉ reprFloat q :=
  fun h => hc (floatChar_of_mem_reprFloat h)

end PythonFloat
