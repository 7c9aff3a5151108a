import Mathlib.Data.List.DropRight
import Mathlib.Data.Nat.Cast.Order.Field
import Notetaker.FloatRounding

/-!
# `repr` of a float reads back

A decimal is read by its value, however its digits are laid out. `repr` writes the fewest digits that
read back; that seventeen digits always do makes its search end with some.
-/

open PythonText

namespace PythonFloat

/-! ## The value of a decimal -/

/-- What digits and an exponent stand for. -/
def decimalValue (digits : Text) (x : ℤ) : ℚ := Nat.ofDigitChars 10 digits 0 * 10 ^ x

theorem ofDigitChars_append_eq (s t : Text) : Nat.ofDigitChars 10 (s ++ t) 0 =
    10 ^ t.length * Nat.ofDigitChars 10 s 0 + Nat.ofDigitChars 10 t 0 := by
  rw [Nat.ofDigitChars_append, Nat.ofDigitChars_eq_ofDigitChars_zero]

theorem decimalValue_append_zeros (digits : Text) (n : ℕ) (x : ℤ) :
    decimalValue (digits ++ List.replicate n '0') x = decimalValue digits (x + n) := by
  unfold decimalValue
  rw [ofDigitChars_append_eq, Nat.ofDigitChars_replicate_zero, List.length_replicate, mul_zero,
    add_zero, zpow_add₀ (by norm_num), zpow_natCast]
  push_cast
  ring

theorem decimalValue_zeros_append (n : ℕ) (digits : Text) (x : ℤ) :
    decimalValue (List.replicate n '0' ++ digits) x = decimalValue digits x := by
  unfold decimalValue
  rw [ofDigitChars_append_eq, Nat.ofDigitChars_replicate_zero, mul_zero, mul_zero, zero_add]

theorem exists_decimalToDouble (digits : Text) (x : ℤ) : ∃ n d : ℕ, 0 < d ∧
    (n : ℚ) / d = decimalValue digits x ∧
      ∀ negative, decimalToDouble negative digits x = toDouble negative n d := by
  unfold decimalToDouble decimalValue
  dsimp only
  by_cases hx : 0 ≤ x
  · refine ⟨_, 1, Nat.one_pos, ?_, fun negative => if_pos hx⟩
    obtain ⟨k, rfl⟩ := Int.eq_ofNat_of_zero_le hx
    simp
  · refine ⟨_, _, by positivity, ?_, fun negative => if_neg hx⟩
    obtain ⟨k, hk⟩ := Int.exists_eq_neg_ofNat (show x ≤ 0 by omega)
    subst hk
    simp [div_eq_mul_inv]

theorem decimalToDouble_congr (negative : Bool) {digits digits' : Text} {x x' : ℤ}
    (h : decimalValue digits x = decimalValue digits' x') :
    decimalToDouble negative digits x = decimalToDouble negative digits' x' := by
  obtain ⟨n, d, hd, hvalue, hdouble⟩ := exists_decimalToDouble digits x
  obtain ⟨n', d', hd', hvalue', hdouble'⟩ := exists_decimalToDouble digits' x'
  rw [hdouble, hdouble']
  exact toDouble_congr negative hd hd' (hvalue.trans (h.trans hvalue'.symm))

theorem decimalToDouble_zero (x : ℤ) : decimalToDouble false ['0'] x = .finite 0 := by
  have hvalue : decimalValue ['0'] x = decimalValue ['0'] 0 := by
    unfold decimalValue
    rw [show Nat.ofDigitChars 10 ['0'] 0 = 0 by decide, Nat.cast_zero, zero_mul, zero_mul]
  exact decimalToDouble_congr false hvalue

theorem isDouble_of_decimalToDouble {negative : Bool} {digits : Text} {x : ℤ} {q : ℚ}
    (h : decimalToDouble negative digits x = .finite q) : IsDouble q := by
  obtain ⟨n, d, hd, -, hdouble⟩ := exists_decimalToDouble digits x
  rw [hdouble] at h
  exact isDouble_of_toDouble negative hd h

theorem decimalToDouble_of_near (negative : Bool) {digits : Text} {x : ℤ} {q : ℚ} (hq : IsDouble q)
    (hpos : 0 < q) (hnear : |decimalValue digits x - q| < q / 2 ^ 54) :
    decimalToDouble negative digits x = .finite (if negative then -q else q) := by
  obtain ⟨n, d, hd, hvalue, hdouble⟩ := exists_decimalToDouble digits x
  rw [← hvalue] at hnear
  rw [hdouble]
  rcases Nat.eq_zero_or_pos n with rfl | hn
  · rw [Nat.cast_zero, zero_div, zero_sub, abs_neg, abs_of_pos hpos] at hnear
    have hle : q / 2 ^ 54 ≤ q := div_le_self hpos.le (by norm_num)
    exact absurd hnear (not_lt.2 hle)
  · exact toDouble_of_near negative hn hd hq hpos hnear

theorem decimalToDouble_neg {digits : Text} {x : ℤ} {q : ℚ}
    (h : decimalToDouble false digits x = .finite q) :
    decimalToDouble true digits x = .finite (-q) := by
  obtain ⟨n, d, hd, -, hdouble⟩ := exists_decimalToDouble digits x
  rw [hdouble] at h ⊢
  rcases Nat.eq_zero_or_pos n with rfl | hn
  · obtain rfl : 0 = q := PyFloat.finite.inj h
    rfl
  · rw [toDouble_eq _ hn] at h ⊢
    by_cases hinf : 1024 ≤ (Nat.log2 (significand n d) : ℤ) + lastPlace n d
    · rw [if_pos hinf] at h
      cases h
    · rw [if_neg hinf, if_neg Bool.false_ne_true] at h
      rw [if_neg hinf, if_pos rfl, PyFloat.finite.inj h]

/-! ## The shortest digits -/

theorem lt_pow_length_natText (n : ℕ) : n < 10 ^ (natText n).length :=
  (Nat.length_toDigits_le_iff (by decide) Nat.length_toDigits_pos).1 le_rfl

theorem pow_length_natText_le {n : ℕ} (hn : 0 < n) : 10 ^ ((natText n).length - 1) ≤ n := by
  rcases Nat.eq_zero_or_pos ((natText n).length - 1) with hone | hmore
  · rw [hone, pow_zero]
    exact hn
  · by_contra! hlt
    have hlength : (natText n).length ≤ (natText n).length - 1 :=
      (Nat.length_toDigits_le_iff (by decide) hmore).2 hlt
    omega

/-- The decimal point of a fraction is not placed too far to the right. -/
theorem zpow_decimalPoint_le {n d : ℕ} (hn : 0 < n) (hd : 0 < d) :
    (10 : ℚ) ^ (decimalPoint n d - 1) ≤ n / d := by
  have hdq : (0 : ℚ) < d := by exact_mod_cast hd
  unfold decimalPoint
  split_ifs with hle
  · have hlength := pow_length_natText_le (Nat.div_pos hle hd)
    have hpos : 0 < (natText (n / d)).length := List.length_pos_iff.2 (natText_ne_nil _)
    have hexp : ((natText (n / d)).length : ℤ) - 1 = ((natText (n / d)).length - 1 : ℕ) := by omega
    rw [hexp, zpow_natCast]
    calc (10 : ℚ) ^ ((natText (n / d)).length - 1) ≤ (n / d : ℕ) := by exact_mod_cast hlength
      _ ≤ n / d := Nat.cast_div_le
  · -- The fraction is below one, and its inverse is rounded up.
    set c := (d + n - 1) / n - 1 with hc
    have hceil : d ≤ n * (c + 1) := by
      have hdiv := Nat.div_add_mod (d + n - 1) n
      have hmod := Nat.mod_lt (d + n - 1) hn
      have hone : 1 ≤ (d + n - 1) / n := (Nat.one_le_div_iff hn).2 (by omega)
      have hsucc : c + 1 = (d + n - 1) / n := by omega
      rw [hsucc]
      omega
    have hlt := lt_pow_length_natText c
    have hbound : d ≤ n * 10 ^ (natText c).length := hceil.trans (Nat.mul_le_mul_left n hlt)
    have hexp : (1 : ℤ) - (natText c).length - 1 = -((natText c).length : ℤ) := by omega
    rw [hexp, zpow_neg, zpow_natCast, le_div_iff₀ hdq, inv_mul_le_iff₀ (by positivity), mul_comm]
    exact_mod_cast hbound

theorem abs_decimalValue_leadingDigits_le (n : ℕ) {d : ℕ} (hd : 0 < d) (k : ℤ) (p : ℕ) :
    |decimalValue (natText (leadingDigits n d k p)) (k - p) - n / d| ≤ 10 ^ (k - p) / 2 := by
  have hpow : (0 : ℚ) < 10 ^ (k - p) := by positivity
  have hscaled : |(n : ℚ) / d / 10 ^ (k - p) - leadingDigits n d k p| ≤ 1 / 2 := by
    unfold leadingDigits
    split_ifs with hk
    · obtain ⟨j, hj⟩ := Int.exists_eq_neg_ofNat (show k - p ≤ 0 by omega)
      have hround := abs_sub_roundHalfEven_le (n * 10 ^ j) hd
      have hexp : ((p : ℤ) - k).toNat = j := by omega
      rw [hexp, hj, zpow_neg, zpow_natCast, div_inv_eq_mul]
      rwa [Nat.cast_mul, Nat.cast_pow, mul_div_right_comm] at hround
    · obtain ⟨j, hj⟩ := Int.eq_ofNat_of_zero_le (show 0 ≤ k - p by omega)
      have hround := abs_sub_roundHalfEven_le n (show 0 < d * 10 ^ j by positivity)
      have hexp : (k - p).toNat = j := by omega
      rw [hexp, hj, zpow_natCast, div_div]
      rwa [Nat.cast_mul, Nat.cast_pow] at hround
  have hsplit : decimalValue (natText (leadingDigits n d k p)) (k - p) - n / d =
      -((n : ℚ) / d / 10 ^ (k - p) - leadingDigits n d k p) * 10 ^ (k - p) := by
    rw [decimalValue, ofDigitChars_natText]
    field_simp
    ring
  rw [hsplit, abs_mul, abs_neg, abs_of_pos hpow]
  calc _ ≤ 1 / 2 * (10 : ℚ) ^ (k - p) := mul_le_mul_of_nonneg_right hscaled hpow.le
    _ = _ := by ring

theorem natAbs_num_div_den {q : ℚ} (hq : 0 ≤ q) : ((q.num.natAbs : ℕ) : ℚ) / q.den = q := by
  have habs : ((q.num.natAbs : ℕ) : ℤ) = q.num := Int.natAbs_of_nonneg (Rat.num_nonneg.2 hq)
  rw [← Int.cast_natCast q.num.natAbs, habs]
  exact Rat.num_div_den q

/-- Seventeen digits read back, and fewer are only taken if they do. -/
theorem decimalToDouble_shortestDigits {q : ℚ} (hq : IsDouble q) (hpos : 0 < q) {k : ℤ}
    (hk : (10 : ℚ) ^ (k - 1) ≤ q) (fuel p : ℕ) (hp : p + fuel = 17) :
    decimalToDouble false (natText (shortestDigits q k fuel p).1) (shortestDigits q k fuel p).2 =
      .finite q := by
  induction fuel generalizing p with
  | zero =>
      obtain rfl : p = 17 := hp
      apply decimalToDouble_of_near false hq hpos
      have hclose := abs_decimalValue_leadingDigits_le q.num.natAbs q.den_pos k 17
      rw [natAbs_num_div_den hpos.le] at hclose
      refine hclose.trans_lt ?_
      have hscale : (10 : ℚ) ^ (k - (17 : ℕ)) = 10 ^ (k - 1) / 10 ^ 16 := by
        rw [show k - (17 : ℕ) = k - 1 - (16 : ℕ) by omega, zpow_sub₀ (by norm_num), zpow_natCast]
      rw [hscale]
      linarith
  | succ fuel ih =>
      unfold shortestDigits
      dsimp only
      split_ifs with hreads
      · exact hreads
      · exact ih (p + 1) (by omega)

/-! ## The layout of a literal -/

def fractionPart (fraction : Text) : Text := if fraction = [] then [] else '.' :: fraction

def exponentPart : Option ℤ → Text
  | none => []
  | some x => 'e' :: exponentText x

theorem span_isDigit {digits rest : Text} (hdigits : ∀ c ∈ digits, c.isDigit)
    (hrest : ∀ c ∈ rest.head?, c.isDigit = false) :
    (digits ++ rest).takeWhile Char.isDigit = digits ∧ (digits ++ rest).dropWhile Char.isDigit = rest := by
  rw [List.takeWhile_append_of_pos hdigits, List.dropWhile_append_of_pos hdigits]
  cases rest with
  | nil => simp
  | cons c rest =>
      have hc : c.isDigit = false := hrest c rfl
      rw [List.takeWhile_cons_of_neg (by simp [hc]), List.dropWhile_cons_of_neg (by simp [hc])]
      simp

theorem head?_exponentPart (x : Option ℤ) : ∀ c ∈ (exponentPart x).head?, c.isDigit = false := by
  cases x with
  | none => simp [exponentPart]
  | some x =>
      intro c hc
      obtain rfl : 'e' = c := Option.some.inj hc
      decide

theorem head?_fractionPart (fraction : Text) (x : Option ℤ) :
    ∀ c ∈ (fractionPart fraction ++ exponentPart x).head?, c.isDigit = false := by
  unfold fractionPart
  split_ifs
  · exact head?_exponentPart x
  · intro c hc
    obtain rfl : '.' = c := Option.some.inj hc
    decide

def exponentDigits (x : ℤ) : Text :=
  if (natText x.natAbs).length < 2 then '0' :: natText x.natAbs else natText x.natAbs

theorem exponentText_eq (x : ℤ) :
    exponentText x = (if x < 0 then '-' else '+') :: exponentDigits x := rfl

theorem isDigit_of_mem_exponentDigits {x : ℤ} {c : Char} (h : c ∈ exponentDigits x) : c.isDigit := by
  unfold exponentDigits at h
  split_ifs at h
  · rcases List.mem_cons.1 h with rfl | h
    · decide
    · exact isDigit_of_mem_natText h
  · exact isDigit_of_mem_natText h

theorem exponentDigits_ne_nil (x : ℤ) : exponentDigits x ≠ [] := by
  unfold exponentDigits
  split_ifs
  · exact List.cons_ne_nil _ _
  · exact natText_ne_nil _

theorem ofDigitChars_exponentDigits (x : ℤ) :
    Nat.ofDigitChars 10 (exponentDigits x) 0 = x.natAbs := by
  unfold exponentDigits
  split_ifs
  · rw [Nat.ofDigitChars_cons]
    exact ofDigitChars_natText _
  · exact ofDigitChars_natText _

def splitFraction : Text → Text × Text
  | '.' :: cs => (cs.takeWhile Char.isDigit, cs.dropWhile Char.isDigit)
  | cs => ([], cs)

def splitSign : Text → Bool × Text
  | '+' :: ds => (false, ds)
  | '-' :: ds => (true, ds)
  | ds => (false, ds)

/-- What `decimalLiteral` does behind the digits. -/
def readExponent (negative : Bool) (digits : Text) (scale : ℤ) : Text → Option PyFloat
  | [] => some (decimalToDouble negative digits scale)
  | c :: cs =>
      if c = 'e' ∨ c = 'E' then
        if (splitSign cs).2 ≠ [] ∧ (splitSign cs).2.all Char.isDigit then
          some (decimalToDouble negative digits (scale +
            if (splitSign cs).1 then -(Nat.ofDigitChars 10 (splitSign cs).2 0 : ℤ)
            else Nat.ofDigitChars 10 (splitSign cs).2 0))
        else none
      else none

theorem decimalLiteral_eq (negative : Bool) (s : Text) : decimalLiteral negative s =
    if s.takeWhile Char.isDigit ++ (splitFraction (s.dropWhile Char.isDigit)).1 = [] then none
    else readExponent negative
      (s.takeWhile Char.isDigit ++ (splitFraction (s.dropWhile Char.isDigit)).1)
      (-((splitFraction (s.dropWhile Char.isDigit)).1.length : ℤ))
      (splitFraction (s.dropWhile Char.isDigit)).2 := rfl

theorem readExponent_cons (negative : Bool) (digits : Text) (scale : ℤ) (cs : Text) :
    readExponent negative digits scale ('e' :: cs) =
      if (splitSign cs).2 ≠ [] ∧ (splitSign cs).2.all Char.isDigit then
        some (decimalToDouble negative digits (scale +
          if (splitSign cs).1 then -(Nat.ofDigitChars 10 (splitSign cs).2 0 : ℤ)
          else Nat.ofDigitChars 10 (splitSign cs).2 0))
      else none := by
  unfold readExponent
  dsimp only
  rw [if_pos (Or.inl rfl)]

theorem readExponent_exponentPart (negative : Bool) (digits : Text) (scale : ℤ) (x : Option ℤ) :
    readExponent negative digits scale (exponentPart x) =
      some (decimalToDouble negative digits (scale + x.getD 0)) := by
  cases x with
  | none => exact congrArg (fun y => some (decimalToDouble negative digits y)) (add_zero scale).symm
  | some x =>
      have hsign : splitSign (exponentText x) = (decide (x < 0), exponentDigits x) := by
        rw [exponentText_eq]
        by_cases hx : x < 0
        · rw [if_pos hx, decide_eq_true hx]
          rfl
        · rw [if_neg hx, decide_eq_false hx]
          rfl
      have hgood : exponentDigits x ≠ [] ∧ (exponentDigits x).all Char.isDigit :=
        ⟨exponentDigits_ne_nil x, List.all_eq_true.2 fun _ => isDigit_of_mem_exponentDigits⟩
      have hvalue : (if decide (x < 0) = true then -(x.natAbs : ℤ) else x.natAbs) = x := by
        split_ifs with hx
        · have := of_decide_eq_true hx
          omega
        · have := of_decide_eq_false ((Bool.not_eq_true _).mp hx)
          omega
      rw [exponentPart, readExponent_cons, hsign]
      dsimp only
      rw [if_pos hgood, ofDigitChars_exponentDigits, hvalue, Option.getD_some]

theorem decimalLiteral_layout (negative : Bool) {whole fraction : Text} (hwhole : whole ≠ [])
    (hdigits : ∀ c ∈ whole, c.isDigit) (hfraction : ∀ c ∈ fraction, c.isDigit) (x : Option ℤ) :
    decimalLiteral negative (whole ++ (fractionPart fraction ++ exponentPart x)) =
      some (decimalToDouble negative (whole ++ fraction) (-fraction.length + x.getD 0)) := by
  obtain ⟨htake, hdrop⟩ := span_isDigit hdigits (head?_fractionPart fraction x)
  obtain ⟨htake', hdrop'⟩ := span_isDigit hfraction (head?_exponentPart x)
  have hsplit : splitFraction (fractionPart fraction ++ exponentPart x) =
      (fraction, exponentPart x) := by
    unfold fractionPart
    split_ifs with hempty
    · subst hempty
      cases x <;> rfl
    · exact Prod.ext htake' hdrop'
  rw [decimalLiteral_eq, htake, hdrop, hsplit,
    if_neg (List.append_ne_nil_of_left_ne_nil hwhole fraction), readExponent_exponentPart]

/-- A literal with a fraction or an exponent, and with no zero in front of further digits. -/
structure FloatLayout (s whole fraction : Text) (x : Option ℤ) : Prop where
  text : s = whole ++ (fractionPart fraction ++ exponentPart x)
  ne_nil : whole ≠ []
  whole_digits : ∀ c ∈ whole, c.isDigit
  fraction_digits : ∀ c ∈ fraction, c.isDigit
  leading : whole.head? = some '0' → whole = ['0']
  float : fraction ≠ [] ∨ x ≠ none

def layoutValue (whole fraction : Text) (x : Option ℤ) : ℚ :=
  decimalValue (whole ++ fraction) (-fraction.length + x.getD 0)

theorem isDigit_of_mem_zeros {n : ℕ} {c : Char} (h : c ∈ List.replicate n '0') : c.isDigit := by
  rw [List.eq_of_mem_replicate h]
  decide

theorem exists_layout_placePoint {digits : Text} (hne : digits ≠ []) (hdigits : ∀ c ∈ digits, c.isDigit)
    (hhead : digits.head? ≠ some '0') (k : ℤ) : ∃ whole fraction x,
      FloatLayout (placePoint digits k) whole fraction x ∧
        layoutValue whole fraction x = decimalValue digits (k - digits.length) := by
  have hlength : 0 < digits.length := List.length_pos_iff.2 hne
  unfold placePoint layoutValue
  by_cases hfar : k ≤ -4 ∨ 16 < k
  · rw [if_pos hfar]
    refine ⟨digits.take 1, digits.drop 1, some (k - 1), ⟨?_, ?_, ?_, ?_, ?_, .inr (by simp)⟩, ?_⟩
    · have hdrop : digits.length ≤ 1 ↔ digits.drop 1 = [] := List.drop_eq_nil_iff.symm
      unfold fractionPart exponentPart
      rw [List.append_assoc]
      simp only [hdrop]
    · simp [hne]
    · exact fun c hc => hdigits c (List.mem_of_mem_take hc)
    · exact fun c hc => hdigits c (List.mem_of_mem_drop hc)
    · intro hzero
      rw [List.head?_take, if_neg one_ne_zero] at hzero
      exact absurd hzero hhead
    · rw [List.take_append_drop, List.length_drop, Option.getD_some]
      congr 1
      omega
  rw [if_neg hfar]
  by_cases hsmall : k ≤ 0
  · rw [if_pos hsmall]
    refine ⟨['0'], List.replicate (-k).toNat '0' ++ digits, none, ⟨?_, ?_, ?_, ?_, ?_, .inl ?_⟩, ?_⟩
    · simp [fractionPart, exponentPart, hne]
    · exact List.cons_ne_nil _ _
    · simp
    · intro c hc
      rcases List.mem_append.1 hc with hc | hc
      · exact isDigit_of_mem_zeros hc
      · exact hdigits c hc
    · exact fun _ => rfl
    · simp [hne]
    · have hzeros : ['0'] ++ (List.replicate (-k).toNat '0' ++ digits) =
          List.replicate ((-k).toNat + 1) '0' ++ digits := by
        rw [List.replicate_succ]
        rfl
      rw [hzeros, decimalValue_zeros_append, List.length_append, List.length_replicate,
        Option.getD_none]
      congr 1
      push_cast
      omega
  rw [if_neg hsmall]
  by_cases hwhole : (digits.length : ℤ) ≤ k
  · rw [if_pos hwhole]
    refine ⟨digits ++ List.replicate (k.toNat - digits.length) '0', ['0'], none,
      ⟨?_, ?_, ?_, ?_, ?_, .inl (List.cons_ne_nil _ _)⟩, ?_⟩
    · simp [fractionPart, exponentPart]
    · exact List.append_ne_nil_of_left_ne_nil hne _
    · intro c hc
      rcases List.mem_append.1 hc with hc | hc
      · exact hdigits c hc
      · exact isDigit_of_mem_zeros hc
    · simp
    · intro hzero
      rw [List.head?_append_of_ne_nil _ hne] at hzero
      exact absurd hzero hhead
    · have hzeros : digits ++ List.replicate (k.toNat - digits.length) '0' ++ ['0'] =
          digits ++ List.replicate (k.toNat - digits.length + 1) '0' := by
        rw [List.replicate_succ', List.append_assoc]
      rw [hzeros, decimalValue_append_zeros, Option.getD_none, List.length_singleton]
      congr 1
      push_cast
      omega
  · rw [if_neg hwhole]
    have hk : k.toNat < digits.length := by omega
    refine ⟨digits.take k.toNat, digits.drop k.toNat, none, ⟨?_, ?_, ?_, ?_, ?_, .inl ?_⟩, ?_⟩
    · simp [fractionPart, exponentPart, hk]
    · have hpos : k.toNat ≠ 0 := by omega
      simp [hne, hpos]
    · exact fun c hc => hdigits c (List.mem_of_mem_take hc)
    · exact fun c hc => hdigits c (List.mem_of_mem_drop hc)
    · intro hzero
      rw [List.head?_take, if_neg (by omega)] at hzero
      exact absurd hzero hhead
    · simp [hk]
    · rw [List.take_append_drop, List.length_drop, Option.getD_none]
      congr 1
      omega

theorem exists_rdropWhile_zeros (s : Text) :
    ∃ n, s = s.rdropWhile (· = '0') ++ List.replicate n '0' := by
  refine ⟨(s.rtakeWhile (· = '0')).length, ?_⟩
  have hzeros : s.rtakeWhile (· = '0') = List.replicate (s.rtakeWhile (· = '0')).length '0' := by
    apply List.eq_replicate_of_mem
    intro c hc
    have hzero := List.mem_rtakeWhile_imp hc
    exact of_decide_eq_true hzero
  rw [← hzeros, List.rdropWhile_append_rtakeWhile]

/-- `repr` of a value of the format reads back as that value. -/
theorem exists_layout_reprFloat {q : ℚ} (hq : IsDouble q) (hpos : 0 ≤ q) : ∃ whole fraction x,
    FloatLayout (reprFloat q) whole fraction x ∧
      decimalToDouble false (whole ++ fraction) (-fraction.length + x.getD 0) = .finite q := by
  unfold reprFloat
  by_cases hzero : q = 0
  · subst hzero
    refine ⟨['0'], ['0'], none, ?_, by decide⟩
    rw [if_pos rfl]
    exact ⟨rfl, by decide, forall_mem_of_all (by decide), forall_mem_of_all (by decide), fun _ => rfl,
      .inl (by decide)⟩
  rw [if_neg hzero]
  have hlt : 0 < q := lt_of_le_of_ne hpos (Ne.symm hzero)
  have hnat : 0 < q.num.natAbs := Int.natAbs_pos.2 (Rat.num_ne_zero.2 hzero)
  have hpoint : (10 : ℚ) ^ (decimalPoint q.num.natAbs q.den - 1) ≤ q := by
    have h := zpow_decimalPoint_le hnat q.den_pos
    rwa [natAbs_num_div_den hpos] at h
  have hreads := decimalToDouble_shortestDigits hq hlt hpoint 16 1 rfl
  generalize shortestDigits q (decimalPoint q.num.natAbs q.den) 16 1 = found at hreads ⊢
  obtain ⟨n, e⟩ := found
  dsimp only at hreads ⊢
  have hhead : (natText n).head? ≠ some '0' := by
    intro h
    rw [head?_natText n h] at hreads
    exact hzero (PyFloat.finite.inj ((decimalToDouble_zero e).symm.trans hreads)).symm
  obtain ⟨zeros, hsplit⟩ := exists_rdropWhile_zeros (natText n)
  set digits := (natText n).rdropWhile (· = '0') with hdigits
  have hne : digits ≠ [] := by
    intro hempty
    rw [hempty, List.nil_append] at hsplit
    cases zeros with
    | zero => exact natText_ne_nil n hsplit
    | succ zeros =>
        rw [hsplit] at hhead
        exact hhead rfl
  have hhead' : digits.head? ≠ some '0' := by
    rwa [hsplit, List.head?_append_of_ne_nil _ hne] at hhead
  have hisDigit : ∀ c ∈ digits, c.isDigit := fun c hc =>
    isDigit_of_mem_natText ((List.rdropWhile_prefix _ _).subset hc)
  obtain ⟨whole, fraction, x, hlayout, hvalue⟩ :=
    exists_layout_placePoint hne hisDigit hhead' ((natText n).length + e)
  refine ⟨whole, fraction, x, hlayout, ?_⟩
  rw [← hreads]
  apply decimalToDouble_congr
  change layoutValue whole fraction x = _
  rw [hvalue]
  conv_rhs => rw [hsplit]
  rw [decimalValue_append_zeros]
  congr 1
  have hlength : (natText n).length = digits.length + zeros := by
    conv_lhs => rw [hsplit]
    rw [List.length_append, List.length_replicate]
  omega

end PythonFloat
