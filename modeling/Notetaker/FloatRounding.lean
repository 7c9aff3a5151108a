import Mathlib.Algebra.Order.Field.Power
import Mathlib.Algebra.Order.Field.Rat
import Mathlib.Tactic.FieldSimp
import Mathlib.Tactic.Linarith
import Mathlib.Tactic.NormNum
import Mathlib.Tactic.Positivity
import Mathlib.Tactic.Ring
import Notetaker.PythonFloat

/-!
# Rounding to binary64

`toDouble` is the nearest binary64 value: what it returns is one, it depends on the fraction alone, and
a fraction that is closer to a value `q` than `q / 2 ^ 54` rounds to `q`. That last distance is half the
gap below a power of two, the narrowest gap there is in proportion.
-/

open PythonText

namespace PythonFloat

/-! ## Rounding to an integer -/

section RoundHalfEven

variable {n d : ℕ}

theorem two_mul_abs_sub_roundHalfEven_le (n : ℕ) (hd : 0 < d) :
    2 * |(n : ℤ) - roundHalfEven n d * d| ≤ d := by
  have hn : (d : ℤ) * (n / d : ℕ) + (n % d : ℕ) = n := by exact_mod_cast Nat.div_add_mod n d
  have hr : n % d < d := Nat.mod_lt n hd
  have hlow : (n : ℤ) - (n / d : ℕ) * d = (n % d : ℕ) := by linarith
  have hhigh : (n : ℤ) - (n / d + 1 : ℕ) * d = (n % d : ℕ) - d := by
    rw [Nat.cast_add, Nat.cast_one]
    linarith
  unfold roundHalfEven
  dsimp only
  split_ifs with h₁ h₂ h₃
  · rw [hlow, abs_of_nonneg (by omega)]
    omega
  · rw [hhigh, abs_of_nonpos (by omega)]
    omega
  · rw [hlow, abs_of_nonneg (by omega)]
    omega
  · rw [hhigh, abs_of_nonpos (by omega)]
    omega

/-- The rounded fraction is within one half. -/
theorem abs_sub_roundHalfEven_le (n : ℕ) (hd : 0 < d) :
    |(n : ℚ) / d - roundHalfEven n d| ≤ 1 / 2 := by
  have hdq : (0 : ℚ) < d := by exact_mod_cast hd
  have hint : (2 : ℚ) * |(n : ℚ) - roundHalfEven n d * d| ≤ d := by
    exact_mod_cast two_mul_abs_sub_roundHalfEven_le n hd
  have hsplit : (n : ℚ) / d - roundHalfEven n d = (n - roundHalfEven n d * d) / d := by
    field_simp
  rw [hsplit, abs_div, abs_of_pos hdq, div_le_iff₀ hdq]
  linarith

theorem roundHalfEven_eq_of_abs_lt (hd : 0 < d) {m : ℕ} (h : |(n : ℚ) / d - m| < 1 / 2) :
    roundHalfEven n d = m := by
  have hround := abs_sub_roundHalfEven_le n hd
  have hclose : |(roundHalfEven n d : ℚ) - m| < 1 := by
    have htriangle := abs_sub_le (roundHalfEven n d : ℚ) ((n : ℚ) / d) m
    rw [abs_sub_comm] at hround
    linarith
  have hint : |(roundHalfEven n d : ℤ) - m| < 1 := by exact_mod_cast hclose
  rw [abs_lt] at hint
  omega

theorem roundHalfEven_mul_left {c : ℕ} (hc : 0 < c) (n d : ℕ) :
    roundHalfEven (c * n) (c * d) = roundHalfEven n d := by
  unfold roundHalfEven
  rw [Nat.mul_div_mul_left n d hc, Nat.mul_mod_mul_left]
  have hlt : 2 * (c * (n % d)) < c * d ↔ 2 * (n % d) < d := by
    rw [mul_left_comm]
    exact Nat.mul_lt_mul_left hc
  have hgt : c * d < 2 * (c * (n % d)) ↔ d < 2 * (n % d) := by
    rw [mul_left_comm]
    exact Nat.mul_lt_mul_left hc
  simp only [hlt, hgt]

theorem roundHalfEven_congr {n' d' : ℕ} (hd : 0 < d) (hd' : 0 < d') (h : n * d' = n' * d) :
    roundHalfEven n d = roundHalfEven n' d' := by
  rw [← roundHalfEven_mul_left hd' n d, ← roundHalfEven_mul_left hd n' d', mul_comm d' n, h,
    mul_comm n' d, mul_comm d' d]

end RoundHalfEven

/-! ## The binary exponent -/

theorem zpow_log2_le {n : ℕ} (hn : n ≠ 0) : (2 : ℚ) ^ (Nat.log2 n : ℤ) ≤ n := by
  rw [zpow_natCast]
  exact_mod_cast Nat.log2_self_le hn

theorem lt_zpow_log2 (n : ℕ) : (n : ℚ) < 2 ^ (Nat.log2 n + 1 : ℤ) := by
  have h : n < 2 ^ (Nat.log2 n + 1) := Nat.lt_log2_self
  exact_mod_cast h

/-- A fraction scaled by a power of two, as the code writes it. -/
theorem zpow_eq_div (e : ℤ) : (2 : ℚ) ^ e = 2 ^ e.toNat / 2 ^ (-e).toNat := by
  rcases Int.le_total 0 e with he | he
  · obtain ⟨k, rfl⟩ := Int.eq_ofNat_of_zero_le he
    simp
  · obtain ⟨k, hk⟩ := Int.exists_eq_neg_ofNat he
    subst hk
    simp

theorem binaryExponent_spec {n d : ℕ} (hn : 0 < n) (hd : 0 < d) :
    (2 : ℚ) ^ binaryExponent n d ≤ n / d ∧ (n : ℚ) / d < 2 ^ (binaryExponent n d + 1) := by
  have hnq : (0 : ℚ) < n := by exact_mod_cast hn
  have hdq : (0 : ℚ) < d := by exact_mod_cast hd
  have h2 : (2 : ℚ) ≠ 0 := two_ne_zero
  set k : ℤ := (Nat.log2 n : ℤ) - Nat.log2 d with hk
  have hlow : (2 : ℚ) ^ (k - 1) ≤ n / d := by
    rw [le_div_iff₀ hdq]
    calc (2 : ℚ) ^ (k - 1) * d ≤ 2 ^ (k - 1) * 2 ^ (Nat.log2 d + 1 : ℤ) := by
          exact mul_le_mul_of_nonneg_left (lt_zpow_log2 d).le (by positivity)
      _ = 2 ^ (Nat.log2 n : ℤ) := by rw [← zpow_add₀ h2]; congr 1; omega
      _ ≤ n := zpow_log2_le hn.ne'
  have hhigh : (n : ℚ) / d < 2 ^ (k + 1) := by
    rw [div_lt_iff₀ hdq]
    calc (n : ℚ) < 2 ^ (Nat.log2 n + 1 : ℤ) := lt_zpow_log2 n
      _ = 2 ^ (k + 1) * 2 ^ (Nat.log2 d : ℤ) := by rw [← zpow_add₀ h2]; congr 1; omega
      _ ≤ 2 ^ (k + 1) * d := mul_le_mul_of_nonneg_left (zpow_log2_le hd.ne') (by positivity)
  have hbelow : (if 0 ≤ k then n < d * 2 ^ k.toNat else n * 2 ^ (-k).toNat < d) ↔
      (n : ℚ) / d < 2 ^ k := by
    rw [div_lt_iff₀ hdq, zpow_eq_div]
    split_ifs with hsign
    · rw [Int.toNat_of_nonpos (show -k ≤ 0 by omega), pow_zero, div_one, mul_comm]
      exact_mod_cast Iff.rfl
    · rw [Int.toNat_of_nonpos (show k ≤ 0 by omega), pow_zero, div_mul_eq_mul_div, one_mul,
        lt_div_iff₀ (by positivity)]
      exact_mod_cast Iff.rfl
  unfold binaryExponent
  dsimp only
  rw [← hk]
  by_cases h : (n : ℚ) / d < 2 ^ k
  · rw [if_pos (hbelow.2 h), sub_add_cancel]
    exact ⟨hlow, h⟩
  · rw [if_neg fun hb => h (hbelow.1 hb)]
    exact ⟨not_lt.1 h, hhigh⟩

/-! ## The nearest value -/

/-- The finite values of binary64: a significand of 53 bits, which fills them unless the exponent is
the smallest. -/
def IsDouble (q : ℚ) : Prop :=
  ∃ (m : ℕ) (e : ℤ), m < 2 ^ 53 ∧ -1074 ≤ e ∧ e ≤ 971 ∧ (2 ^ 52 ≤ m ∨ e = -1074) ∧ |q| = m * 2 ^ e

theorem isDouble_zero : IsDouble 0 := ⟨0, -1074, by decide, by decide, by decide, .inr rfl, by simp⟩

theorem IsDouble.neg {q : ℚ} (h : IsDouble q) : IsDouble (-q) := by
  unfold IsDouble
  rw [abs_neg]
  exact h

def lastPlace (n d : ℕ) : ℤ := max (binaryExponent n d - 52) (-1074)

def significand (n d : ℕ) : ℕ :=
  if 0 ≤ lastPlace n d then roundHalfEven n (d * 2 ^ (lastPlace n d).toNat)
  else roundHalfEven (n * 2 ^ (-lastPlace n d).toNat) d

section ToDouble

variable {n d : ℕ} {q : ℚ} (negative : Bool)

theorem toDouble_eq (hn : 0 < n) : toDouble negative n d =
    if 1024 ≤ (Nat.log2 (significand n d) : ℤ) + lastPlace n d then .inf negative
    else .finite (if negative then -(significand n d * 2 ^ lastPlace n d)
      else significand n d * 2 ^ lastPlace n d) := by
  have hvalue : mkRat (significand n d * 2 ^ (lastPlace n d).toNat) (2 ^ (-lastPlace n d).toNat) =
      significand n d * 2 ^ lastPlace n d := by
    rw [Rat.mkRat_eq_div, zpow_eq_div]
    push_cast
    rw [mul_div_assoc]
  rw [← hvalue]
  unfold toDouble
  rw [if_neg hn.ne']
  rfl

theorem exists_significand (hd : 0 < d) : ∃ n' d' : ℕ, 0 < d' ∧
    (n' : ℚ) / d' = n / d / 2 ^ lastPlace n d ∧ significand n d = roundHalfEven n' d' := by
  unfold significand
  by_cases hsign : 0 ≤ lastPlace n d
  · refine ⟨n, d * 2 ^ (lastPlace n d).toNat, by positivity, ?_, if_pos hsign⟩
    rw [zpow_eq_div, Int.toNat_of_nonpos (show -lastPlace n d ≤ 0 by omega), pow_zero, div_one]
    push_cast
    rw [div_div]
  · refine ⟨n * 2 ^ (-lastPlace n d).toNat, d, hd, ?_, if_neg hsign⟩
    rw [zpow_eq_div, Int.toNat_of_nonpos (show lastPlace n d ≤ 0 by omega), pow_zero, one_div,
      div_inv_eq_mul]
    push_cast
    ring

theorem abs_sub_significand_le (hd : 0 < d) :
    |(n : ℚ) / d / 2 ^ lastPlace n d - significand n d| ≤ 1 / 2 := by
  obtain ⟨n', d', hd', hvalue, hround⟩ := exists_significand (n := n) hd
  rw [← hvalue, hround]
  exact abs_sub_roundHalfEven_le n' hd'

theorem significand_eq_of_abs_lt (hd : 0 < d) {m : ℕ}
    (h : |(n : ℚ) / d / 2 ^ lastPlace n d - m| < 1 / 2) : significand n d = m := by
  obtain ⟨n', d', hd', hvalue, hround⟩ := exists_significand (n := n) hd
  rw [← hvalue] at h
  rw [hround]
  exact roundHalfEven_eq_of_abs_lt hd' h

theorem div_lt_zpow_lastPlace (hn : 0 < n) (hd : 0 < d) :
    (n : ℚ) / d / 2 ^ lastPlace n d < 2 ^ 53 := by
  have hpow : (0 : ℚ) < 2 ^ lastPlace n d := by positivity
  rw [div_lt_iff₀ hpow]
  calc (n : ℚ) / d < 2 ^ (binaryExponent n d + 1) := (binaryExponent_spec hn hd).2
    _ ≤ 2 ^ (53 + lastPlace n d) := by
        apply zpow_le_zpow_right₀ one_le_two
        unfold lastPlace
        omega
    _ = 2 ^ 53 * 2 ^ lastPlace n d := by
        rw [zpow_add₀ two_ne_zero]
        rfl

theorem zpow_lastPlace_le (hn : 0 < n) (hd : 0 < d) (hnormal : lastPlace n d ≠ -1074) :
    (2 : ℚ) ^ 52 ≤ n / d / 2 ^ lastPlace n d := by
  have hpow : (0 : ℚ) < 2 ^ lastPlace n d := by positivity
  rw [le_div_iff₀ hpow]
  calc (2 : ℚ) ^ 52 * 2 ^ lastPlace n d = 2 ^ (52 + lastPlace n d) := by
        rw [zpow_add₀ two_ne_zero]
        rfl
    _ = 2 ^ binaryExponent n d := by
        congr 1
        unfold lastPlace at hnormal ⊢
        omega
    _ ≤ n / d := (binaryExponent_spec hn hd).1

theorem significand_le (hn : 0 < n) (hd : 0 < d) : significand n d ≤ 2 ^ 53 := by
  have hround := abs_le.1 (abs_sub_significand_le (n := n) hd)
  have hlt := div_lt_zpow_lastPlace hn hd
  have hbound : (significand n d : ℚ) < (2 ^ 53 + 1 : ℕ) := by
    push_cast
    linarith
  exact Nat.lt_succ_iff.1 (by exact_mod_cast hbound)

theorem le_significand (hn : 0 < n) (hd : 0 < d) (hnormal : lastPlace n d ≠ -1074) :
    2 ^ 52 ≤ significand n d := by
  have hround := abs_le.1 (abs_sub_significand_le (n := n) hd)
  have hle := zpow_lastPlace_le hn hd hnormal
  have hbound : ((2 ^ 52 - 1 : ℕ) : ℚ) < significand n d := by
    have hcast : ((2 ^ 52 - 1 : ℕ) : ℚ) = 2 ^ 52 - 1 := by norm_num
    rw [hcast]
    linarith
  have hnat : 2 ^ 52 - 1 < significand n d := by exact_mod_cast hbound
  omega

theorem isDouble_significand (hn : 0 < n) (hd : 0 < d)
    (hfinite : (Nat.log2 (significand n d) : ℤ) + lastPlace n d < 1024) :
    IsDouble (significand n d * 2 ^ lastPlace n d) := by
  have habs : |(significand n d : ℚ) * 2 ^ lastPlace n d| =
      significand n d * 2 ^ lastPlace n d := abs_of_nonneg (by positivity)
  have hplace : -1074 ≤ lastPlace n d := le_max_right _ _
  rcases (significand_le hn hd).lt_or_eq with hlt | hfull
  · by_cases hnormal : lastPlace n d = -1074
    · exact ⟨_, _, hlt, hplace, by omega, .inr hnormal, habs⟩
    · have hle := le_significand hn hd hnormal
      have hlog : Nat.log2 (significand n d) = 52 :=
        (Nat.log2_eq_iff (by omega)).2 ⟨hle, hlt⟩
      exact ⟨_, _, hlt, hplace, by omega, .inl hle, habs⟩
  · rw [hfull, Nat.log2_two_pow] at hfinite
    refine ⟨2 ^ 52, lastPlace n d + 1, by decide, by omega, by omega, .inl le_rfl, ?_⟩
    rw [habs, hfull, zpow_add₀ two_ne_zero]
    push_cast
    ring

theorem isDouble_of_toDouble (hd : 0 < d) (h : toDouble negative n d = .finite q) : IsDouble q := by
  rcases Nat.eq_zero_or_pos n with rfl | hn
  · obtain rfl : 0 = q := PyFloat.finite.inj h
    exact isDouble_zero
  · rw [toDouble_eq negative hn] at h
    split_ifs at h with hinf hsign
    · obtain rfl := PyFloat.finite.inj h
      exact (isDouble_significand hn hd (not_le.1 hinf)).neg
    · obtain rfl := PyFloat.finite.inj h
      exact isDouble_significand hn hd (not_le.1 hinf)

/-! A value `m * 2 ^ e` of the format and a fraction near it. The fraction is in the binade of the value,
except that it may be just below a power of two. -/

theorem lt_of_zpow_le_div {e : ℤ} (hn : 0 < n) (hd : 0 < d) {k : ℤ}
    (h : (n : ℚ) / d / 2 ^ e < 2 ^ k) : binaryExponent n d < e + k := by
  have hpow : (0 : ℚ) < 2 ^ e := by positivity
  rw [div_lt_iff₀ hpow, ← zpow_add₀ two_ne_zero, add_comm] at h
  exact (zpow_lt_zpow_iff_right₀ one_lt_two).1 ((binaryExponent_spec hn hd).1.trans_lt h)

theorem le_of_zpow_le_div {e : ℤ} (hn : 0 < n) (hd : 0 < d) {k : ℤ}
    (h : (2 : ℚ) ^ k ≤ n / d / 2 ^ e) : e + k ≤ binaryExponent n d := by
  have hpow : (0 : ℚ) < 2 ^ e := by positivity
  rw [le_div_iff₀ hpow, ← zpow_add₀ two_ne_zero, add_comm] at h
  have hlt := (zpow_lt_zpow_iff_right₀ one_lt_two).1 (h.trans_lt (binaryExponent_spec hn hd).2)
  omega

theorem significand_of_near (hn : 0 < n) (hd : 0 < d) {m : ℕ} {e : ℤ} (hm : m < 2 ^ 53)
    (he : -1074 ≤ e) (hnormal : 2 ^ 52 ≤ m ∨ e = -1074)
    (hnear : |(n : ℚ) / d / 2 ^ e - m| < m / 2 ^ 54) :
    (significand n d : ℚ) * 2 ^ lastPlace n d = m * 2 ^ e := by
  have hmq : (m : ℚ) ≤ 2 ^ 53 - 1 := by
    have hcast : (m : ℚ) + 1 ≤ (2 ^ 53 : ℕ) := by exact_mod_cast hm
    push_cast at hcast
    linarith
  have hhalf : |(n : ℚ) / d / 2 ^ e - m| < 1 / 2 := by linarith
  obtain ⟨hlow, hhigh⟩ := abs_lt.1 hnear
  -- In the binade of the value the significand is its own.
  have hsame : lastPlace n d = e → (significand n d : ℚ) * 2 ^ lastPlace n d = m * 2 ^ e := by
    intro hplace
    have hround : |(n : ℚ) / d / 2 ^ lastPlace n d - m| < 1 / 2 := by
      rw [hplace]
      exact hhalf
    rw [significand_eq_of_abs_lt hd hround, hplace]
  rcases Nat.lt_or_ge m (2 ^ 52) with hsub | hfull
  · obtain rfl : e = -1074 := hnormal.resolve_left (by omega)
    have hmsub : (m : ℚ) ≤ 2 ^ 52 - 1 := by
      have hcast : (m : ℚ) + 1 ≤ (2 ^ 52 : ℕ) := by exact_mod_cast hsub
      push_cast at hcast
      linarith
    have hexp : binaryExponent n d < -1074 + 52 := by
      apply lt_of_zpow_le_div hn hd
      have hpow : (2 : ℚ) ^ (52 : ℤ) = 2 ^ 52 := rfl
      rw [hpow]
      linarith
    apply hsame
    unfold lastPlace
    omega
  · have hmfull : (2 : ℚ) ^ 52 ≤ m := by exact_mod_cast hfull
    have hupper : binaryExponent n d < e + 53 := by
      apply lt_of_zpow_le_div hn hd
      have hpow : (2 : ℚ) ^ (53 : ℤ) = 2 ^ 53 := rfl
      rw [hpow]
      linarith
    have hlower : e + 51 ≤ binaryExponent n d := by
      apply le_of_zpow_le_div hn hd
      have hpow : (2 : ℚ) ^ (51 : ℤ) = 2 ^ 51 := rfl
      rw [hpow]
      linarith
    by_cases hplace : lastPlace n d = e
    · exact hsame hplace
    · -- Just below a power of two.
      have hbelow : lastPlace n d = e - 1 ∧ binaryExponent n d + 1 = e + 52 := by
        unfold lastPlace at hplace ⊢
        omega
      have hpow : (0 : ℚ) < 2 ^ e := by positivity
      have hbinade : (n : ℚ) / d / 2 ^ e < 2 ^ 52 := by
        rw [div_lt_iff₀ hpow]
        calc (n : ℚ) / d < 2 ^ (binaryExponent n d + 1) := (binaryExponent_spec hn hd).2
          _ = 2 ^ 52 * 2 ^ e := by
              rw [hbelow.2, add_comm, zpow_add₀ two_ne_zero]
              rfl
      have hmlt : (m : ℚ) < (2 ^ 52 + 1 : ℕ) := by
        push_cast
        linarith
      have hmlt' : m < 2 ^ 52 + 1 := by exact_mod_cast hmlt
      obtain rfl : m = 2 ^ 52 := by omega
      have hscale : (2 : ℚ) ^ e = 2 * 2 ^ (e - 1) := by
        rw [zpow_sub_one₀ two_ne_zero]
        ring
      have hdouble : (n : ℚ) / d / 2 ^ (e - 1) = 2 * (n / d / 2 ^ e) := by
        rw [hscale]
        field_simp
      have hround : |(n : ℚ) / d / 2 ^ lastPlace n d - (2 ^ 53 : ℕ)| < 1 / 2 := by
        rw [hbelow.1, hdouble, abs_lt]
        push_cast at hlow hhigh ⊢
        constructor <;> linarith
      rw [significand_eq_of_abs_lt hd hround, hbelow.1, hscale]
      push_cast
      ring

/-- Half the gap around a value is at least `q / 2 ^ 54`: a fraction nearer than that rounds to it. -/
theorem toDouble_of_near (hn : 0 < n) (hd : 0 < d) (hq : IsDouble q) (hpos : 0 < q)
    (hnear : |(n : ℚ) / d - q| < q / 2 ^ 54) :
    toDouble negative n d = .finite (if negative then -q else q) := by
  obtain ⟨m, e, hm, hlow, hhigh, hnormal, habs⟩ := hq
  rw [abs_of_pos hpos] at habs
  have hpow : (0 : ℚ) < 2 ^ e := by positivity
  have hscaled : |(n : ℚ) / d / 2 ^ e - m| < m / 2 ^ 54 := by
    have hsplit : (n : ℚ) / d / 2 ^ e - m = (n / d - q) / 2 ^ e := by
      rw [habs]
      field_simp
    rw [hsplit, abs_div, abs_of_pos hpow, div_lt_iff₀ hpow]
    calc |(n : ℚ) / d - q| < q / 2 ^ 54 := hnear
      _ = m / 2 ^ 54 * 2 ^ e := by rw [habs]; ring
  have hvalue := significand_of_near hn hd hm hlow hnormal hscaled
  rw [← habs] at hvalue
  have hfinite : (Nat.log2 (significand n d) : ℤ) + lastPlace n d < 1024 := by
    have hne : significand n d ≠ 0 := by
      intro hzero
      rw [hzero, Nat.cast_zero, zero_mul] at hvalue
      exact hpos.ne hvalue
    have hmq : (m : ℚ) < 2 ^ (53 : ℤ) := by exact_mod_cast hm
    have hlt : (2 : ℚ) ^ ((Nat.log2 (significand n d) : ℤ) + lastPlace n d) < 2 ^ (1024 : ℤ) := by
      rw [zpow_add₀ two_ne_zero]
      calc (2 : ℚ) ^ (Nat.log2 (significand n d) : ℤ) * 2 ^ lastPlace n d
          ≤ significand n d * 2 ^ lastPlace n d :=
            mul_le_mul_of_nonneg_right (zpow_log2_le hne) (by positivity)
        _ = m * 2 ^ e := hvalue.trans habs
        _ < 2 ^ (53 : ℤ) * 2 ^ e := mul_lt_mul_of_pos_right hmq hpow
        _ ≤ 2 ^ (53 : ℤ) * 2 ^ (971 : ℤ) := by
            apply mul_le_mul_of_nonneg_left _ (by positivity)
            exact zpow_le_zpow_right₀ one_le_two hhigh
        _ = 2 ^ (1024 : ℤ) := by rw [← zpow_add₀ two_ne_zero]; rfl
    exact (zpow_lt_zpow_iff_right₀ one_lt_two).1 hlt
  rw [toDouble_eq negative hn, if_neg (not_le.2 hfinite), hvalue]

theorem binaryExponent_congr {n' d' : ℕ} (hn : 0 < n) (hd : 0 < d) (hn' : 0 < n') (hd' : 0 < d')
    (h : (n : ℚ) / d = n' / d') : binaryExponent n d = binaryExponent n' d' := by
  obtain ⟨hlow, hhigh⟩ := binaryExponent_spec hn hd
  obtain ⟨hlow', hhigh'⟩ := binaryExponent_spec hn' hd'
  rw [h] at hlow hhigh
  have hle := (zpow_lt_zpow_iff_right₀ (one_lt_two (α := ℚ))).1 (hlow.trans_lt hhigh')
  have hge := (zpow_lt_zpow_iff_right₀ (one_lt_two (α := ℚ))).1 (hlow'.trans_lt hhigh)
  omega

theorem toDouble_congr {n' d' : ℕ} (hd : 0 < d) (hd' : 0 < d') (h : (n : ℚ) / d = n' / d') :
    toDouble negative n d = toDouble negative n' d' := by
  have hdq : (d : ℚ) ≠ 0 := by exact_mod_cast hd.ne'
  have hdq' : (d' : ℚ) ≠ 0 := by exact_mod_cast hd'.ne'
  have hcross : n * d' = n' * d := by
    rw [div_eq_div_iff hdq hdq'] at h
    exact_mod_cast h
  rcases Nat.eq_zero_or_pos n with rfl | hn
  · rw [zero_mul] at hcross
    obtain rfl : n' = 0 := (Nat.mul_eq_zero.1 hcross.symm).resolve_right hd.ne'
    rfl
  · have hn' : 0 < n' := by
      apply Nat.pos_of_ne_zero
      rintro rfl
      rw [zero_mul] at hcross
      exact (Nat.mul_pos hn hd').ne' hcross
    have hplace : lastPlace n d = lastPlace n' d' := by
      unfold lastPlace
      rw [binaryExponent_congr hn hd hn' hd' h]
    have hsignificand : significand n d = significand n' d' := by
      obtain ⟨a, b, hb, hvalue, hround⟩ := exists_significand (n := n) hd
      obtain ⟨a', b', hb', hvalue', hround'⟩ := exists_significand (n := n') hd'
      rw [hround, hround']
      apply roundHalfEven_congr hb hb'
      rw [h, hplace, ← hvalue', div_eq_div_iff (by positivity) (by positivity)] at hvalue
      exact_mod_cast hvalue
    rw [toDouble_eq negative hn, toDouble_eq negative hn', hplace, hsignificand]

end ToDouble

end PythonFloat
