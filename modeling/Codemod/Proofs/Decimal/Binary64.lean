import Codemod.Decimal.Binary64
import Mathlib.Algebra.Order.Field.Power
import Mathlib.Algebra.Order.Ring.Rat
import Mathlib.Tactic.FieldSimp
import Mathlib.Tactic.Linarith
import Mathlib.Tactic.Ring

/-!
# How near a double comes to a quotient

The double for a quotient of natural numbers is found by choosing an exponent and rounding the
quotient to a multiple of that power of two. For the share that a part has in a whole this stays
below the largest exponent, so that there always is such a double, and it is off by at most half a
step.

## Main definitions

* `Binary64.toRat` — the number that a double stands for.

## Main results

* `Binary64.abs_toRat_ofRatio_sub_le` — a share and its double.
* `Binary64.toRat_ofRatio_lt` — the doubles of shares in a whole below `2 ^ 53` can be told apart.
-/

namespace Codemod.Binary64

/-- The number that a double stands for. -/
def toRat (x : Binary64) : ℚ :=
  (if x.isNegative then -1 else 1) * x.magnitude.1 * 2 ^ x.magnitude.2

/-! ## Rounding -/

/-- Rounding to a whole number is off by at most one half. -/
theorem two_mul_roundDiv_mul (n : ℕ) {d : ℕ} (hd : 0 < d) :
    2 * (roundDiv n d * d) ≤ 2 * n + d ∧ 2 * n ≤ 2 * (roundDiv n d * d) + d := by
  have hn : n / d * d + n % d = n := Nat.div_add_mod' n d
  have hr := Nat.mod_lt n hd
  have hup : (n / d + 1) * d = n / d * d + d := Nat.succ_mul _ _
  unfold roundDiv
  dsimp only
  split
  · omega
  split
  · omega
  -- a tie, which goes to either side
  rcases Nat.mod_two_eq_zero_or_one (n / d) with h | h
  · rw [h, Nat.add_zero]
    omega
  · rw [h]
    omega

theorem abs_roundDiv_sub_le (n : ℕ) {d : ℕ} (hd : 0 < d) :
    |(roundDiv n d : ℚ) - n / d| ≤ 1 / 2 := by
  have hd' : (0 : ℚ) < d := by exact_mod_cast hd
  obtain ⟨hlow, hhigh⟩ := two_mul_roundDiv_mul n hd
  have hlow' : 2 * ((roundDiv n d : ℚ) * d) ≤ 2 * n + d := by exact_mod_cast hlow
  have hhigh' : 2 * (n : ℚ) ≤ 2 * (roundDiv n d * d) + d := by exact_mod_cast hhigh
  rw [abs_le]
  constructor
  · have : (n : ℚ) / d ≤ roundDiv n d + 1 / 2 := by
      rw [div_le_iff₀ hd']
      linarith
    linarith
  · have : (roundDiv n d : ℚ) - 1 / 2 ≤ n / d := by
      rw [le_div_iff₀ hd']
      linarith
    linarith

/-- Rounding to a multiple of a power of two is off by at most half that power. -/
theorem abs_scaled_sub_le (n : ℕ) {d : ℕ} (hd : 0 < d) (e : ℤ) :
    |(scaled n d e : ℚ) - n / d * 2 ^ (-e)| ≤ 1 / 2 := by
  unfold scaled
  split
  next he =>
    have hround := abs_roundDiv_sub_le n (d := d * 2 ^ e.toNat) (by positivity)
    have hscale : (n : ℚ) / d * 2 ^ (-e) = n / ((d * 2 ^ e.toNat : ℕ) : ℚ) := by
      obtain ⟨k, rfl⟩ := Int.eq_ofNat_of_zero_le he
      push_cast
      rw [zpow_neg, Int.toNat_natCast, zpow_natCast, div_mul_eq_div_div, div_eq_mul_inv (_ / _)]
    rw [hscale]
    exact hround
  next he =>
    have hround := abs_roundDiv_sub_le (n * 2 ^ (-e).toNat) hd
    have hscale : (n : ℚ) / d * 2 ^ (-e) = ((n * 2 ^ (-e).toNat : ℕ) : ℚ) / d := by
      obtain ⟨k, hk⟩ := Int.eq_ofNat_of_zero_le (a := -e) (by omega)
      rw [hk]
      push_cast
      rw [Int.toNat_natCast, zpow_natCast, div_mul_eq_mul_div]
    rw [hscale]
    exact hround

/-! ## Exponents -/

/-- The comparison that `exponentOf` makes. -/
theorem short_iff (n : ℕ) {d : ℕ} (hd : 0 < d) (e : ℤ) :
    (if e ≥ 0 then n < d * Nat.pow 2 (e.toNat + 52)
      else n * Nat.pow 2 (-e).toNat < d * Nat.pow 2 52) ↔ (n : ℚ) / d < 2 ^ (e + 52) := by
  have hd' : (0 : ℚ) < d := by exact_mod_cast hd
  rw [div_lt_iff₀' hd']
  split
  next he =>
    obtain ⟨k, rfl⟩ := Int.eq_ofNat_of_zero_le he
    have hpow : (2 : ℚ) ^ ((k : ℤ) + 52) = 2 ^ (k + 52) := by
      exact_mod_cast zpow_natCast (2 : ℚ) (k + 52)
    rw [hpow, Int.toNat_natCast]
    exact_mod_cast Iff.rfl
  next he =>
    obtain ⟨k, hk⟩ := Int.eq_ofNat_of_zero_le (a := -e) (by omega)
    obtain rfl : e = -k := by omega
    rw [neg_neg, Int.toNat_natCast, zpow_add₀ two_ne_zero, zpow_neg, zpow_natCast,
      mul_left_comm, ← div_eq_inv_mul, lt_div_iff₀ (by positivity)]
    exact_mod_cast Iff.rfl

/-- A quotient lies within a factor of two of the quotient of the leading digits. -/
theorem div_bounds {n d : ℕ} (hn : 0 < n) (hd : 0 < d) :
    (2 : ℚ) ^ ((n.log2 : ℤ) - d.log2 - 1) ≤ n / d ∧
      (n : ℚ) / d < 2 ^ ((n.log2 : ℤ) - d.log2 + 1) := by
  have hd' : (0 : ℚ) < d := by exact_mod_cast hd
  have hnlow : (2 : ℚ) ^ (n.log2 : ℤ) ≤ n := by exact_mod_cast Nat.log2_self_le hn.ne'
  have hnhigh : (n : ℚ) < 2 ^ ((n.log2 : ℤ) + 1) := by exact_mod_cast Nat.lt_log2_self
  have hdlow : (2 : ℚ) ^ (d.log2 : ℤ) ≤ d := by exact_mod_cast Nat.log2_self_le hd.ne'
  have hdhigh : (d : ℚ) < 2 ^ ((d.log2 : ℤ) + 1) := by exact_mod_cast Nat.lt_log2_self
  constructor
  · rw [le_div_iff₀ hd']
    calc (2 : ℚ) ^ ((n.log2 : ℤ) - d.log2 - 1) * d
        ≤ 2 ^ ((n.log2 : ℤ) - d.log2 - 1) * 2 ^ ((d.log2 : ℤ) + 1) := by gcongr
      _ = 2 ^ (n.log2 : ℤ) := by rw [← zpow_add₀ two_ne_zero]; congr 1; omega
      _ ≤ n := hnlow
  · rw [div_lt_iff₀ hd']
    calc (n : ℚ) < 2 ^ ((n.log2 : ℤ) + 1) := hnhigh
      _ = 2 ^ ((n.log2 : ℤ) - d.log2 + 1) * 2 ^ (d.log2 : ℤ) := by
        rw [← zpow_add₀ two_ne_zero]; congr 1; omega
      _ ≤ 2 ^ ((n.log2 : ℤ) - d.log2 + 1) * d := by gcongr

/-- At the exponent of a quotient the significand has fifty-three digits, or fewer at the least
exponent. -/
theorem exponentOf_spec {n d : ℕ} (hn : 0 < n) (hd : 0 < d) :
    -1074 ≤ exponentOf n d ∧ (n : ℚ) / d < 2 ^ (exponentOf n d + 53) ∧
      (exponentOf n d = -1074 ∨ (2 : ℚ) ^ (exponentOf n d + 52) ≤ n / d) := by
  obtain ⟨hlow, hhigh⟩ := div_bounds hn hd
  -- before the least exponent is taken into account
  obtain ⟨e, he, hbelow, habove⟩ : ∃ e : ℤ, exponentOf n d = max e (-1074) ∧
      (2 : ℚ) ^ (e + 52) ≤ n / d ∧ (n : ℚ) / d < 2 ^ (e + 53) := by
    have hshort := short_iff n hd ((n.log2 : ℤ) - d.log2 - 52)
    rw [exponentOf]
    by_cases h : (n : ℚ) / d < 2 ^ ((n.log2 : ℤ) - d.log2 - 52 + 52)
    · refine ⟨_, congrArg (max · _) (if_pos (hshort.mpr h)), ?_, ?_⟩
      · convert hlow using 2; omega
      · convert h using 2; omega
    · refine ⟨_, congrArg (max · _) (if_neg (mt hshort.mp h)), not_lt.mp h, ?_⟩
      convert hhigh using 2; omega
  rw [he]
  refine ⟨le_max_right _ _, habove.trans_le ?_, ?_⟩
  · exact zpow_le_zpow_right₀ one_le_two (by omega)
  · rcases le_total e (-1074) with h | h
    · exact .inl (max_eq_right h)
    · exact .inr (by rwa [max_eq_left h])

/-- The significand of a quotient. -/
theorem scaled_bounds {n d : ℕ} (hn : 0 < n) (hd : 0 < d) :
    scaled n d (exponentOf n d) ≤ 2 ^ 53 ∧
      (exponentOf n d = -1074 ∨ 2 ^ 52 ≤ scaled n d (exponentOf n d)) := by
  obtain ⟨-, habove, hbelow⟩ := exponentOf_spec hn hd
  obtain ⟨hlow, hhigh⟩ := abs_le.mp (abs_scaled_sub_le n hd (exponentOf n d))
  have hpos : (0 : ℚ) < 2 ^ (-exponentOf n d) := by positivity
  have hshift (k : ℕ) :
      (2 : ℚ) ^ (exponentOf n d + k) * 2 ^ (-exponentOf n d) = 2 ^ k := by
    rw [← zpow_add₀ two_ne_zero, add_comm _ (k : ℤ), add_neg_cancel_right, zpow_natCast]
  constructor
  · have hquot : (n : ℚ) / d * 2 ^ (-exponentOf n d) < 2 ^ 53 :=
      (mul_lt_mul_of_pos_right habove hpos).trans_eq (hshift 53)
    have hcast : (scaled n d (exponentOf n d) : ℚ) < 2 ^ 53 + 1 := by linarith
    exact Nat.lt_succ_iff.mp (by exact_mod_cast hcast)
  · refine hbelow.imp_right fun hbelow => ?_
    have hquot : (2 : ℚ) ^ 52 ≤ n / d * 2 ^ (-exponentOf n d) :=
      (hshift 52).symm.trans_le (mul_le_mul_of_nonneg_right hbelow hpos.le)
    have hcast : (2 : ℚ) ^ 52 < scaled n d (exponentOf n d) + 1 := by linarith
    exact Nat.lt_succ_iff.mp (by exact_mod_cast hcast)

/-! ## Bits -/

theorem toNat_bits {n : ℕ} (h : n < 2 ^ 63) : n.toUInt64.toNat = n :=
  UInt64.toNat_ofNat_of_lt' (by simp only [UInt64.size]; omega)

theorem toRat_bits {n : ℕ} (h : n < 2 ^ 63) :
    toRat ⟨n.toUInt64⟩ =
      if n / 2 ^ 52 = 0 then ((n % 2 ^ 52 : ℕ) : ℚ) * 2 ^ (-1074 : ℤ)
      else ((2 ^ 52 + n % 2 ^ 52 : ℕ) : ℚ) * 2 ^ ((n / 2 ^ 52 : ℕ) - 1075 : ℤ) := by
  have hsign : isNegative ⟨n.toUInt64⟩ = false := by
    simp only [isNegative, toNat_bits h, ge_iff_le, decide_eq_false_iff_not, not_le]
    exact h
  rw [toRat, hsign, magnitude, toNat_bits h, Nat.pow_eq, Nat.pow_eq, Nat.mod_eq_of_lt h,
    if_neg Bool.false_ne_true, one_mul]
  by_cases hsub : n / 2 ^ 52 = 0
  · rw [if_pos hsub, if_pos hsub]
  · rw [if_neg hsub, if_neg hsub]

/-- The number that the bits of an exponent and a significand stand for. A significand of `2 ^ 53`
carries into the exponent. -/
theorem toRat_mk {e m : ℕ} (hm : m ≤ 2 ^ 53) (hnormal : e = 0 ∨ 2 ^ 52 ≤ m) (he : e < 2046) :
    toRat ⟨(e * 2 ^ 52 + m).toUInt64⟩ = m * 2 ^ ((e : ℤ) - 1074) := by
  rw [toRat_bits (by omega)]
  by_cases hsmall : m < 2 ^ 52
  · obtain rfl : e = 0 := by omega
    have hdiv : (0 * 2 ^ 52 + m) / 2 ^ 52 = 0 := by omega
    have hmod : (0 * 2 ^ 52 + m) % 2 ^ 52 = m := by omega
    rw [if_pos hdiv, hmod]
    simp
  by_cases hlarge : m < 2 ^ 53
  · have hdiv : (e * 2 ^ 52 + m) / 2 ^ 52 = e + 1 := by omega
    have hmod : 2 ^ 52 + (e * 2 ^ 52 + m) % 2 ^ 52 = m := by omega
    rw [hdiv, hmod, if_neg (Nat.succ_ne_zero e)]
    congr 2
    push_cast
    omega
  · obtain rfl : m = 2 ^ 53 := by omega
    have hdiv : (e * 2 ^ 52 + 2 ^ 53) / 2 ^ 52 = e + 2 := by omega
    have hmod : (e * 2 ^ 52 + 2 ^ 53) % 2 ^ 52 = 0 := by omega
    have hexp : ((e + 2 : ℕ) : ℤ) - 1075 = (e : ℤ) - 1074 + 1 := by push_cast; omega
    rw [hdiv, hmod, if_neg (by omega), hexp, zpow_add_one₀ two_ne_zero]
    push_cast
    ring

/-! ## Shares -/

section Share

variable {n d : ℕ}

theorem exponentOf_lt (hn : 0 < n) (hd : 0 < d) {k : ℤ} (hk : -1022 < k)
    (h : (n : ℚ) / d < 2 ^ k) : exponentOf n d < k - 52 := by
  obtain ⟨-, -, hleast | hbelow⟩ := exponentOf_spec hn hd
  · omega
  · have := (zpow_lt_zpow_iff_right₀ one_lt_two).mp (hbelow.trans_lt h)
    omega

theorem toRat_ofRatio (hn : 0 < n) (hd : 0 < d) (h : exponentOf n d < 970) :
    toRat (ofRatio n d) = scaled n d (exponentOf n d) * 2 ^ exponentOf n d := by
  obtain ⟨hleast, -, -⟩ := exponentOf_spec hn hd
  obtain ⟨hm, hnormal⟩ := scaled_bounds hn hd
  obtain ⟨e, he⟩ := Int.eq_ofNat_of_zero_le (a := exponentOf n d + 1074) (by omega)
  have hbits := toRat_mk (e := e) hm (by omega) (by omega)
  have hexp : exponentOf n d = (e : ℤ) - 1074 := by omega
  have hratio : ofRatio n d = ⟨(e * 2 ^ 52 + scaled n d (exponentOf n d)).toUInt64⟩ := by
    have hbody : (if scaled n d (exponentOf n d) < Nat.pow 2 52 then scaled n d (exponentOf n d)
        else (exponentOf n d + 1074).toNat * Nat.pow 2 52 + scaled n d (exponentOf n d)) =
          e * 2 ^ 52 + scaled n d (exponentOf n d) := by
      rw [he, Int.toNat_natCast, Nat.pow_eq]
      split <;> omega
    rw [ofRatio, ofRatio?]
    simp only [if_neg hn.ne', hbody, Bool.false_eq_true, if_false, Nat.pow_eq, zero_add]
    rw [if_pos (by omega), Option.getD_some]
  rw [hratio, hbits, hexp]

/-- The double for a quotient is off by at most half a step. -/
theorem abs_toRat_ofRatio_sub_le_step (hn : 0 < n) (hd : 0 < d) (h : exponentOf n d < 970) :
    |toRat (ofRatio n d) - n / d| ≤ 2 ^ (exponentOf n d - 1) := by
  have hpos : (0 : ℚ) < 2 ^ exponentOf n d := by positivity
  have hround := abs_scaled_sub_le n hd (exponentOf n d)
  rw [toRat_ofRatio hn hd h]
  calc |(scaled n d (exponentOf n d) : ℚ) * 2 ^ exponentOf n d - n / d|
      = |(scaled n d (exponentOf n d) : ℚ) - n / d * 2 ^ (-exponentOf n d)| *
          2 ^ exponentOf n d := by
        rw [← abs_of_pos hpos, ← abs_mul, sub_mul, mul_assoc, ← zpow_add₀ two_ne_zero,
          neg_add_cancel, zpow_zero, mul_one, abs_of_pos hpos]
    _ ≤ 1 / 2 * 2 ^ exponentOf n d := mul_le_mul_of_nonneg_right hround hpos.le
    _ = 2 ^ (exponentOf n d - 1) := by rw [zpow_sub_one₀ two_ne_zero]; ring

/-- The double of the whole is one. -/
theorem toRat_ofRatio_self (hd : 0 < d) : toRat (ofRatio d d) = 1 := by
  have hd' : (d : ℚ) ≠ 0 := by exact_mod_cast hd.ne'
  have hexp : exponentOf d d = -52 := by
    obtain ⟨-, habove, -⟩ := exponentOf_spec hd hd
    have hlow := exponentOf_lt hd hd (k := 1) (by decide) (by norm_num [hd'])
    rw [div_self hd', ← zpow_zero (2 : ℚ)] at habove
    have hhigh := (zpow_lt_zpow_iff_right₀ one_lt_two).mp habove
    omega
  have hround := abs_le.mp (abs_scaled_sub_le d hd (-52))
  have hscaled : scaled d d (-52) = 2 ^ 52 := by
    rw [div_self hd'] at hround
    norm_num at hround
    have hlow : (2 : ℚ) ^ 52 < scaled d d (-52) + 1 := by linarith
    have hhigh : (scaled d d (-52) : ℚ) < 2 ^ 52 + 1 := by linarith
    have hlow' : 2 ^ 52 < scaled d d (-52) + 1 := by exact_mod_cast hlow
    have hhigh' : scaled d d (-52) < 2 ^ 52 + 1 := by exact_mod_cast hhigh
    omega
  rw [toRat_ofRatio hd hd (by omega), hexp, hscaled]
  norm_num

/-- A share is off by at most half of what doubles below one are apart. -/
theorem abs_toRat_ofRatio_sub_le (hn : 0 < n) (h : n ≤ d) :
    |toRat (ofRatio n d) - n / d| ≤ 2 ^ (-54 : ℤ) := by
  have hd : 0 < d := hn.trans_le h
  have hd' : (0 : ℚ) < d := by exact_mod_cast hd
  rcases h.eq_or_lt with rfl | h
  · rw [toRat_ofRatio_self hn, div_self hd'.ne', sub_self, abs_zero]
    positivity
  · have hlt : (n : ℚ) / d < 2 ^ (0 : ℤ) := by
      rw [zpow_zero, div_lt_iff₀ hd', one_mul]
      exact_mod_cast h
    have hexp := exponentOf_lt hn hd (by decide) hlt
    exact (abs_toRat_ofRatio_sub_le_step hn hd (by omega)).trans
      (zpow_le_zpow_right₀ one_le_two (by omega))

/-- As long as the whole is below `2 ^ 53`, a greater share has a greater double. -/
theorem toRat_ofRatio_lt {m : ℕ} (hm : 0 < m) (h : m < n) (hn : n ≤ d) (hd : d < 2 ^ 53) :
    toRat (ofRatio m d) < toRat (ofRatio n d) := by
  have hd' : (0 : ℚ) < d := by exact_mod_cast (hm.trans h).trans_le hn
  have hleft := abs_le.mp (abs_toRat_ofRatio_sub_le hm (h.le.trans hn))
  have hright := abs_le.mp (abs_toRat_ofRatio_sub_le (hm.trans h) hn)
  have hgap : (m : ℚ) / d + 1 / d ≤ n / d := by
    rw [← add_div]
    gcongr
    exact_mod_cast h
  have hstep : (2 : ℚ) * 2 ^ (-54 : ℤ) < 1 / d := by
    rw [lt_div_iff₀ hd']
    have hd'' : (d : ℚ) < 2 ^ 53 := by exact_mod_cast hd
    norm_num
    linarith
  linarith

end Share

end Codemod.Binary64
