import Mathlib
import RouteDoc.Proofs.Number.Numeral
import RouteDoc.Proofs.Number.Rounding

/-! The interval of a number: the decimals in it, and no matter how they are written, are read as
the number. -/

namespace RouteDoc.Binary64

/-! ### Intervals -/

/-- An interval has a rational number in it. -/
def Interval.Has (i : Interval) (q : ℚ) : Prop :=
  if i.closed then (i.low : ℚ) ≤ i.den * q ∧ i.den * q ≤ i.high
  else (i.low : ℚ) < i.den * q ∧ i.den * q < i.high

theorem Interval.holds_iff {i : Interval} {n d : Nat} (hd : 0 < d) :
    i.holds n d = true ↔ i.Has ((n : ℚ) / d) := by
  have hd : (0 : ℚ) < d := by exact_mod_cast hd
  have hle : ∀ a : Nat, a * d ≤ i.den * n ↔ (a : ℚ) ≤ i.den * (n / d) := by
    intro a
    rw [← mul_div_assoc, le_div_iff₀ hd]
    exact_mod_cast Iff.rfl
  have hge : ∀ a : Nat, i.den * n ≤ a * d ↔ i.den * ((n : ℚ) / d) ≤ a := by
    intro a
    rw [← mul_div_assoc, div_le_iff₀ hd]
    exact_mod_cast Iff.rfl
  have hlt : ∀ a : Nat, a * d < i.den * n ↔ (a : ℚ) < i.den * (n / d) := by
    intro a
    rw [← not_le, ← not_le, hge]
  have hgt : ∀ a : Nat, i.den * n < a * d ↔ i.den * ((n : ℚ) / d) < a := by
    intro a
    rw [← not_le, ← not_le, hle]
  unfold Interval.holds Interval.Has
  dsimp only
  split
  · simp only [Bool.and_eq_true, decide_eq_true_eq, hle, hge]
  · simp only [Bool.and_eq_true, decide_eq_true_eq, hlt, hgt]

variable {negative : Bool} {m e num den : Nat}

theorem Interval.bounds_of_holds {i : Interval} {n d : Nat} (h : i.holds n d = true) :
    i.low * d ≤ i.den * n ∧ i.den * n ≤ i.high * d ∧
      (i.closed = false → i.low * d < i.den * n ∧ i.den * n < i.high * d) := by
  unfold Interval.holds at h
  dsimp only at h
  split at h
  · next hclosed =>
    simp only [Bool.and_eq_true, decide_eq_true_eq] at h
    exact ⟨h.1, h.2, fun hopen => nomatch hclosed.symm.trans hopen⟩
  · simp only [Bool.and_eq_true, decide_eq_true_eq] at h
    exact ⟨Nat.le_of_lt h.1, Nat.le_of_lt h.2, fun _ => h⟩

/-- The interval of a number reaches half of its last place down, or a quarter of it. -/
theorem le_low_add (m e : Nat) : 4 * m * pow2 e ≤ (interval m e).low + 2 * pow2 e ∧
    (m = 2 ^ 52 → e ≠ 0 → 4 * m * pow2 e ≤ (interval m e).low + pow2 e) := by
  have hlow : (interval m e).low =
      (if m = pow2 52 ∧ e ≠ 0 then 4 * m - 1 else 4 * m - 2) * pow2 e := rfl
  rw [hlow, ← Nat.add_mul, ← Nat.succ_mul]
  refine ⟨Nat.mul_le_mul_right _ ?_, fun hm he => Nat.mul_le_mul_right _ ?_⟩
  · split <;> omega
  · rw [if_pos ⟨hm, he⟩]
    omega

theorem near_of_holds (h : (interval m e).holds num den = true) : Near m e num den := by
  obtain ⟨hlow, hhigh, hstrict⟩ := Interval.bounds_of_holds h
  obtain ⟨hhalf, hquarter⟩ := le_low_add m e
  have hden : (interval m e).den * num = 4 * (unitsPerOne * num) := Nat.mul_assoc ..
  have htop : (interval m e).high * den = 4 * (m * (den * pow2 e)) + 2 * (den * pow2 e) := by
    show (4 * m + 2) * pow2 e * den = _
    ring
  have hscale : 4 * m * pow2 e * den = 4 * (m * (den * pow2 e)) := by ring
  have hplace : ∀ a, a * pow2 e * den = a * (den * pow2 e) := fun a => by ring
  have hhalf := Nat.mul_le_mul_right den hhalf
  rw [Nat.add_mul, hscale, hplace] at hhalf
  rw [hden] at hlow hhigh hstrict
  rw [htop] at hhigh hstrict
  have hopen : m % 2 = 1 → (interval m e).closed = false := fun hodd =>
    decide_eq_false (by omega)
  refine ⟨by omega, hhigh, fun hodd => ?_, fun hm he => ?_⟩
  · have := hstrict (hopen hodd)
    omega
  · have hquarter := Nat.mul_le_mul_right den (hquarter hm he)
    rw [Nat.add_mul, Nat.mul_comm (pow2 e) den, hscale] at hquarter
    omega

/-- A quotient in the interval of a number is rounded to it. -/
theorem ofRatio_of_has (hden : 0 < den) (canonical : Canonical (.finite negative m e))
    (h : (interval m e).Has ((num : ℚ) / den)) : ofRatio negative num den = .finite negative m e :=
  ofRatio_of_near hden canonical (near_of_holds ((Interval.holds_iff hden).mpr h))

/-! ### Decimals -/

/-- The number `digits · 10^exponent`. -/
def decimalValue (digits : Nat) (exponent : Int) : ℚ := digits * 10 ^ exponent

theorem decimalValue_mul_pow (digits k : Nat) (exponent : Int) :
    decimalValue (digits * 10 ^ k) exponent = decimalValue digits (exponent + k) := by
  unfold decimalValue
  rw [zpow_add₀ (by norm_num), zpow_natCast]
  push_cast
  ring

theorem decimalValue_of_nonneg {digits : Nat} {exponent : Int} (h : 0 ≤ exponent) :
    ((digits * pow10 exponent.toNat : Nat) : ℚ) / (1 : Nat) = decimalValue digits exponent := by
  obtain ⟨k, rfl⟩ := Int.eq_ofNat_of_zero_le h
  rw [Int.toNat_natCast, decimalValue, zpow_natCast, pow10, Nat.pow_eq]
  push_cast
  ring

theorem decimalValue_of_neg {digits : Nat} {exponent : Int} (h : exponent ≤ 0) :
    (digits : ℚ) / (pow10 (-exponent).toNat : Nat) = decimalValue digits exponent := by
  obtain ⟨k, hk⟩ := Int.eq_ofNat_of_zero_le (Int.neg_nonneg_of_nonpos h)
  obtain rfl : exponent = -k := by omega
  rw [neg_neg, Int.toNat_natCast, decimalValue, zpow_neg, zpow_natCast, pow10, Nat.pow_eq]
  push_cast
  rw [div_eq_mul_inv]

/-- A decimal lies between the powers of ten that its digits are counted by. -/
theorem decimalValue_bounds {digits : Nat} (hdigits : digits ≠ 0) (exponent : Int) :
    (10 : ℚ) ^ (((Nat.toDigits 10 digits).length : Int) + exponent - 1) ≤
        decimalValue digits exponent ∧
      decimalValue digits exponent < 10 ^ (((Nat.toDigits 10 digits).length : Int) + exponent) := by
  have hpos : 0 < (Nat.toDigits 10 digits).length := Nat.length_toDigits_pos
  have hhigh : digits < 10 ^ (Nat.toDigits 10 digits).length :=
    (Nat.length_toDigits_le_iff (by decide) hpos).mp (Nat.le_refl _)
  obtain ⟨k, hk⟩ := Nat.exists_eq_add_one.mpr hpos
  have hlow : 10 ^ k ≤ digits := by
    rcases Nat.eq_zero_or_pos k with rfl | hkpos
    · rw [Nat.pow_zero]
      omega
    · by_contra hlt
      have := (Nat.length_toDigits_le_iff (by decide) hkpos).mpr (Nat.lt_of_not_le hlt)
      omega
  have hten : (0 : ℚ) < 10 ^ exponent := by positivity
  rw [hk] at hhigh ⊢
  have hsplit : ((k + 1 : Nat) : Int) + exponent - 1 = k + exponent := by push_cast; ring
  rw [hsplit, zpow_add₀ (by norm_num), zpow_add₀ (by norm_num), zpow_natCast, zpow_natCast]
  unfold decimalValue
  constructor
  · exact mul_le_mul_of_nonneg_right (by exact_mod_cast hlow) hten.le
  · exact mul_lt_mul_of_pos_right (by exact_mod_cast hhigh) hten

/-- The powers of ten beyond which every number is zero or infinite. -/
theorem outermost_powers : 4 * unitsPerOne < 10 ^ 330 ∧ pow2 1024 < 10 ^ 310 := by decide +kernel

theorem Interval.Has.bounds {i : Interval} {q : ℚ} (h : i.Has q) :
    (i.low : ℚ) ≤ i.den * q ∧ i.den * q ≤ i.high := by
  unfold Interval.Has at h
  split at h
  · exact h
  · exact ⟨h.1.le, h.2.le⟩

theorem low_interval_pos (hm : 0 < m) : 0 < (interval m e).low := by
  have hlow : (interval m e).low =
      (if m = pow2 52 ∧ e ≠ 0 then 4 * m - 1 else 4 * m - 2) * pow2 e := rfl
  rw [hlow]
  refine Nat.mul_pos ?_ (pow2_pos e)
  split <;> omega

theorem pow2_mono {d e : Nat} (h : d ≤ e) : pow2 d ≤ pow2 e := Nat.pow_le_pow_right (by decide) h

theorem high_interval_le (canonical : Canonical (.finite negative m e)) :
    (interval m e).high ≤ (interval m e).den * pow2 1024 := by
  obtain ⟨hm, -, he⟩ := canonical
  have hm : m < 2 ^ 53 := hm
  have hscale : pow2 e ≤ pow2 2045 := pow2_mono he
  calc (4 * m + 2) * pow2 e ≤ 2 ^ 55 * pow2 2045 := Nat.mul_le_mul (by omega) hscale
    _ = 4 * unitsPerOne * pow2 1024 := by decide +kernel

theorem den_interval_pos (m e : Nat) : 0 < (interval m e).den :=
  Nat.mul_pos (by decide) (pow2_pos 1074)

/-- What lies in the interval of a number is not too small to be read. -/
theorem not_small_of_has {digits : Nat} {exponent : Int} (hm : 0 < m) (hdigits : digits ≠ 0)
    (h : (interval m e).Has (decimalValue digits exponent)) :
    ¬((Nat.toDigits 10 digits).length : Int) + exponent < -330 := by
  intro hsmall
  obtain ⟨hfloor, hcap⟩ := decimalValue_bounds hdigits exponent
  have hvalue : decimalValue digits exponent < 10 ^ (-330 : Int) :=
    hcap.trans_le (zpow_le_zpow_right₀ (by norm_num) hsmall.le)
  have hden : ((interval m e).den : ℚ) < 10 ^ 330 := by
    have hden : (interval m e).den = 4 * unitsPerOne := rfl
    rw [hden]
    exact_mod_cast outermost_powers.1
  have hproduct : ((interval m e).den : ℚ) * decimalValue digits exponent < 1 := by
    calc ((interval m e).den : ℚ) * decimalValue digits exponent
        < 10 ^ 330 * 10 ^ (-330 : Int) := by
          refine mul_lt_mul hden hvalue.le ?_ (by positivity)
          exact (zpow_pos (by norm_num) _).trans_le hfloor
      _ = 1 := by
          rw [← zpow_natCast, ← zpow_add₀ (by norm_num)]
          norm_num
  have hone : (1 : ℚ) ≤ (interval m e).low := by exact_mod_cast low_interval_pos hm
  exact absurd (hone.trans h.bounds.1) hproduct.not_ge

/-- What lies in the interval of a number is not too large to be read. -/
theorem not_large_of_has {digits : Nat} {exponent : Int}
    (canonical : Canonical (.finite negative m e)) (hdigits : digits ≠ 0)
    (h : (interval m e).Has (decimalValue digits exponent)) :
    ¬310 < ((Nat.toDigits 10 digits).length : Int) + exponent := by
  intro hlarge
  obtain ⟨hfloor, -⟩ := decimalValue_bounds hdigits exponent
  have hvalue : (10 : ℚ) ^ 310 ≤ decimalValue digits exponent := by
    rw [← zpow_natCast]
    exact (zpow_le_zpow_right₀ (by norm_num) (by push_cast; omega)).trans hfloor
  have hhigh : ((interval m e).high : ℚ) ≤ (interval m e).den * (pow2 1024 : Nat) := by
    exact_mod_cast high_interval_le canonical
  have hgreatest : ((pow2 1024 : Nat) : ℚ) < 10 ^ 310 := by exact_mod_cast outermost_powers.2
  have hden : (0 : ℚ) < (interval m e).den := Nat.cast_pos.mpr (den_interval_pos m e)
  have hcontra : ((interval m e).den : ℚ) * (pow2 1024 : Nat) <
      (interval m e).den * decimalValue digits exponent :=
    mul_lt_mul_of_pos_left (hgreatest.trans_le hvalue) hden
  exact absurd (h.bounds.2.trans hhigh) hcontra.not_ge

theorem ne_zero_of_has {digits : Nat} {exponent : Int} (hm : 0 < m)
    (h : (interval m e).Has (decimalValue digits exponent)) : digits ≠ 0 := by
  rintro rfl
  have hlow : (0 : ℚ) < (interval m e).low := by exact_mod_cast low_interval_pos hm
  have hzero : decimalValue 0 exponent = 0 := by simp [decimalValue]
  have := h.bounds.1
  rw [hzero, mul_zero] at this
  linarith

/-- A decimal in the interval of a number is read as the number. -/
theorem ofDecimal_of_has {digits : Nat} {exponent : Int} (hm : 0 < m)
    (canonical : Canonical (.finite negative m e))
    (h : (interval m e).Has (decimalValue digits exponent)) :
    ofDecimal negative digits exponent = .finite negative m e := by
  have hdigits := ne_zero_of_has hm h
  unfold ofDecimal
  dsimp only
  rw [if_neg (not_or.mpr ⟨hdigits, not_small_of_has hm hdigits h⟩),
    if_neg (not_large_of_has canonical hdigits h)]
  split
  · next hexponent =>
    rw [← decimalValue_of_nonneg hexponent] at h
    exact ofRatio_of_has Nat.one_pos canonical h
  · next hexponent =>
    rw [← decimalValue_of_neg (Int.le_of_not_le hexponent)] at h
    exact ofRatio_of_has (pow10_pos _) canonical h

end RouteDoc.Binary64
