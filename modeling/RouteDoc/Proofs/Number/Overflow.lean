import RouteDoc.Proofs.Number.Interval

/-! Overflow: a decimal is read as a finite number when it lies below the middle between the largest
number and the power of two behind it, and is read as infinite from there on. -/

namespace RouteDoc.Binary64

/-- The middle between the largest number and the power of two behind it. -/
def overflow : Nat := pow2 1024 - pow2 970

theorem overflow_eq : 0 < overflow ∧ overflow ≤ pow2 1024 ∧
    2 * unitsPerOne * overflow + pow2 2045 = 2 ^ 54 * pow2 2045 := by
  decide +kernel

/-- A quotient is rounded to less than an even number when it is more than a half below. -/
theorem roundDiv_lt_iff {num den k : Nat} (hden : 0 < den) :
    roundDiv num den < 2 * k ↔ 2 * num + den < 4 * (k * den) := by
  obtain ⟨hlow, hhigh, htie⟩ := nearest_roundDiv num hden
  generalize roundDiv num den = m at *
  have heven : 2 * k * den = 2 * (k * den) := Nat.mul_assoc 2 k den
  rcases Nat.lt_trichotomy (m + 1) (2 * k) with h | h | h
  · have hmul : (m + 2) * den ≤ 2 * k * den := Nat.mul_le_mul_right den h
    rw [Nat.add_mul] at hmul
    omega
  · -- The odd number below is not what a tie goes down to.
    have hmul : (m + 1) * den = 2 * k * den := by rw [h]
    rw [Nat.add_mul, Nat.one_mul] at hmul
    omega
  · have hmul : 2 * k * den ≤ m * den := Nat.mul_le_mul_right den (Nat.le_of_lt_succ h)
    omega

variable {negative : Bool} {num den : Nat}

theorem isFinite_carried {m e : Nat} :
    (if m = pow2 53 then
      (if e + 1 ≤ 2045 then finite negative (pow2 52) (e + 1) else infinite negative)
    else if e ≤ 2045 then finite negative m e else infinite negative).isFinite = true ↔
      e < 2045 ∨ e = 2045 ∧ m ≠ pow2 53 := by
  by_cases hm : m = pow2 53
  · rw [if_pos hm]
    split <;> simp [isFinite, hm] <;> omega
  · rw [if_neg hm]
    split <;> simp [isFinite, hm] <;> omega

theorem isFinite_ofRatio_iff_scaled (hden : 0 < den) :
    (ofRatio negative num den).isFinite = true ↔
      2 * (unitsPerOne * num) + den * pow2 2045 < 4 * (2 ^ 52 * (den * pow2 2045)) := by
  rw [ofRatio_of_exponent rfl rfl, isFinite_carried]
  have hpos : 0 < den * pow2 2045 := Nat.mul_pos hden (pow2_pos _)
  have hplace : ∀ e k, 2 ^ k * (den * pow2 e) = 2 ^ (e + k) * den := fun e k => by
    rw [pow2, Nat.pow_eq, pow_add]
    ring
  rcases Nat.lt_or_ge (unitsPerOne * num) (2 ^ 52 * (den * pow2 2045)) with hlow | hlow
  · have hquotient : unitsPerOne * num / den < 2 ^ (2045 + 52) := by
      rw [Nat.div_lt_iff_lt_mul hden, ← hplace]
      exact hlow
    have hlength := bitLength_le hquotient
    exact iff_of_true (.inl (by omega)) (by omega)
  rcases Nat.lt_or_ge (unitsPerOne * num) (2 ^ 53 * (den * pow2 2045)) with hhigh | hhigh
  · rw [exponent_eq hden hlow hhigh, ← roundDiv_lt_iff hpos]
    obtain ⟨-, hround⟩ := roundDiv_bounds (unitsPerOne * num) (den * pow2 2045)
    have hquotient : unitsPerOne * num / (den * pow2 2045) < 2 ^ 53 := by
      rw [Nat.div_lt_iff_lt_mul hpos]
      exact hhigh
    have hfull : pow2 53 = 2 * 2 ^ 52 := rfl
    rw [hfull]
    omega
  · have hquotient : 2 ^ (2045 + 53) ≤ unitsPerOne * num / den := by
      rw [Nat.le_div_iff_mul_le hden, ← hplace]
      exact hhigh
    have hlength : ¬bitLength (unitsPerOne * num / den) ≤ 2045 + 53 := fun hle => by
      have hbits := lt_two_pow_bitLength (unitsPerOne * num / den)
      have hcap := Nat.pow_le_pow_right (n := 2) (by decide) hle
      omega
    refine iff_of_false ?_ (by omega)
    omega

/-- A quotient is rounded to a finite number when it lies below the overflow. -/
theorem isFinite_ofRatio_iff (hden : 0 < den) :
    (ofRatio negative num den).isFinite = true ↔ (num : ℚ) / den < overflow := by
  have hpos : (0 : ℚ) < den := by exact_mod_cast hden
  obtain ⟨-, -, hoverflow⟩ := overflow_eq
  have hunits : 0 < 2 * unitsPerOne := Nat.mul_pos (by decide) (pow2_pos _)
  have hscaled : 2 * unitsPerOne * (overflow * den) + den * pow2 2045 =
      4 * (2 ^ 52 * (den * pow2 2045)) := by
    calc 2 * unitsPerOne * (overflow * den) + den * pow2 2045
        = (2 * unitsPerOne * overflow + pow2 2045) * den := by ring
      _ = 4 * (2 ^ 52 * (den * pow2 2045)) := by
        rw [hoverflow]
        ring
  rw [isFinite_ofRatio_iff_scaled hden, div_lt_iff₀ hpos, ← hscaled, Nat.add_lt_add_iff_right,
    ← Nat.mul_assoc, Nat.mul_lt_mul_left hunits]
  exact_mod_cast Iff.rfl

/-- A decimal is read as a finite number when it lies below the overflow. -/
theorem isFinite_ofDecimal_iff (negative : Bool) (digits : Nat) (exponent : Int) :
    (ofDecimal negative digits exponent).isFinite = true ↔
      decimalValue digits exponent < overflow := by
  obtain ⟨hpos, hle, -⟩ := overflow_eq
  have hone : (1 : ℚ) ≤ overflow := by exact_mod_cast hpos
  unfold ofDecimal
  dsimp only
  split
  · next hsmall =>
    refine iff_of_true rfl (lt_of_lt_of_le ?_ hone)
    by_cases hdigits : digits = 0
    · simp [hdigits, decimalValue]
    · have hmagnitude := hsmall.resolve_left hdigits
      calc decimalValue digits exponent
          < 10 ^ (((Nat.toDigits 10 digits).length : Int) + exponent) :=
            (decimalValue_bounds hdigits exponent).2
        _ ≤ 10 ^ (0 : Int) := zpow_le_zpow_right₀ (by norm_num) (by omega)
        _ = 1 := zpow_zero 10
  · next hlarge =>
    obtain ⟨hdigits, -⟩ := not_or.mp hlarge
    split
    · next hmagnitude =>
      refine iff_of_false (by simp [isFinite]) (not_lt.mpr ?_)
      have hcap : ((overflow : Nat) : ℚ) ≤ 10 ^ 310 := by
        exact_mod_cast hle.trans outermost_powers.2.le
      calc ((overflow : Nat) : ℚ) ≤ 10 ^ 310 := hcap
        _ = 10 ^ (310 : Int) := (zpow_natCast 10 310).symm
        _ ≤ 10 ^ (((Nat.toDigits 10 digits).length : Int) + exponent - 1) :=
          zpow_le_zpow_right₀ (by norm_num) (by omega)
        _ ≤ decimalValue digits exponent := (decimalValue_bounds hdigits exponent).1
    · split
      · next hexponent =>
        rw [isFinite_ofRatio_iff Nat.one_pos, decimalValue_of_nonneg hexponent]
      · next hexponent =>
        rw [isFinite_ofRatio_iff (pow10_pos _), decimalValue_of_neg (Int.le_of_not_le hexponent)]

end RouteDoc.Binary64

namespace RouteDoc.Numeral

open Binary64

/-- A numeral without the blanks around it, the low lines in it and its sign. -/
def unsigned? (t : Text) : Option Text :=
  (dropLowLines? false (Text.trim isPadding (toAscii t))).map fun body => (cutSign body).2

/-- A text names no finite number: its sign apart, it is a word for infinity or for no number, or a
decimal from the overflow on. -/
def IsBoundless (t : Text) : Prop :=
  ∃ rest, unsigned? t = some rest ∧
    (Text.toLowerAscii rest ∈ ["inf".toList, "infinity".toList, "nan".toList] ∨
      ∃ digits exponent, decimal? rest = some (digits, exponent) ∧
        (overflow : ℚ) ≤ decimalValue digits exponent)

theorem float?_eq_some_iff {t : Text} {x : Binary64} : float? t = some x ↔
    ∃ body, dropLowLines? false (Text.trim isPadding (toAscii t)) = some body ∧
      magnitude? (cutSign body).1 (cutSign body).2 = some x :=
  Option.bind_eq_some_iff

theorem magnitude?_eq_some {negative : Bool} {rest : Text} {x : Binary64}
    (h : magnitude? negative rest = some x) :
    (Text.toLowerAscii rest ∈ ["inf".toList, "infinity".toList, "nan".toList] ∧
      (x = .infinite negative ∨ x = .nan)) ∨
    Text.toLowerAscii rest ∉ ["inf".toList, "infinity".toList, "nan".toList] ∧
      ∃ digits exponent, decimal? rest = some (digits, exponent) ∧
        x = ofDecimal negative digits exponent := by
  unfold magnitude? at h
  dsimp only at h
  split at h
  · next hword =>
    refine .inl ⟨?_, .inl (Option.some.inj h).symm⟩
    rcases hword with hword | hword <;> simp [hword]
  · next hnone =>
    split at h
    · next hword => exact .inl ⟨by simp [hword], .inr (Option.some.inj h).symm⟩
    · next hnan =>
      obtain ⟨⟨digits, exponent⟩, hdecimal, rfl⟩ := Option.map_eq_some_iff.mp h
      refine .inr ⟨?_, digits, exponent, hdecimal, rfl⟩
      simp only [List.mem_cons, List.not_mem_nil, or_false]
      tauto

theorem canonical_of_float? {t : Text} {x : Binary64} (h : float? t = some x) : x.Canonical := by
  obtain ⟨body, -, h⟩ := float?_eq_some_iff.mp h
  rcases magnitude?_eq_some h with ⟨-, rfl | rfl⟩ | ⟨-, digits, exponent, -, rfl⟩
  · trivial
  · trivial
  · exact canonical_ofDecimal _ digits exponent

/-- The texts that are read as a number, but not as a finite one. -/
theorem isFinite_eq_false_iff {t : Text} {x : Binary64} (h : float? t = some x) :
    x.isFinite = false ↔ IsBoundless t := by
  obtain ⟨body, hbody, h⟩ := float?_eq_some_iff.mp h
  have hunsigned : unsigned? t = some (cutSign body).2 := by rw [unsigned?, hbody, Option.map_some]
  constructor
  · intro hinfinite
    refine ⟨_, hunsigned, ?_⟩
    rcases magnitude?_eq_some h with ⟨hword, -⟩ | ⟨-, digits, exponent, hdecimal, rfl⟩
    · exact .inl hword
    · rw [← Bool.not_eq_true, isFinite_ofDecimal_iff, not_lt] at hinfinite
      exact .inr ⟨digits, exponent, hdecimal, hinfinite⟩
  · rintro ⟨rest, hrest, hbound⟩
    obtain rfl := Option.some.inj (hunsigned.symm.trans hrest)
    rcases magnitude?_eq_some h with ⟨-, rfl | rfl⟩ | ⟨hword, digits, exponent, hdecimal, rfl⟩
    · rfl
    · rfl
    · obtain ⟨digits', exponent', hdecimal', hvalue⟩ := hbound.resolve_left hword
      obtain ⟨rfl, rfl⟩ := Prod.mk.inj (Option.some.inj (hdecimal.symm.trans hdecimal'))
      rw [← Bool.not_eq_true, isFinite_ofDecimal_iff, not_lt]
      exact hvalue

end RouteDoc.Numeral
