import Mathlib
import RouteDoc.Number.Shortest

/-! Rounding to the nearest number. What lies in the interval of a number, which reaches half way to
its neighbours, is rounded to this number, however it is written as a quotient; and what is rounded
has one form only. -/

namespace RouteDoc.Binary64

/-! ### Whole numbers -/

/-- What it is for a whole number to be nearest to a quotient. Where two are equally near, it is the
even one. -/
structure Nearest (num den m : Nat) : Prop where
  low : 2 * (m * den) ≤ 2 * num + den
  high : 2 * num ≤ 2 * (m * den) + den
  tie : m % 2 = 1 → 2 * (m * den) ≠ 2 * num + den ∧ 2 * num ≠ 2 * (m * den) + den

theorem nearest_roundDiv (num : Nat) {den : Nat} (hden : 0 < den) :
    Nearest num den (roundDiv num den) := by
  unfold roundDiv
  have hsplit : num / den * den + num % den = num := Nat.div_add_mod' num den
  have hrest : num % den < den := Nat.mod_lt num hden
  generalize num / den = q at hsplit ⊢
  generalize num % den = r at hsplit hrest ⊢
  have hnext : (q + 1) * den = q * den + den := Nat.succ_mul q den
  dsimp only
  split
  · exact ⟨by omega, by omega, fun _ => by omega⟩
  · split
    · -- A tie: the even one of the two neighbours.
      rcases Nat.mod_two_eq_zero_or_one q with heven | hodd
      · rw [heven, Nat.add_zero]
        exact ⟨by omega, by omega, fun hodd => by omega⟩
      · rw [hodd]
        exact ⟨by omega, by omega, fun heven => by omega⟩
    · exact ⟨by omega, by omega, fun _ => by omega⟩

/-- A whole number is nearest only when no smaller one is. -/
theorem Nearest.le {num den m n : Nat} (hden : 0 < den) (hm : Nearest num den m)
    (hn : Nearest num den n) : m ≤ n := by
  obtain ⟨hlow, -, hm⟩ := hm
  obtain ⟨-, hhigh, hn⟩ := hn
  refine Nat.le_of_not_lt fun hlt => ?_
  rcases Nat.eq_or_lt_of_le hlt with h | hlt
  · -- Neighbours are both nearest in a tie only, and one of them is odd.
    obtain rfl : m = n + 1 := h.symm
    have hnext : (n + 1) * den = n * den + den := Nat.succ_mul n den
    omega
  · have hmul : (n + 2) * den ≤ m * den := Nat.mul_le_mul_right den hlt
    rw [Nat.add_mul] at hmul
    omega

/-- A quotient is rounded to the whole number that is nearest. -/
theorem Nearest.roundDiv_eq {num den m : Nat} (hden : 0 < den) (h : Nearest num den m) :
    roundDiv num den = m :=
  Nat.le_antisymm ((nearest_roundDiv num hden).le hden h) (h.le hden (nearest_roundDiv num hden))

theorem roundDiv_bounds (num den : Nat) :
    num / den ≤ roundDiv num den ∧ roundDiv num den ≤ num / den + 1 := by
  unfold roundDiv
  dsimp only
  split
  · omega
  · split <;> omega

theorem bitLength_eq {n k : Nat} (low : 2 ^ k ≤ n) (high : n < 2 ^ (k + 1)) :
    bitLength n = k + 1 := by
  have hn : n ≠ 0 := by
    have := Nat.two_pow_pos k
    omega
  rw [bitLength, if_neg hn, (Nat.log2_eq_iff hn).mpr ⟨low, high⟩]

theorem bitLength_le {n k : Nat} (high : n < 2 ^ k) : bitLength n ≤ k := by
  unfold bitLength
  split
  · exact Nat.zero_le k
  · next hn => exact (Nat.log2_lt hn).mpr high

theorem lt_two_pow_bitLength (n : Nat) : n < 2 ^ bitLength n := by
  unfold bitLength
  split
  · next hn => simp [hn]
  · next hn => exact (Nat.log2_lt hn).mp (Nat.lt_succ_self _)

theorem two_pow_le_of_bitLength {n : Nat} (hn : n ≠ 0) : 2 ^ (bitLength n - 1) ≤ n := by
  rw [bitLength, if_neg hn]
  exact Nat.log2_self_le hn

/-! ### Quotients -/

variable {negative : Bool} {num den m e : Nat}

/-- Rounding to a mantissa, once the exponent is known. -/
theorem ofRatio_of_exponent
    (hexponent : bitLength (unitsPerOne * num / den) - 53 = e)
    (hmantissa : roundDiv (unitsPerOne * num) (den * pow2 e) = m) :
    ofRatio negative num den =
      if m = pow2 53 then
        (if e + 1 ≤ 2045 then .finite negative (pow2 52) (e + 1) else .infinite negative)
      else if e ≤ 2045 then .finite negative m e else .infinite negative := by
  unfold ofRatio
  dsimp only
  rw [hexponent, hmantissa]
  split <;> rfl

/-- The exponent of a quotient whose mantissa has all its bits. -/
theorem exponent_eq (hden : 0 < den) (low : 2 ^ 52 * (den * pow2 e) ≤ unitsPerOne * num)
    (high : unitsPerOne * num < 2 ^ 53 * (den * pow2 e)) :
    bitLength (unitsPerOne * num / den) - 53 = e := by
  have hlow : 2 ^ (e + 52) ≤ unitsPerOne * num / den := by
    rw [Nat.le_div_iff_mul_le hden]
    calc 2 ^ (e + 52) * den = 2 ^ 52 * (den * pow2 e) := by rw [pow2, Nat.pow_eq]; ring
      _ ≤ unitsPerOne * num := low
  have hhigh : unitsPerOne * num / den < 2 ^ (e + 52 + 1) := by
    rw [Nat.div_lt_iff_lt_mul hden]
    calc unitsPerOne * num < 2 ^ 53 * (den * pow2 e) := high
      _ = 2 ^ (e + 52 + 1) * den := by rw [pow2, Nat.pow_eq]; ring
  rw [bitLength_eq hlow hhigh]
  omega

theorem exponent_eq_zero (hden : 0 < den) (high : unitsPerOne * num < 2 ^ 53 * den) :
    bitLength (unitsPerOne * num / den) - 53 = 0 := by
  have hquotient : unitsPerOne * num / den < 2 ^ 53 := (Nat.div_lt_iff_lt_mul hden).mpr high
  exact Nat.sub_eq_zero_of_le (bitLength_le hquotient)

/-- What it is for a quotient to lie in the interval of a number. Below a power of two the interval
reaches half as far. -/
structure Near (m e num den : Nat) : Prop where
  low : 4 * (m * (den * pow2 e)) ≤ 4 * (unitsPerOne * num) + 2 * (den * pow2 e)
  high : 4 * (unitsPerOne * num) ≤ 4 * (m * (den * pow2 e)) + 2 * (den * pow2 e)
  inside : m % 2 = 1 →
    4 * (m * (den * pow2 e)) ≠ 4 * (unitsPerOne * num) + 2 * (den * pow2 e) ∧
      4 * (unitsPerOne * num) ≠ 4 * (m * (den * pow2 e)) + 2 * (den * pow2 e)
  edge : m = 2 ^ 52 → e ≠ 0 →
    4 * (m * (den * pow2 e)) ≤ 4 * (unitsPerOne * num) + den * pow2 e

/-- What lies just below a power of two is rounded up to it, over a mantissa with a bit too many. -/
theorem ofRatio_of_edge (hden : 0 < den) (he : e + 1 ≤ 2045)
    (below : unitsPerOne * num < 2 ^ 52 * (den * pow2 (e + 1)))
    (near : 4 * (2 ^ 52 * (den * pow2 (e + 1))) ≤
      4 * (unitsPerOne * num) + den * pow2 (e + 1)) :
    ofRatio negative num den = .finite negative (pow2 52) (e + 1) := by
  have hdouble : den * pow2 (e + 1) = 2 * (den * pow2 e) := by rw [pow2_succ]; ring
  have hpos : 0 < den * pow2 e := Nat.mul_pos hden (pow2_pos e)
  rw [hdouble] at below near
  have hexponent : bitLength (unitsPerOne * num / den) - 53 = e :=
    exponent_eq hden (by omega) (by omega)
  have hround : roundDiv (unitsPerOne * num) (den * pow2 e) = pow2 53 := by
    rw [show pow2 53 = 2 ^ 53 from rfl]
    exact Nearest.roundDiv_eq hpos ⟨by omega, by omega, fun hodd => by omega⟩
  rw [ofRatio_of_exponent hexponent hround, if_pos rfl, if_pos he]

/-- A quotient that is near to a number is rounded to it. -/
theorem ofRatio_of_near (hden : 0 < den) (canonical : Canonical (.finite negative m e))
    (near : Near m e num den) : ofRatio negative num den = .finite negative m e := by
  obtain ⟨hm, hnormal, he⟩ := canonical
  obtain ⟨hlow, hhigh, hinside, hedge⟩ := near
  have hpos : 0 < den * pow2 e := Nat.mul_pos hden (pow2_pos e)
  have hwide : m ≠ pow2 53 := Nat.ne_of_lt hm
  have hm : m < 2 ^ 53 := hm
  have hround : roundDiv (unitsPerOne * num) (den * pow2 e) = m :=
    Nearest.roundDiv_eq hpos ⟨by omega, by omega, fun hodd => by
      have := hinside hodd
      omega⟩
  have hcap : (m + 1) * (den * pow2 e) ≤ 2 ^ 53 * (den * pow2 e) :=
    Nat.mul_le_mul_right _ hm
  rw [Nat.add_mul, Nat.one_mul] at hcap
  -- Unless the quotient lies below the power of two that the number is, its exponent is `e`.
  have hdirect : bitLength (unitsPerOne * num / den) - 53 = e →
      ofRatio negative num den = .finite negative m e := by
    intro hexponent
    rw [ofRatio_of_exponent hexponent hround, if_neg hwide, if_pos he]
  rcases Nat.eq_zero_or_pos e with rfl | hpositive
  · rw [pow2_zero, Nat.mul_one] at *
    exact hdirect (exponent_eq_zero hden (by omega))
  · have hnormal : 2 ^ 52 ≤ m := hnormal.resolve_right (Nat.ne_of_gt hpositive)
    have hfloor : 2 ^ 52 * (den * pow2 e) ≤ m * (den * pow2 e) := Nat.mul_le_mul_right _ hnormal
    by_cases hbelow : unitsPerOne * num < 2 ^ 52 * (den * pow2 e)
    · have hm : m = 2 ^ 52 := by
        rcases Nat.eq_or_lt_of_le hnormal with h | h
        · exact h.symm
        · have hmul : (2 ^ 52 + 1) * (den * pow2 e) ≤ m * (den * pow2 e) :=
            Nat.mul_le_mul_right _ h
          rw [Nat.add_mul, Nat.one_mul] at hmul
          omega
      have hedge := hedge hm (Nat.ne_of_gt hpositive)
      obtain ⟨k, rfl⟩ := Nat.exists_eq_add_one.mpr hpositive
      rw [hm] at hedge ⊢
      exact ofRatio_of_edge hden he hbelow hedge
    · exact hdirect (exponent_eq hden (by omega) (by omega))

/-! ### Form -/

theorem canonical_carried {negative : Bool} (hm : m ≤ pow2 53) (hfull : pow2 52 ≤ m ∨ e = 0) :
    (if m = pow2 53 then
      (if e + 1 ≤ 2045 then finite negative (pow2 52) (e + 1) else infinite negative)
    else if e ≤ 2045 then finite negative m e else infinite negative).Canonical := by
  split
  · split
    · next he => exact ⟨by decide, .inl (Nat.le_refl _), he⟩
    · trivial
  · next hne =>
    split
    · next he => exact ⟨Nat.lt_of_le_of_ne hm hne, hfull, he⟩
    · trivial

/-- What a quotient is rounded to has the form of a number. -/
theorem canonical_ofRatio (negative : Bool) (num den : Nat) :
    (ofRatio negative num den).Canonical := by
  rw [ofRatio_of_exponent rfl rfl]
  generalize he : bitLength (unitsPerOne * num / den) - 53 = e
  have hquotient : unitsPerOne * num / (den * pow2 e) = unitsPerOne * num / den / 2 ^ e := by
    rw [Nat.div_div_eq_div_mul]
    rfl
  obtain ⟨hlow, hhigh⟩ := roundDiv_bounds (unitsPerOne * num) (den * pow2 e)
  rw [hquotient] at hlow hhigh
  have hbits := lt_two_pow_bitLength (unitsPerOne * num / den)
  generalize unitsPerOne * num / den = q at *
  by_cases hsmall : bitLength q ≤ 53
  · have he : e = 0 := by omega
    subst he
    have hq : q < 2 ^ 53 := Nat.lt_of_lt_of_le hbits (Nat.pow_le_pow_right (by decide) hsmall)
    rw [Nat.pow_zero, Nat.div_one] at hlow hhigh
    exact canonical_carried (Nat.le_trans hhigh hq) (.inr rfl)
  · have hlength : bitLength q = e + 53 := by omega
    have hne : q ≠ 0 := by
      rintro rfl
      exact hsmall (by decide)
    have hq := two_pow_le_of_bitLength hne
    rw [hlength] at hbits hq
    have hfull : 2 ^ 52 ≤ q / 2 ^ e := by
      rw [Nat.le_div_iff_mul_le (Nat.two_pow_pos e), ← Nat.pow_add, Nat.add_comm]
      exact hq
    have hcap : q / 2 ^ e < 2 ^ 53 := by
      rw [Nat.div_lt_iff_lt_mul (Nat.two_pow_pos e), ← Nat.pow_add, Nat.add_comm]
      exact hbits
    exact canonical_carried (Nat.le_trans hhigh hcap) (.inl (Nat.le_trans hfull hlow))

theorem canonical_ofDecimal (negative : Bool) (digits : Nat) (exponent : Int) :
    (ofDecimal negative digits exponent).Canonical := by
  unfold ofDecimal
  dsimp only
  split
  · exact ⟨by decide, .inr rfl, by decide⟩
  · split
    · trivial
    · split
      · exact canonical_ofRatio negative _ _
      · exact canonical_ofRatio negative _ _

end RouteDoc.Binary64
