import Mathlib
import RouteDoc.Proofs.Number.Interval

/-! The shortest decimal of a number is read back as the number. Whatever grid of decimals is tried
first, a point of it is taken only in the interval of the number; and the grid of seventeen digits
is so fine that one of its points lies there. -/

namespace RouteDoc.Binary64

variable {negative : Bool} {m e : Nat}

/-! ### One grid -/

/-- The factor that makes the steps of a grid whole, and the factor of the steps of one that are
whole already. -/
def gridUp (shift : Int) : Nat := if 0 ≤ shift then pow10 shift.toNat else 1

def gridDown (shift : Int) : Nat := if 0 ≤ shift then 1 else pow10 (-shift).toNat

theorem gridUp_pos (shift : Int) : 0 < gridUp shift := by
  unfold gridUp
  split
  · exact pow10_pos _
  · exact Nat.one_pos

theorem grid_value (shift : Int) (n : Nat) :
    ((n * gridDown shift : Nat) : ℚ) / (gridUp shift : Nat) = decimalValue n (-shift) := by
  unfold gridDown gridUp
  split
  · next h =>
    have hneg := @decimalValue_of_neg n (-shift) (Int.neg_nonpos_of_nonneg h)
    rw [Int.neg_neg] at hneg
    rwa [Nat.mul_one]
  · next h =>
    exact decimalValue_of_nonneg (Int.neg_nonneg_of_nonpos (Int.le_of_not_le h))

theorem gridDown_pos (shift : Int) : 0 < gridDown shift := by
  unfold gridDown
  split
  · exact Nat.one_pos
  · exact pow10_pos _

theorem decimalValue_mono {n k : Nat} (h : n ≤ k) (exponent : Int) :
    decimalValue n exponent ≤ decimalValue k exponent := by
  unfold decimalValue
  gcongr

/-- What a grid gives: its point next below the number or the one next above, if one of them lies
in the interval. -/
theorem Interval.gridPoint?_cases (i : Interval) (hden : 0 < i.den) (point : Int) (count : Nat) :
    ∃ n, decimalValue n (point - count) ≤ i.value / i.den ∧
      (i.value : ℚ) / i.den < decimalValue (n + 1) (point - count) ∧
      ((i.gridPoint? point count = some n ∧ i.Has (decimalValue n (point - count))) ∨
        (i.gridPoint? point count = some (n + 1) ∧
          i.Has (decimalValue (n + 1) (point - count))) ∨
        (i.gridPoint? point count = none ∧ ¬i.Has (decimalValue n (point - count)) ∧
          ¬i.Has (decimalValue (n + 1) (point - count)))) := by
  have hshift : point - count = -((count : Int) - point) := by ring
  rw [hshift]
  have hholds : ∀ n, i.holds (n * gridDown (count - point)) (gridUp (count - point)) = true ↔
      i.Has (decimalValue n (-((count : Int) - point))) := by
    intro n
    rw [Interval.holds_iff (gridUp_pos _), grid_value]
  have hstep : 0 < i.den * gridDown (count - point) := Nat.mul_pos hden (gridDown_pos _)
  have hfloor := Nat.div_mul_le_self (i.value * gridUp (count - point))
    (i.den * gridDown (count - point))
  have hceil := Nat.lt_div_mul_add hstep (a := i.value * gridUp (count - point))
  have hregroup : ∀ n, n * (i.den * gridDown (count - point)) =
      n * gridDown (count - point) * i.den := fun n => by ring
  rw [← Nat.succ_mul, hregroup] at hceil
  rw [hregroup] at hfloor
  refine ⟨i.value * gridUp (count - point) / (i.den * gridDown (count - point)), ?_, ?_, ?_⟩
  · rw [← grid_value, div_le_div_iff₀ (Nat.cast_pos.mpr (gridUp_pos _)) (Nat.cast_pos.mpr hden)]
    exact_mod_cast hfloor
  · rw [← grid_value, div_lt_div_iff₀ (Nat.cast_pos.mpr hden) (Nat.cast_pos.mpr (gridUp_pos _))]
    exact_mod_cast hceil
  · simp only [← hholds]
    unfold Interval.gridPoint?
    simp only [← gridUp.eq_1, ← gridDown.eq_1]
    split
    · next h => exact .inl ⟨rfl, h.1⟩
    · next hbelow =>
      split
      · next habove => exact .inr (.inl ⟨rfl, habove⟩)
      · next habove => exact .inr (.inr ⟨rfl, fun h => hbelow ⟨h, .inl habove⟩, habove⟩)

/-- Between two numbers of an interval everything is in it. -/
theorem Interval.Has.between {i : Interval} {p q r : ℚ} (hp : i.Has p) (hr : i.Has r)
    (hpq : p ≤ q) (hqr : q ≤ r) : i.Has q := by
  have hlow : (i.den : ℚ) * p ≤ i.den * q := mul_le_mul_of_nonneg_left hpq (Nat.cast_nonneg _)
  have hhigh : (i.den : ℚ) * q ≤ i.den * r := mul_le_mul_of_nonneg_left hqr (Nat.cast_nonneg _)
  unfold Interval.Has at *
  split at hp
  · next hclosed =>
    rw [if_pos hclosed] at hr ⊢
    exact ⟨hp.1.trans hlow, hhigh.trans hr.2⟩
  · next hopen =>
    rw [if_neg hopen] at hr ⊢
    exact ⟨hp.1.trans_le hlow, hhigh.trans_lt hr.2⟩

/-- A grid that has a point in the interval gives one. -/
theorem Interval.gridPoint?_ne_none {i : Interval} (hden : 0 < i.den)
    (hvalue : i.Has ((i.value : ℚ) / i.den)) {point : Int} {count k : Nat}
    (h : i.Has (decimalValue k (point - count))) : i.gridPoint? point count ≠ none := by
  obtain ⟨n, hbelow, habove, hcases⟩ := i.gridPoint?_cases hden point count
  rcases hcases with ⟨hsome, -⟩ | ⟨hsome, -⟩ | ⟨-, hlow, hhigh⟩
  · simp [hsome]
  · simp [hsome]
  · intro _
    rcases Nat.lt_or_ge n k with hk | hk
    · exact hhigh (hvalue.between h habove.le (decimalValue_mono hk _))
    · exact hlow (h.between hvalue (decimalValue_mono hk _) hbelow)

/-! ### The grid of seventeen digits -/

/-- A grid with steps less than the width of the interval has a point in it. -/
theorem Interval.exists_has {i : Interval} (hden : 0 < i.den) {exponent : Int}
    (hhigh : 0 < i.high) (hstep : i.low + i.den * (10 : ℚ) ^ exponent < i.high) :
    ∃ k, i.Has (decimalValue k exponent) := by
  have hden : (0 : ℚ) < i.den := Nat.cast_pos.mpr hden
  have hten : (0 : ℚ) < i.den * 10 ^ exponent := by positivity
  have hhigh : (0 : ℚ) < i.high := Nat.cast_pos.mpr hhigh
  -- The last point below the upper end.
  obtain ⟨k, hk⟩ := Nat.exists_eq_add_one.mpr (Nat.ceil_pos.mpr (div_pos hhigh hten))
  have hlast : (i.high : ℚ) ≤ (k + 1 : Nat) * (i.den * 10 ^ exponent) := by
    rw [← div_le_iff₀ hten, ← hk]
    exact Nat.le_ceil _
  have hbelow : (k : ℚ) * (i.den * 10 ^ exponent) < i.high := by
    rw [← lt_div_iff₀ hten, ← Nat.lt_ceil, hk]
    exact Nat.lt_succ_self k
  have hvalue : (i.den : ℚ) * decimalValue k exponent = k * (i.den * 10 ^ exponent) := by
    rw [decimalValue]
    ring
  have habove : (i.low : ℚ) < i.den * decimalValue k exponent := by
    rw [hvalue]
    push_cast at hlast
    linarith
  refine ⟨k, ?_⟩
  unfold Interval.Has
  split
  · exact ⟨habove.le, (hvalue ▸ hbelow).le⟩
  · exact ⟨habove, hvalue ▸ hbelow⟩

theorem low_interval_lt (m e : Nat) (hm : 0 < m) :
    (interval m e).low < (interval m e).value ∧ (interval m e).value < (interval m e).high := by
  have hlow : (interval m e).low =
      (if m = pow2 52 ∧ e ≠ 0 then 4 * m - 1 else 4 * m - 2) * pow2 e := rfl
  have hvalue : (interval m e).value = 4 * m * pow2 e := rfl
  have hhigh : (interval m e).high = (4 * m + 2) * pow2 e := rfl
  rw [hlow, hvalue, hhigh]
  constructor
  · refine Nat.mul_lt_mul_of_pos_right ?_ (pow2_pos e)
    split <;> omega
  · exact Nat.mul_lt_mul_of_pos_right (by omega) (pow2_pos e)

/-- A number lies in its interval. -/
theorem has_interval (hm : 0 < m) :
    (interval m e).Has ((interval m e).value / (interval m e).den) := by
  have hden : (0 : ℚ) < (interval m e).den := Nat.cast_pos.mpr (den_interval_pos m e)
  obtain ⟨hlow, hhigh⟩ := low_interval_lt m e hm
  unfold Interval.Has
  rw [mul_div_cancel₀ _ hden.ne']
  split
  · exact ⟨by exact_mod_cast hlow.le, by exact_mod_cast hhigh.le⟩
  · exact ⟨by exact_mod_cast hlow, by exact_mod_cast hhigh⟩

/-- The interval of a number is wider than the number's share of one in `10 ^ 16`. -/
theorem value_interval_lt (canonical : Canonical (.finite negative m e)) :
    (interval m e).value + (interval m e).low * 10 ^ 16 < (interval m e).high * 10 ^ 16 := by
  obtain ⟨hm, -, -⟩ := canonical
  have hm : m < 2 ^ 53 := hm
  have hedge : pow2 52 = 2 ^ 52 := rfl
  show 4 * m * pow2 e + (if m = pow2 52 ∧ e ≠ 0 then 4 * m - 1 else 4 * m - 2) * pow2 e * 10 ^ 16 <
    (4 * m + 2) * pow2 e * 10 ^ 16
  rw [Nat.mul_right_comm _ (pow2 e), Nat.mul_right_comm _ (pow2 e), ← Nat.add_mul]
  refine Nat.mul_lt_mul_of_pos_right ?_ (pow2_pos e)
  split <;> omega

theorem Interval.exists_has_seventeen {i : Interval} (hden : 0 < i.den)
    (hwide : i.value + i.low * 10 ^ 16 < i.high * 10 ^ 16) {point : Int}
    (h : (10 : ℚ) ^ (point - 1) ≤ i.value / i.den) :
    ∃ k, i.Has (decimalValue k (point - (17 : Nat))) := by
  have hhigh : 0 < i.high := by omega
  have hwide : (i.value : ℚ) + i.low * 10 ^ 16 < i.high * 10 ^ 16 := by exact_mod_cast hwide
  have hsteps : (10 : ℚ) ^ (point - 1) = 10 ^ (point - (17 : Nat)) * 10 ^ 16 := by
    rw [← zpow_natCast, ← zpow_add₀ (by norm_num)]
    congr 1
    push_cast
    ring
  rw [le_div_iff₀ (Nat.cast_pos.mpr hden), hsteps] at h
  exact i.exists_has hden hhigh (by linarith)

/-! ### The point -/

theorem lt_ten_zpow_iff {num den : Nat} (hden : 0 < den) (k : Int) :
    (if 0 ≤ k then num < den * pow10 k.toNat else num * pow10 (-k).toNat < den) ↔
      (num : ℚ) / den < 10 ^ k := by
  rw [div_lt_iff₀ (Nat.cast_pos.mpr hden)]
  split
  · next hk =>
    obtain ⟨n, rfl⟩ := Int.eq_ofNat_of_zero_le hk
    rw [Int.toNat_natCast, zpow_natCast, mul_comm, pow10, Nat.pow_eq]
    exact_mod_cast Iff.rfl
  · next hk =>
    obtain ⟨n, hn⟩ := Int.eq_ofNat_of_zero_le (Int.neg_nonneg_of_nonpos (Int.le_of_not_le hk))
    obtain rfl : k = -n := by omega
    rw [Int.neg_neg, Int.toNat_natCast, zpow_neg, zpow_natCast, ← div_eq_inv_mul,
      lt_div_iff₀ (by positivity), pow10, Nat.pow_eq]
    exact_mod_cast Iff.rfl

/-- A power of ten below a number stays below it while the next ones are tried. -/
theorem decimalPoint_le {num den : Nat} (hden : 0 < den) (fuel : Nat) {k : Int}
    (h : (10 : ℚ) ^ (k - 1) ≤ num / den) :
    (10 : ℚ) ^ (decimalPoint num den fuel k - 1) ≤ num / den := by
  induction fuel generalizing k with
  | zero => exact h
  | succ fuel ih =>
    unfold decimalPoint
    simp only [lt_ten_zpow_iff hden]
    split
    · exact h
    · next hbelow => exact ih (by rw [Int.add_sub_cancel]; exact not_lt.mp hbelow)

theorem zpow_le_zpow_of_nonpos {a b : ℚ} {x : Int} (ha : 0 < a) (h : a ≤ b) (hx : x ≤ 0) :
    b ^ x ≤ a ^ x := by
  have hinv := zpow_le_zpow_left₀ (Int.neg_nonneg_of_nonpos hx) ha.le h
  rwa [zpow_neg, zpow_neg, inv_le_inv₀ (zpow_pos ha x) (zpow_pos (ha.trans_le h) x)] at hinv

/-- The guess at a power of ten is below the power of two that it is made from. -/
theorem ten_zpow_le_two_zpow {k x : Int} (hleast : -1075 ≤ x) (hgreatest : x ≤ 1024)
    (h : 100000 * k ≤ 30103 * x - 200000) : (10 : ℚ) ^ k ≤ 2 ^ x := by
  rcases le_or_gt 0 x with hx | hx
  · -- 10 ^ 3 ≤ 2 ^ 10
    refine (pow_le_pow_iff_left₀ (by positivity) (by positivity) (by decide : 10 ≠ 0)).mp ?_
    calc ((10 : ℚ) ^ k) ^ 10 = 10 ^ (k * 10) := by rw [zpow_mul]; rfl
      _ ≤ 10 ^ (3 * x) := zpow_le_zpow_right₀ (by norm_num) (by omega)
      _ = 1000 ^ x := by rw [zpow_mul]; norm_num
      _ ≤ 1024 ^ x := zpow_le_zpow_left₀ hx (by norm_num) (by norm_num)
      _ = 2 ^ (10 * x) := by rw [zpow_mul]; norm_num
      _ = (2 ^ x) ^ 10 := by rw [mul_comm, zpow_mul]; rfl
  · -- 2 ^ 43 ≤ 10 ^ 13
    refine (pow_le_pow_iff_left₀ (by positivity) (by positivity) (by decide : 43 ≠ 0)).mp ?_
    calc ((10 : ℚ) ^ k) ^ 43 = 10 ^ (k * 43) := by rw [zpow_mul]; rfl
      _ ≤ 10 ^ (13 * x) := zpow_le_zpow_right₀ (by norm_num) (by omega)
      _ = (10 ^ 13) ^ x := by rw [zpow_mul]; rfl
      _ ≤ (2 ^ 43) ^ x := zpow_le_zpow_of_nonpos (by norm_num) (by norm_num) hx.le
      _ = 2 ^ (43 * x) := by rw [zpow_mul]; rfl
      _ = (2 ^ x) ^ 43 := by rw [mul_comm, zpow_mul]; rfl

theorem two_zpow_le_quotient {k m : Nat} (h : 2 ^ k ≤ m) (e unit : Nat) :
    (2 : ℚ) ^ (((k + e : Nat) : Int) - unit) ≤
      ((4 * m * pow2 e : Nat) : ℚ) / (4 * pow2 unit : Nat) := by
  have hpos : (0 : ℚ) < (4 * pow2 unit : Nat) :=
    Nat.cast_pos.mpr (Nat.mul_pos (by decide) (pow2_pos unit))
  have hle : 2 ^ (k + e) * (4 * pow2 unit) ≤ 4 * m * pow2 e * 2 ^ unit := by
    calc 2 ^ (k + e) * (4 * pow2 unit) = 4 * 2 ^ k * pow2 e * 2 ^ unit := by
          rw [pow2, pow2, Nat.pow_eq, Nat.pow_eq]
          ring
      _ ≤ 4 * m * pow2 e * 2 ^ unit := by gcongr
  rw [zpow_sub₀ (by norm_num), zpow_natCast, zpow_natCast, le_div_iff₀ hpos, div_mul_eq_mul_div,
    div_le_iff₀ (by positivity)]
  exact_mod_cast hle

/-- A number is at least the power of two that its highest bit stands for. -/
theorem two_zpow_le_value (hm : m ≠ 0) :
    (2 : ℚ) ^ (((bitLength m + e : Nat) : Int) - 1075) ≤
      (interval m e).value / (interval m e).den := by
  obtain ⟨k, hk⟩ : ∃ k, bitLength m = k + 1 := ⟨m.log2, by rw [bitLength, if_neg hm]⟩
  have hbits := two_pow_le_of_bitLength hm
  rw [hk, Nat.add_sub_cancel] at hbits
  -- The number 1074 has a name, for its power must not be computed.
  obtain ⟨unit, hunit, hunits⟩ : ∃ unit, unit = 1074 ∧ unitsPerOne = pow2 unit :=
    ⟨1074, rfl, unitsPerOne.eq_1⟩
  have hexponent : ((bitLength m + e : Nat) : Int) - 1075 = ((k + e : Nat) : Int) - unit := by
    omega
  have hvalue : (interval m e).value = 4 * m * pow2 e := rfl
  have hden : (interval m e).den = 4 * pow2 unit := by
    rw [← hunits]
    rfl
  rw [hexponent, hvalue, hden]
  exact two_zpow_le_quotient hbits e unit

theorem guess_le (hm : 0 < m) (canonical : Canonical (.finite negative m e)) :
    (10 : ℚ) ^ ((((bitLength m + e : Nat) : Int) - 1075) * 30103 / 100000 - 1 - 1) ≤
      (interval m e).value / (interval m e).den := by
  obtain ⟨hbits, -, he⟩ := canonical
  have hlength : bitLength m ≤ 53 := bitLength_le hbits
  have hone : 1 ≤ bitLength m := by
    rw [bitLength, if_neg hm.ne']
    exact Nat.le_add_left 1 _
  refine (ten_zpow_le_two_zpow ?_ ?_ ?_).trans (two_zpow_le_value hm.ne')
  · omega
  · omega
  · omega

/-! ### The search -/

theorem Interval.has_of_gridPoint? {i : Interval} (hden : 0 < i.den) {point : Int} {count n : Nat}
    (h : i.gridPoint? point count = some n) : i.Has (decimalValue n (point - count)) := by
  obtain ⟨k, -, -, hcases⟩ := i.gridPoint?_cases hden point count
  rcases hcases with ⟨hsome, hhas⟩ | ⟨hsome, hhas⟩ | ⟨hnone, -⟩
  · rwa [← Option.some.inj (hsome.symm.trans h)]
  · rwa [← Option.some.inj (hsome.symm.trans h)]
  · exact nomatch hnone.symm.trans h

/-- The search stops at the latest at a grid with a point. -/
theorem Interval.gridPoint?_shortest {i : Interval} {point : Int} {last : Nat}
    (h : i.gridPoint? point last ≠ none) (fuel : Nat) {count : Nat} (hcount : count ≤ last)
    (hfuel : last < count + fuel) :
    i.gridPoint? point (i.shortest point fuel count).2 = some (i.shortest point fuel count).1 := by
  induction fuel generalizing count with
  | zero => omega
  | succ fuel ih =>
    unfold Interval.shortest
    split
    · next hsome => exact hsome
    · next hnone =>
      have hne : count ≠ last := by
        rintro rfl
        exact h hnone
      exact ih (by omega) (by omega)

/-- Digits without the zeros at their end. -/
def strip (digits : List Char) : List Char := (digits.reverse.dropWhile (· == '0')).reverse

theorem strip_append_zero (digits : List Char) : strip (digits ++ ['0']) = strip digits := by
  simp [strip]

theorem strip_append_of_ne {c : Char} (h : c ≠ '0') (digits : List Char) :
    strip (digits ++ [c]) = digits ++ [c] := by
  simp [strip, h]

/-- The digits of a number without the zeros at their end are those of a number, a power of ten
smaller. -/
theorem strip_toDigits {n : Nat} (hn : n ≠ 0) : ∃ d k, d ≠ 0 ∧ n = d * 10 ^ k ∧
    strip (Nat.toDigits 10 n) = Nat.toDigits 10 d ∧
    (Nat.toDigits 10 n).length = (Nat.toDigits 10 d).length + k := by
  induction n using Nat.strongRecOn with
  | ind n ih =>
    have hdigit : ∀ r < 10, r ≠ 0 → r.digitChar ≠ '0' := by decide
    rcases Nat.lt_or_ge n 10 with hsmall | hlarge
    · refine ⟨n, 0, hn, (Nat.mul_one n).symm, ?_, rfl⟩
      rw [Nat.toDigits_of_lt_base hsmall]
      exact strip_append_of_ne (hdigit n hsmall hn) []
    · have hlast := Nat.toDigits_of_base_le (by decide) hlarge
      by_cases hzero : n % 10 = 0
      · obtain ⟨d, k, hd, hsplit, hstrip, hlength⟩ := ih (n / 10) (by omega) (by omega)
        refine ⟨d, k + 1, hd, ?_, ?_, ?_⟩
        · rw [Nat.pow_succ, ← Nat.mul_assoc, ← hsplit]
          omega
        · rw [hlast, hzero]
          exact (strip_append_zero _).trans hstrip
        · rw [hlast, List.length_append, hlength]
          rfl
      · refine ⟨n, 0, hn, (Nat.mul_one n).symm, ?_, rfl⟩
        rw [hlast]
        exact strip_append_of_ne (hdigit _ (Nat.mod_lt n (by decide)) hzero) _

/-- The shortest decimal of a number: its digits are those of a whole number, and it lies in the
interval. -/
theorem has_shortest (hm : 0 < m) (canonical : Canonical (.finite negative m e)) :
    ∃ n, n ≠ 0 ∧ (shortest m e).digits = Nat.toDigits 10 n ∧
      (interval m e).Has
        (decimalValue n ((shortest m e).point - (Nat.toDigits 10 n).length)) := by
  have hden := den_interval_pos m e
  have hpoint := decimalPoint_le hden 4 (guess_le hm canonical)
  unfold shortest
  rw [if_neg hm.ne']
  dsimp only
  generalize decimalPoint (interval m e).value (interval m e).den 4 _ = point at hpoint ⊢
  obtain ⟨j, hj⟩ := Interval.exists_has_seventeen hden (value_interval_lt canonical) hpoint
  have hfound := Interval.gridPoint?_shortest
    (Interval.gridPoint?_ne_none hden (has_interval hm) hj) 17 (by decide : 1 ≤ 17) (by decide)
  generalize (interval m e).shortest point 17 1 = found at hfound ⊢
  have hhas := Interval.has_of_gridPoint? hden hfound
  obtain ⟨d, k, hd, hsplit, hstrip, hlength⟩ := strip_toDigits (ne_zero_of_has hm hhas)
  refine ⟨d, hd, hstrip, ?_⟩
  rw [hlength]
  rw [hsplit, decimalValue_mul_pow] at hhas
  convert hhas using 2
  push_cast
  ring

end RouteDoc.Binary64
