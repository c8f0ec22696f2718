import Mathlib
import RouteDoc.Proofs.Number.Numeral
import RouteDoc.Proofs.Number.Shortest

/-! The text of a decimal: a whole part without zeros in front, and behind it a point with digits,
an exponent, or both, which together say the value of the decimal. -/

namespace RouteDoc

namespace Numeral

/-- Digits that a number can begin with: no zero stands before another digit. -/
def IsWhole (t : Text) : Prop :=
  t ≠ [] ∧ (∀ c ∈ t, c.isDigit = true) ∧ (t.length = 1 ∨ t.head? ≠ some '0')

theorem ofText_append (s t : Text) : ofText (s ++ t) = ofText s * 10 ^ t.length + ofText t := by
  simp only [ofText_eq_ofDigitChars, Nat.ofDigitChars_append]
  rw [Nat.ofDigitChars_eq_ofDigitChars_zero, Nat.mul_comm]

theorem ofText_fill_zero (k : Nat) : ofText (Text.fill '0' k) = 0 := by
  rw [ofText_eq_ofDigitChars, Text.fill, Nat.ofDigitChars_replicate_zero, Nat.mul_zero]

theorem ofText_toDigits (n : Nat) : ofText (Nat.toDigits 10 n) = n := by
  rw [ofText_eq_ofDigitChars, Nat.ofDigitChars_ten_toDigits]

theorem isDigit_of_mem_toDigits {n : Nat} {c : Char} (h : c ∈ Nat.toDigits 10 n) :
    c.isDigit = true :=
  Nat.isDigit_of_mem_toDigits (by decide) (by decide) h

theorem isDigit_of_mem_fill_zero {k : Nat} {c : Char} (h : c ∈ Text.fill '0' k) :
    c.isDigit = true := by
  rw [List.eq_of_mem_replicate h]
  rfl

theorem head_toDigits_ne {n : Nat} (hn : n ≠ 0) : (Nat.toDigits 10 n).head? ≠ some '0' := by
  induction n using Nat.strongRecOn with
  | ind n ih =>
    rcases Nat.lt_or_ge n 10 with hsmall | hlarge
    · rw [Nat.toDigits_of_lt_base hsmall]
      have hdigit : ∀ r < 10, r ≠ 0 → [r.digitChar].head? ≠ some '0' := by decide
      exact hdigit n hsmall hn
    · rw [Nat.toDigits_of_base_le (by decide) hlarge,
        List.head?_append_of_ne_nil _ Nat.toDigits_ne_nil]
      exact ih (n / 10) (by omega) (by omega)

theorem isWhole_toDigits (n : Nat) : IsWhole (Nat.toDigits 10 n) := by
  refine ⟨Nat.toDigits_ne_nil, fun c => isDigit_of_mem_toDigits, ?_⟩
  by_cases hn : n = 0
  · subst hn
    exact .inl rfl
  · exact .inr (head_toDigits_ne hn)

/-- A first part of the digits of a number, or the digits with more behind them, begin a number
too. -/
theorem isWhole_of_head {n : Nat} (hn : n ≠ 0) {t : Text} (hne : t ≠ [])
    (hdigits : ∀ c ∈ t, c.isDigit = true) (hhead : t.head? = (Nat.toDigits 10 n).head?) :
    IsWhole t :=
  ⟨hne, hdigits, .inr (hhead ▸ head_toDigits_ne hn)⟩

/-- What stands for a fraction. -/
def pointed (fraction : Text) : Text := if fraction.isEmpty then [] else '.' :: fraction

end Numeral

namespace Binary64

open Numeral

theorem exponentText_eq (x : Int) : ∃ digits, digits ≠ [] ∧ (∀ c ∈ digits, c.isDigit = true) ∧
    ofText digits = x.natAbs ∧ exponentText x = (if x < 0 then '-' else '+') :: digits := by
  refine ⟨Text.fill '0' (2 - (Text.ofNat x.natAbs).length) ++ Text.ofNat x.natAbs, ?_, ?_, ?_, rfl⟩
  · exact List.append_ne_nil_of_right_ne_nil _ (ofNat_ne_nil _)
  · intro c hc
    exact (List.mem_append.mp hc).elim isDigit_of_mem_fill_zero isDigit_of_mem_ofNat
  · rw [ofText_append, ofText_fill_zero, Nat.zero_mul, Nat.zero_add, ofText_ofNat]

/-- The digits of `whole` and `fraction`, with a point between them and `shift` as the exponent
behind them, write the number `n · 10^exponent`. -/
structure Writes (n : Nat) (exponent : Int) (whole fraction : Text) (shift : Int) : Prop where
  isWhole : IsWhole whole
  isDigit : ∀ c ∈ fraction, c.isDigit = true
  value : decimalValue (ofText (whole ++ fraction)) (shift - fraction.length) =
    decimalValue n exponent

variable {n : Nat}

/-- Zeros stand between the point and the digits of a number below a tenth. -/
theorem writes_small (n k : Nat) :
    Writes n (-k - (Nat.toDigits 10 n).length) ['0'] (Text.fill '0' k ++ Nat.toDigits 10 n) 0 := by
  refine ⟨isWhole_toDigits 0, fun c hc => ?_, ?_⟩
  · exact (List.mem_append.mp hc).elim isDigit_of_mem_fill_zero isDigit_of_mem_toDigits
  · have hzero : ofText ['0'] = 0 := rfl
    have hlength : (Text.fill '0' k ++ Nat.toDigits 10 n).length =
        k + (Nat.toDigits 10 n).length := by
      rw [List.length_append, Text.fill, List.length_replicate]
    rw [ofText_append, ofText_append, hzero, ofText_fill_zero, ofText_toDigits, hlength]
    congr 1
    · omega
    · omega

/-- Zeros fill a whole number up to the point. -/
theorem writes_filled {k : Nat} (hn : n = 0 → k = 0) :
    Writes n k (Nat.toDigits 10 n ++ Text.fill '0' k) ['0'] 0 := by
  have hne : Nat.toDigits 10 n ≠ [] := Nat.toDigits_ne_nil
  refine ⟨?_, fun c hc => isDigit_of_mem_fill_zero (k := 1) hc, ?_⟩
  · by_cases h : n = 0
    · rw [hn h]
      have hfill : Nat.toDigits 10 n ++ Text.fill '0' 0 = Nat.toDigits 10 n := List.append_nil _
      rw [hfill]
      exact isWhole_toDigits n
    · refine isWhole_of_head h (List.append_ne_nil_of_left_ne_nil hne _) (fun c hc => ?_)
        (List.head?_append_of_ne_nil _ hne)
      exact (List.mem_append.mp hc).elim isDigit_of_mem_toDigits isDigit_of_mem_fill_zero
  · have hzero : ofText ['0'] = 0 := rfl
    have hlength : (Text.fill '0' k).length = k := List.length_replicate
    rw [ofText_append, ofText_append, hzero, ofText_fill_zero, ofText_toDigits, hlength,
      Nat.add_zero, Nat.add_zero, decimalValue_mul_pow, decimalValue_mul_pow]
    congr 1
    simp

/-- The point stands behind the first `k` digits. -/
theorem writes_cut {k : Nat} (hk : 0 < k) (hn : n = 0 → k = 1)
    (hlength : k ≤ (Nat.toDigits 10 n).length) (shift : Int) :
    Writes n (shift + k - (Nat.toDigits 10 n).length) ((Nat.toDigits 10 n).take k)
      ((Nat.toDigits 10 n).drop k) shift := by
  have htake : ((Nat.toDigits 10 n).take k).length = k := List.length_take_of_le hlength
  have hne : (Nat.toDigits 10 n).take k ≠ [] := List.ne_nil_of_length_pos (by omega)
  have hdigits : ∀ c ∈ (Nat.toDigits 10 n).take k, c.isDigit = true := fun c hc =>
    isDigit_of_mem_toDigits (List.mem_of_mem_take hc)
  refine ⟨?_, fun c hc => isDigit_of_mem_toDigits (List.mem_of_mem_drop hc), ?_⟩
  · by_cases h : n = 0
    · exact ⟨hne, hdigits, .inl (htake.trans (hn h))⟩
    · refine isWhole_of_head h hne hdigits ?_
      rw [List.head?_take, if_neg (Nat.ne_of_gt hk)]
  · rw [List.take_append_drop, ofText_toDigits, List.length_drop]
    congr 1
    omega

/-- Digits without a fraction may have a zero behind the point. -/
theorem writes_padded (n : Nat) (shift : Int) :
    Writes n shift (Nat.toDigits 10 n) ['0'] shift := by
  refine ⟨isWhole_toDigits n, fun c hc => isDigit_of_mem_fill_zero (k := 1) hc, ?_⟩
  have hzero : ofText ['0'] = 0 := rfl
  rw [ofText_append, hzero, ofText_toDigits, Nat.add_zero, decimalValue_mul_pow]
  congr 1
  simp

/-- Near to the units, a decimal is written with a point alone. -/
theorem Decimal.render_of_plain {layout : Layout} {point : Int} (h : n = 0 → point = 1)
    (plain : layout.leastPlain ≤ point - 1 ∧ point - 1 ≤ layout.greatestPlain) :
    ∃ whole fraction, Writes n (point - (Nat.toDigits 10 n).length) whole fraction 0 ∧
      fraction ≠ [] ∧
        Decimal.render layout ⟨Nat.toDigits 10 n, point⟩ = whole ++ '.' :: fraction := by
  have hpos : 0 < (Nat.toDigits 10 n).length := Nat.length_toDigits_pos
  have hzero : n = 0 → (Nat.toDigits 10 n).length = 1 := by
    rintro rfl
    rfl
  unfold Decimal.render
  dsimp only
  rw [if_pos plain]
  split
  · next hsmall =>
    obtain ⟨k, hk⟩ := Int.eq_ofNat_of_zero_le (Int.neg_nonneg_of_nonpos hsmall)
    obtain rfl : point = -k := by omega
    refine ⟨_, _, writes_small n k, ?_, ?_⟩
    · exact List.append_ne_nil_of_right_ne_nil _ Nat.toDigits_ne_nil
    · rw [Int.neg_neg, Int.toNat_natCast, List.append_assoc]
      rfl
  · next hlarge =>
    obtain ⟨w, rfl⟩ := Int.eq_ofNat_of_zero_le (Int.le_of_not_le hlarge)
    rw [Int.toNat_natCast]
    split
    · next hfits =>
      obtain ⟨k, rfl⟩ := Nat.exists_eq_add_of_le hfits
      have hk : n = 0 → k = 0 := fun hn => by
        have := h hn
        have := hzero hn
        omega
      have hwrites := writes_filled hk
      have hexponent : (((Nat.toDigits 10 n).length + k : Nat) : Int) -
          (Nat.toDigits 10 n).length = k := by omega
      refine ⟨_, _, hexponent ▸ hwrites, List.cons_ne_nil _ _, ?_⟩
      rw [Nat.add_sub_cancel_left]
    · next hlong =>
      have hwrites := writes_cut (n := n) (k := w) (by omega) (by omega) (by omega) 0
      rw [Int.zero_add] at hwrites
      refine ⟨_, _, hwrites, ?_, List.append_assoc ..⟩
      exact List.ne_nil_of_length_pos (by rw [List.length_drop]; omega)

/-- Far from the units, a decimal is written with its first digit in front of the point and with an
exponent. -/
theorem Decimal.render_of_not_plain {layout : Layout} {point : Int}
    (plain : ¬(layout.leastPlain ≤ point - 1 ∧ point - 1 ≤ layout.greatestPlain)) :
    ∃ whole fraction, Writes n (point - (Nat.toDigits 10 n).length) whole fraction (point - 1) ∧
      Decimal.render layout ⟨Nat.toDigits 10 n, point⟩ =
        whole ++ pointed fraction ++ layout.exponentMark ++ exponentText (point - 1) := by
  have hwrites := writes_cut (n := n) Nat.one_pos (fun _ => rfl) Nat.length_toDigits_pos (point - 1)
  rw [Nat.cast_one, Int.sub_add_cancel] at hwrites
  unfold Decimal.render
  dsimp only
  rw [if_neg plain]
  split
  · next htail =>
    have hone : (Nat.toDigits 10 n).length = 1 := by
      have hpos : 0 < (Nat.toDigits 10 n).length := Nat.length_toDigits_pos
      have := List.isEmpty_iff_length_eq_zero.mp htail
      rw [List.length_drop] at this
      omega
    have htake : (Nat.toDigits 10 n).take 1 = Nat.toDigits 10 n :=
      List.take_of_length_le (Nat.le_of_eq hone)
    split
    · have hpadded := writes_padded n (point - 1)
      refine ⟨Nat.toDigits 10 n, ['0'], ?_, ?_⟩
      · rwa [hone]
      · rw [htake]
        rfl
    · refine ⟨_, _, hwrites, ?_⟩
      rw [pointed, if_pos htail]
  · next htail =>
    refine ⟨_, _, hwrites, ?_⟩
    rw [pointed, if_neg htail]

/-- However the shortest decimal of a number is written, it is read as the number. -/
theorem ofDecimal_of_value {negative : Bool} {m e : Nat}
    (canonical : Canonical (.finite negative m e)) :
    ∃ n point, shortest m e = ⟨Nat.toDigits 10 n, point⟩ ∧ (n = 0 → point = 1) ∧
      ∀ digits exponent,
        decimalValue digits exponent = decimalValue n (point - (Nat.toDigits 10 n).length) →
          ofDecimal negative digits exponent = .finite negative m e := by
  by_cases hm : m = 0
  · subst hm
    obtain ⟨-, hfull, -⟩ := canonical
    obtain rfl : e = 0 := hfull.resolve_left (Nat.not_le_of_gt (pow2_pos 52))
    refine ⟨0, 1, rfl, fun _ => rfl, fun digits exponent hvalue => ?_⟩
    have hdigits : digits = 0 := by
      have hten : (10 : ℚ) ^ exponent ≠ 0 := by positivity
      simpa [decimalValue, hten] using hvalue
    rw [hdigits]
    rfl
  · obtain ⟨n, hn, hdigits, hhas⟩ := has_shortest (Nat.pos_of_ne_zero hm) canonical
    refine ⟨n, (shortest m e).point, by rw [← hdigits], fun h => absurd h hn, ?_⟩
    intro digits exponent hvalue
    exact ofDecimal_of_has (Nat.pos_of_ne_zero hm) canonical (hvalue ▸ hhas)

/-- The parts of the text of a finite number without its sign. -/
theorem exists_parts (layout : Layout) {negative : Bool} {m e : Nat}
    (canonical : Canonical (.finite negative m e)) :
    ∃ whole fraction shift, IsWhole whole ∧ (∀ c ∈ fraction, c.isDigit = true) ∧
      ofDecimal negative (ofText (whole ++ fraction)) (shift - fraction.length) =
        .finite negative m e ∧
      (shift = 0 ∧ fraction ≠ [] ∧
          (shortest m e).render layout = whole ++ pointed fraction ∨
        (shortest m e).render layout =
          whole ++ pointed fraction ++ layout.exponentMark ++ exponentText shift) := by
  obtain ⟨n, point, hshortest, hpoint, hreads⟩ := ofDecimal_of_value canonical
  by_cases plain : layout.leastPlain ≤ point - 1 ∧ point - 1 ≤ layout.greatestPlain
  · obtain ⟨whole, fraction, hwrites, hne, hrender⟩ := Decimal.render_of_plain hpoint plain
    refine ⟨whole, fraction, 0, hwrites.isWhole, hwrites.isDigit, hreads _ _ hwrites.value,
      .inl ⟨rfl, hne, ?_⟩⟩
    rw [hshortest, hrender, pointed, if_neg (by simpa using hne)]
  · obtain ⟨whole, fraction, hwrites, hrender⟩ := Decimal.render_of_not_plain (n := n) plain
    exact ⟨whole, fraction, point - 1, hwrites.isWhole, hwrites.isDigit,
      hreads _ _ hwrites.value, .inr (hshortest ▸ hrender)⟩

end Binary64

end RouteDoc
