import RouteDoc.Json.Literal
import RouteDoc.Proofs.Outcome

/-! String literals piece by piece: how a character, a short escape and an escape of four digits are
read, and how the code units that are read make characters. -/

namespace RouteDoc.Json.Literal

/-- A code unit read before those of a rest. -/
def addUnit (unit : Nat) (rest : Option (List Nat × Text)) : Option (List Nat × Text) :=
  rest.map fun (units, rest) => (unit :: units, rest)

theorem units?_plain {c : Char} (rest : Text) (control : ¬c.toNat < 32) (mark : c ≠ '\x22')
    (slash : c ≠ '\\') : units? (c :: rest) = addUnit c.toNat (units? rest) := by
  rw [units?]
  · simp [control, slash, addUnit]
  · simpa using mark
  · intro _ _ _ _ _ h
    simp [slash] at h
  · intro _ _ h
    simp [slash] at h

theorem units?_escaped {letter : Char} {unit : Nat} (rest : Text)
    (h : unescape? letter = some unit) :
    units? ('\\' :: letter :: rest) = addUnit unit (units? rest) := by
  have hu : letter ≠ 'u' := by
    rintro rfl
    exact nomatch h
  rw [units?]
  · rw [h]
    cases units? rest <;> rfl
  · intro _ _ _ _ _ h
    simp [hu] at h

theorem units?_hex {a b c d : Char} {unit : Nat} (rest : Text)
    (h : Text.hexNumber? [a, b, c, d] = some unit) :
    units? ('\\' :: 'u' :: a :: b :: c :: d :: rest) = addUnit unit (units? rest) := by
  rw [units?, h]
  cases units? rest <;> rfl

theorem ofHex_of_lt {n : Nat} (h : n < 16) (width : Nat) :
    Text.ofHex (width + 1) n = Text.fill '0' width ++ [n.digitChar] := by
  rw [Text.ofHex, Nat.toDigits_of_lt_base h]
  rfl

theorem ofHex_add_two (width n : Nat) :
    Text.ofHex (width + 2) n = Text.ofHex (width + 1) (n / 16) ++ [(n % 16).digitChar] := by
  by_cases h : n < 16
  · have hzeros : Text.fill '0' (width + 1) = Text.fill '0' width ++ ['0'] := List.replicate_succ'
    rw [Nat.div_eq_of_lt h, Nat.mod_eq_of_lt h, ofHex_of_lt h, ofHex_of_lt (by decide), hzeros]
    rfl
  · have hdigits := Nat.toDigits_append_toDigits (b := 16) (n := n / 16) (d := n % 16)
      (by decide) (by omega) (by omega)
    rw [Nat.div_add_mod, Nat.toDigits_of_lt_base (n := n % 16) (by omega)] at hdigits
    simp only [Text.ofHex, ← hdigits, List.length_append, List.length_singleton]
    rw [show width + 2 = width + 1 + 1 from rfl, Nat.add_sub_add_right, List.append_assoc]

theorem hexDigit?_digitChar : ∀ d < 16, Text.hexDigit? d.digitChar = some d := by decide

/-- A code unit is written in four digits, which are read back as the unit. -/
theorem exists_ofHex_four {n : Nat} (h : n < 0x10000) :
    ∃ a b c d, Text.ofHex 4 n = [a, b, c, d] ∧ Text.hexNumber? [a, b, c, d] = some n := by
  have hfirst : n / 16 / 16 / 16 < 16 := by omega
  have hdigit : ∀ m, Text.hexDigit? (m % 16).digitChar = some (m % 16) :=
    fun m => hexDigit?_digitChar _ (Nat.mod_lt m (by decide))
  have hvalue : 16 * (16 * (16 * (n / 16 / 16 / 16) + n / 16 / 16 % 16) + n / 16 % 16) + n % 16 =
      n := by omega
  refine ⟨(n / 16 / 16 / 16).digitChar, (n / 16 / 16 % 16).digitChar, (n / 16 % 16).digitChar,
    (n % 16).digitChar, ?_, ?_⟩
  · rw [ofHex_add_two, ofHex_add_two, ofHex_add_two, ofHex_of_lt hfirst]
    rfl
  · simp [Text.hexNumber?, hexDigit?_digitChar _ hfirst, hdigit, hvalue]

theorem unescape?_of_shortEscape? {c letter : Char} (h : shortEscape? c = some letter) :
    unescape? letter = some c.toNat := by
  unfold shortEscape? at h
  split_ifs at h with hb hf hn hr ht
  all_goals
    subst_vars
    cases h
    rfl

/-- No character is half a surrogate pair. -/
theorem not_isSurrogate (c : Char) : ¬(0xD800 ≤ c.toNat ∧ c.toNat < 0xE000) := by
  have valid : c.toNat < 0xD800 ∨ 0xDFFF < c.toNat ∧ c.toNat < 0x110000 := c.valid
  omega

/-- A character that is no half of a pair stands for itself, whatever unit follows. -/
theorem ofUnits_toNat_cons (c : Char) (units : List Nat) :
    ofUnits (c.toNat :: units) = c :: ofUnits units := by
  have hunit : ofUnit c.toNat = c := by
    rw [ofUnit, if_neg (not_isSurrogate c), Char.ofNat_toNat]
  have hhigh : isHighSurrogate c.toNat = false := by
    have := not_isSurrogate c
    simp only [isHighSurrogate, Bool.and_eq_false_iff, decide_eq_false_iff_not]
    omega
  cases units with
  | nil => simp [ofUnits, hunit]
  | cons unit units =>
    simp only [ofUnits, hhigh, Bool.false_and, Bool.false_eq_true, if_false, hunit]

end RouteDoc.Json.Literal
