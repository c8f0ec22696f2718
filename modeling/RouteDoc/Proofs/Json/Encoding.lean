import RouteDoc.Proofs.Json.Grammar

/-! The two ways to write a literal: characters beyond ASCII as they are, or each as the escapes of
its code units. Both are in the grammar, so reading undoes them, whatever text is written and
whatever follows the literal. -/

namespace RouteDoc.Json.Literal

/-- The escape of a code unit. -/
def escapeUnit (n : Nat) : Text := '\\' :: 'u' :: Text.ofHex 4 n

/-- One character between the marks, in ASCII alone; a character from U+10000 on has one escape for
each half of its surrogate pair. -/
def encodeAsciiChar (c : Char) : Text :=
  if c.toNat < 0x7f then encodeChar c
  else if c.toNat < 0x10000 then escapeUnit c.toNat
  else
    escapeUnit (0xD800 + (c.toNat - 0x10000) / 0x400) ++
      escapeUnit (0xDC00 + (c.toNat - 0x10000) % 0x400)

/-- The literal of a text in ASCII alone. -/
def encodeAscii (t : Text) : Text := '\x22' :: t.flatMap encodeAsciiChar ++ ['\x22']

theorem mem_shortEscapes_of_shortEscape? {c letter : Char} (h : shortEscape? c = some letter) :
    (letter, c) ∈ shortEscapes := by
  obtain ⟨other, hmem, hunit⟩ := unescape?_eq_some_iff.mp (unescape?_of_shortEscape? h)
  rwa [← Char.toNat_inj.mp hunit]

theorem exists_escapeUnit {n : Nat} (h : n < 0x10000) :
    ∃ a b c d, escapeUnit n = ['\\', 'u', a, b, c, d] ∧ IsUnit a b c d n := by
  obtain ⟨a, b, c, d, hdigits, hnumber⟩ := exists_ofHex_four h
  exact ⟨a, b, c, d, by rw [escapeUnit, hdigits], hexNumber?_eq_some_iff.mp hnumber⟩

theorem Spells.escapeUnit_append {n : Nat} {t : Text} {points : List Nat} (h : n < 0x10000)
    (rest : Spells t points) : Spells (escapeUnit n ++ t) (n :: points) := by
  obtain ⟨_, _, _, _, hescape, hunit⟩ := exists_escapeUnit h
  rw [hescape]
  exact .unit hunit rest

/-- What is written for a character spells it, whatever stands behind. -/
def IsWriting (write : Char → Text) : Prop :=
  ∀ (c : Char) {t : Text} {points : List Nat}, Spells t points →
    Spells (write c ++ t) (c.toNat :: points)

theorem isWriting_encodeChar : IsWriting encodeChar := by
  intro c t points rest
  unfold encodeChar
  by_cases hmark : c = '\x22' ∨ c = '\\'
  · rw [if_pos hmark]
    refine .short ?_ rest
    rcases hmark with rfl | rfl <;> decide
  rw [if_neg hmark]
  cases hletter : shortEscape? c with
  | some letter => exact .short (mem_shortEscapes_of_shortEscape? hletter) rest
  | none =>
    by_cases hcontrol : c.toNat < 32
    · simp only [hcontrol, if_true]
      exact rest.escapeUnit_append (n := c.toNat) (by omega)
    · simp only [hcontrol, if_false]
      exact .plain (by omega) (fun h => hmark (.inl h)) (fun h => hmark (.inr h)) rest

theorem isWriting_encodeAsciiChar : IsWriting encodeAsciiChar := by
  intro c t points rest
  unfold encodeAsciiChar
  split_ifs with hascii hunit
  · exact isWriting_encodeChar c rest
  · exact rest.escapeUnit_append hunit
  · have hvalid : c.toNat < 0xD800 ∨ 0xDFFF < c.toNat ∧ c.toNat < 0x110000 := c.valid
    have hlow : (c.toNat - 0x10000) % 0x400 < 0x400 := Nat.mod_lt _ (by decide)
    have hhigh : (c.toNat - 0x10000) / 0x400 < 0x400 := by omega
    have hcode : c.toNat =
        0x10000 + 0x400 * ((c.toNat - 0x10000) / 0x400) + (c.toNat - 0x10000) % 0x400 := by omega
    obtain ⟨_, _, _, _, hfirst, hfirstUnit⟩ :=
      exists_escapeUnit (n := 0xD800 + (c.toNat - 0x10000) / 0x400) (by omega)
    obtain ⟨_, _, _, _, hsecond, hsecondUnit⟩ :=
      exists_escapeUnit (n := 0xDC00 + (c.toNat - 0x10000) % 0x400) (by omega)
    rw [hfirst, hsecond, hcode]
    exact .pair hfirstUnit hsecondUnit hhigh hlow rest

variable {write : Char → Text}

theorem IsWriting.flatMap (h : IsWriting write) (t : Text) :
    Spells (t.flatMap write) (t.map Char.toNat) := by
  induction t with
  | nil => exact .nil
  | cons c t ih => exact h c ih

/-- A literal is read back as the text it was written from. -/
theorem IsWriting.decode?_flatMap (h : IsWriting write) (t rest : Text) :
    decode? ('\x22' :: t.flatMap write ++ ['\x22'] ++ rest) = some (t, rest) := by
  obtain ⟨value, hreads, hvalue⟩ := decode?_of_spells (h.flatMap t)
  obtain rfl := hvalue t rfl
  rw [List.append_assoc]
  exact hreads rest

theorem decode?_encode (t rest : Text) : decode? (encode t ++ rest) = some (t, rest) :=
  isWriting_encodeChar.decode?_flatMap t rest

theorem decode?_encodeAscii (t rest : Text) : decode? (encodeAscii t ++ rest) = some (t, rest) :=
  isWriting_encodeAsciiChar.decode?_flatMap t rest

end RouteDoc.Json.Literal
