import RouteDoc.Proofs.Json.Literal

/-! The grammar of string literals in RFC 8259. `Spells` relates what stands between the marks of a
literal to the code points that it spells; two escapes that make a surrogate pair may spell one. The
reader accepts the literals of the grammar and no other text, and where a literal spells a text of
characters the reader finds this text. -/

namespace RouteDoc.Json.Literal

/-- A digit of base sixteen, in either case, and its value. -/
def IsHexDigit (c : Char) (value : Nat) : Prop :=
  (c, value) ∈ "0123456789abcdef".toList.zipIdx ∨ (c, value) ∈ "0123456789ABCDEF".toList.zipIdx

/-- Four digits of base sixteen and the code unit that they write. -/
def IsUnit (a b c d : Char) (unit : Nat) : Prop :=
  ∃ x y z w, IsHexDigit a x ∧ IsHexDigit b y ∧ IsHexDigit c z ∧ IsHexDigit d w ∧
    unit = 4096 * x + 256 * y + 16 * z + w

/-- The letters that make an escape behind a backslash, and the characters that they stand for. -/
def shortEscapes : List (Char × Char) :=
  [('\x22', '\x22'), ('\\', '\\'), ('/', '/'), ('b', '\x08'), ('f', '\x0c'), ('n', '\n'),
    ('r', '\r'), ('t', '\t')]

/-- What stands between the marks of a literal, and the code points that it spells. Half a
surrogate pair that is escaped alone spells itself, which is no character. -/
inductive Spells : Text → List Nat → Prop
  | nil : Spells [] []
  | plain {c : Char} {t : Text} {points : List Nat} : 32 ≤ c.toNat → c ≠ '\x22' → c ≠ '\\' →
    Spells t points → Spells (c :: t) (c.toNat :: points)
  | short {letter c : Char} {t : Text} {points : List Nat} : (letter, c) ∈ shortEscapes →
    Spells t points → Spells ('\\' :: letter :: t) (c.toNat :: points)
  | unit {a b c d : Char} {n : Nat} {t : Text} {points : List Nat} : IsUnit a b c d n →
    Spells t points → Spells ('\\' :: 'u' :: a :: b :: c :: d :: t) (n :: points)
  | pair {a b c d a' b' c' d' : Char} {high low : Nat} {t : Text} {points : List Nat} :
    IsUnit a b c d (0xD800 + high) → IsUnit a' b' c' d' (0xDC00 + low) → high < 0x400 →
    low < 0x400 → Spells t points →
    Spells ('\\' :: 'u' :: a :: b :: c :: d :: '\\' :: 'u' :: a' :: b' :: c' :: d' :: t)
      ((0x10000 + 0x400 * high + low) :: points)

/-! ### Digits and escapes -/

theorem hexDigit?_eq_some_iff {c : Char} {value : Nat} :
    Text.hexDigit? c = some value ↔ IsHexDigit c value := by
  constructor
  · intro h
    have hascii : c.toNat < 128 := by
      simp only [Text.hexDigit?] at h
      split_ifs at h <;> omega
    have hall : ∀ n < 128, ∀ value ∈ Text.hexDigit? (Char.ofNat n),
        (Char.ofNat n, value) ∈ "0123456789abcdef".toList.zipIdx ∨
          (Char.ofNat n, value) ∈ "0123456789ABCDEF".toList.zipIdx := by decide
    have hc := hall c.toNat hascii
    rw [Char.ofNat_toNat] at hc
    exact hc value h
  · have hlower : ∀ e ∈ "0123456789abcdef".toList.zipIdx, Text.hexDigit? e.1 = some e.2 := by decide
    have hupper : ∀ e ∈ "0123456789ABCDEF".toList.zipIdx, Text.hexDigit? e.1 = some e.2 := by decide
    rintro (h | h)
    · exact hlower _ h
    · exact hupper _ h

theorem hexNumber?_eq_some_iff {a b c d : Char} {unit : Nat} :
    Text.hexNumber? [a, b, c, d] = some unit ↔ IsUnit a b c d unit := by
  simp only [Text.hexNumber?, List.foldlM_cons, List.foldlM_nil, Option.bind_eq_bind,
    Option.bind_eq_some_iff, Option.map_eq_some_iff, hexDigit?_eq_some_iff, IsUnit, Option.pure_def,
    Option.some.injEq]
  constructor
  · rintro ⟨_, ⟨x, hx, rfl⟩, _, ⟨y, hy, rfl⟩, _, ⟨z, hz, rfl⟩, _, ⟨w, hw, rfl⟩, rfl⟩
    exact ⟨x, y, z, w, hx, hy, hz, hw, by omega⟩
  · rintro ⟨x, y, z, w, hx, hy, hz, hw, rfl⟩
    exact ⟨_, ⟨x, hx, rfl⟩, _, ⟨y, hy, rfl⟩, _, ⟨z, hz, rfl⟩, _, ⟨w, hw, rfl⟩, by omega⟩

theorem unescape?_eq_some_iff {letter : Char} {unit : Nat} :
    unescape? letter = some unit ↔ ∃ c, (letter, c) ∈ shortEscapes ∧ c.toNat = unit := by
  constructor
  · intro h
    have hc : (letter, Char.ofNat unit) ∈ shortEscapes ∧ (Char.ofNat unit).toNat = unit := by
      unfold unescape? at h
      split at h <;> cases h <;> decide
    exact ⟨_, hc⟩
  · rintro ⟨c, hc, rfl⟩
    have hall : ∀ e ∈ shortEscapes, unescape? e.1 = some e.2.toNat := by decide
    exact hall _ hc

/-! ### Reading -/

theorem ofUnits_pair {c : Char} {high low : Nat} (hhigh : high < 0x400) (hlow : low < 0x400)
    (hc : c.toNat = 0x10000 + 0x400 * high + low) (units : List Nat) :
    ofUnits ((0xD800 + high) :: (0xDC00 + low) :: units) = c :: ofUnits units := by
  have hfirst : isHighSurrogate (0xD800 + high) = true := by
    simp only [isHighSurrogate, Bool.and_eq_true, decide_eq_true_eq]
    omega
  have hsecond : isLowSurrogate (0xDC00 + low) = true := by
    simp only [isLowSurrogate, Bool.and_eq_true, decide_eq_true_eq]
    omega
  have hcode : 0x10000 + (0xD800 + high - 0xD800) * 0x400 + (0xDC00 + low - 0xDC00) = c.toNat := by
    omega
  rw [ofUnits, hfirst, hsecond, hcode, Char.ofNat_toNat]
  rfl

theorem ofUnits_cons {units points : List Nat} {n : Nat}
    (h : ∀ t : Text, points = t.map Char.toNat → ofUnits units = t) (t : Text)
    (ht : n :: points = t.map Char.toNat) : ofUnits (n :: units) = t := by
  obtain ⟨c, t, rfl, rfl, hrest⟩ := List.map_eq_cons_iff.mp ht.symm
  rw [ofUnits_toNat_cons, h t hrest.symm]

/-- What the grammar allows between the marks is read up to the closing mark, whatever follows it,
and as the text that it spells. -/
theorem units?_of_spells {body : Text} {points : List Nat} (h : Spells body points) :
    ∃ units, (∀ rest, units? (body ++ '\x22' :: rest) = some (units, rest)) ∧
      ∀ t : Text, points = t.map Char.toNat → ofUnits units = t := by
  induction h with
  | nil => exact ⟨[], fun _ => rfl, fun t ht => by rw [List.map_eq_nil_iff.mp ht.symm]; rfl⟩
  | @plain c _ _ hcontrol hmark hslash _ ih =>
    obtain ⟨units, hunits, hpoints⟩ := ih
    refine ⟨c.toNat :: units, fun rest => ?_, ofUnits_cons hpoints⟩
    rw [List.cons_append, units?_plain _ (by omega) hmark hslash, hunits]
    rfl
  | @short letter c _ _ hescape _ ih =>
    obtain ⟨units, hunits, hpoints⟩ := ih
    refine ⟨c.toNat :: units, fun rest => ?_, ofUnits_cons hpoints⟩
    have hunit := unescape?_eq_some_iff.mpr ⟨c, hescape, rfl⟩
    rw [List.cons_append, List.cons_append, units?_escaped _ hunit, hunits]
    rfl
  | @unit _ _ _ _ n _ _ hunit _ ih =>
    obtain ⟨units, hunits, hpoints⟩ := ih
    refine ⟨n :: units, fun rest => ?_, ofUnits_cons hpoints⟩
    simp only [List.cons_append]
    rw [units?_hex _ (hexNumber?_eq_some_iff.mpr hunit), hunits]
    rfl
  | @pair _ _ _ _ _ _ _ _ high low _ _ hfirst hsecond hhigh hlow _ ih =>
    obtain ⟨units, hunits, hpoints⟩ := ih
    refine ⟨(0xD800 + high) :: (0xDC00 + low) :: units, fun rest => ?_, fun t ht => ?_⟩
    · simp only [List.cons_append]
      rw [units?_hex _ (hexNumber?_eq_some_iff.mpr hfirst),
        units?_hex _ (hexNumber?_eq_some_iff.mpr hsecond), hunits]
      rfl
    · obtain ⟨c, t, rfl, hc, ht⟩ := List.map_eq_cons_iff.mp ht.symm
      rw [ofUnits_pair hhigh hlow hc, hpoints t ht.symm]

/-- What is read up to a closing mark is in the grammar, and spells the code units that are read. -/
theorem spells_of_units? {t rest : Text} {units : List Nat} (h : units? t = some (units, rest)) :
    ∃ body, t = body ++ '\x22' :: rest ∧ Spells body units := by
  -- The reader takes each escape alone, so `Spells.pair` is not needed: a pair spells its halves.
  induction t using units?.induct generalizing units rest with
  | case1 => cases h
  | case2 t =>
    cases h
    exact ⟨[], rfl, .nil⟩
  | case3 a b c d t ih =>
    simp only [units?, Option.bind_eq_bind, Option.bind_eq_some_iff] at h
    obtain ⟨n, hn, ⟨units, rest⟩, hrest, h⟩ := h
    cases h
    obtain ⟨body, rfl, hbody⟩ := ih hrest
    exact ⟨_, rfl, .unit (hexNumber?_eq_some_iff.mp hn) hbody⟩
  | case4 letter t notUnit ih =>
    rw [units?] at h
    · simp only [Option.bind_eq_bind, Option.bind_eq_some_iff] at h
      obtain ⟨n, hn, ⟨units, rest⟩, hrest, h⟩ := h
      cases h
      obtain ⟨body, rfl, hbody⟩ := ih hrest
      obtain ⟨c, hc, rfl⟩ := unescape?_eq_some_iff.mp hn
      exact ⟨_, rfl, .short hc hbody⟩
    · exact notUnit
  | case5 c t mark notUnit notShort refused =>
    rw [units?, if_pos refused] at h
    · cases h
    · exact mark
    · exact notUnit
    · exact notShort
  | case6 c t mark notUnit notShort accepted ih =>
    obtain ⟨hcontrol, hslash⟩ := not_or.mp accepted
    rw [units?_plain t hcontrol mark hslash] at h
    obtain ⟨⟨units, rest⟩, hrest, h⟩ := Option.map_eq_some_iff.mp h
    cases h
    obtain ⟨body, rfl, hbody⟩ := ih hrest
    exact ⟨_, rfl, .plain (by omega) mark hslash hbody⟩

/-- A literal of the grammar is read whatever follows it, and as the text that it spells. -/
theorem decode?_of_spells {body : Text} {points : List Nat} (h : Spells body points) :
    ∃ value, (∀ rest, decode? ('\x22' :: (body ++ '\x22' :: rest)) = some (value, rest)) ∧
      ∀ t : Text, points = t.map Char.toNat → value = t := by
  obtain ⟨units, hunits, hvalue⟩ := units?_of_spells h
  exact ⟨ofUnits units, fun rest => by rw [decode?, hunits]; rfl, hvalue⟩

theorem spells_of_decode? {t value rest : Text} (h : decode? t = some (value, rest)) :
    ∃ body points, t = '\x22' :: (body ++ '\x22' :: rest) ∧ Spells body points := by
  unfold decode? at h
  split at h
  · next t =>
    obtain ⟨⟨units, rest⟩, hunits, h⟩ := Option.map_eq_some_iff.mp h
    cases h
    obtain ⟨body, rfl, hbody⟩ := spells_of_units? hunits
    exact ⟨body, units, rfl, hbody⟩
  · exact nomatch h

end RouteDoc.Json.Literal
