import RouteDoc.Proofs.Tag.Reader
import RouteDoc.Schema.Synthesis

/-! The grammar of tag texts: pairs with any number of spaces before, between and after them, a pair
being a key, a colon and a string literal. Reading accepts exactly the texts of the grammar, gives a
tag for each pair in order, and has one kind of fault for every other text. -/

namespace RouteDoc.Tag

open Json.Literal

/-- A key has a character, and all its characters stand above the space and are none of the colon,
the quotation mark and U+007F. -/
def IsKey (key : Text) : Prop :=
  key ≠ [] ∧ ∀ c ∈ key, 32 < c.toNat ∧ c ≠ ':' ∧ c ≠ '\x22' ∧ c ≠ '\x7f'

/-- The value of a tag is cut at every comma. -/
def IsCut (tag : Tag) : Prop := ∀ item ∈ tag.name :: tag.options, ',' ∉ item

/-- A pair as it stands in a text: the spaces before it, its key, and what stands between the marks
of its literal. -/
structure Pair where
  spaces : Nat
  key : Text
  body : Text

namespace Pair

/-- The text of a pair. -/
def text (pair : Pair) : Text :=
  Text.fill ' ' pair.spaces ++ (pair.key ++ ':' :: '\x22' :: (pair.body ++ ['\x22']))

/-- The text of pairs, with spaces behind the last. -/
def textOf (pairs : List Pair) (trailing : Nat) : Text :=
  pairs.flatMap text ++ Text.fill ' ' trailing

/-- A pair is in the grammar: its key is one, and it has a literal. -/
def IsWellFormed (pair : Pair) : Prop := IsKey pair.key ∧ ∃ points, Spells pair.body points

end Pair

/-- A text is one of pairs of the grammar. -/
def IsTagText (raw : Text) : Prop :=
  ∃ (pairs : List Pair) (trailing : Nat), (∀ pair ∈ pairs, pair.IsWellFormed) ∧
    Pair.textOf pairs trailing = raw

/-- A tag says what a pair does: its key, and the text that its literal spells, cut at every
comma. -/
structure Pair.Denotes (pair : Pair) (tag : Tag) : Prop where
  key : tag.key = pair.key
  value : Spells pair.body (tag.value.map Char.toNat)
  cut : tag.IsCut

/-! ### Keys, values and spaces -/

theorem isKeyChar_eq_true_iff {c : Char} :
    isKeyChar c = true ↔ 32 < c.toNat ∧ c ≠ ':' ∧ c ≠ '\x22' ∧ c ≠ '\x7f' := by
  have hdelete : c.toNat = 127 ↔ c = '\x7f' := Char.toNat_inj (d := '\x7f')
  simp [isKeyChar, hdelete, and_assoc]

theorem isKey_of_all {key : Text} (nonempty : key ≠ []) (h : key.all isKeyChar = true) :
    IsKey key :=
  ⟨nonempty, fun c hc => isKeyChar_eq_true_iff.mp (List.all_eq_true.mp h c hc)⟩

theorem ofValue_value (key value : Text) : (ofValue key value).value = value :=
  Text.join_splitOn ',' value

theorem isCut_ofValue (key value : Text) : (ofValue key value).IsCut := by
  intro item hitem hcomma
  exact nomatch Text.sep_eq_false_of_mem_splitWhen (t := value) hitem hcomma

theorem exists_eq_fill_append (t : Text) :
    ∃ n, t = Text.fill ' ' n ++ Text.trimStart (· == ' ') t := by
  refine ⟨(t.takeWhile (· == ' ')).length, ?_⟩
  have hspaces : t.takeWhile (· == ' ') = Text.fill ' ' (t.takeWhile (· == ' ')).length :=
    List.eq_replicate_iff.mpr ⟨rfl, fun c hc => by simpa using List.mem_takeWhile_imp hc⟩
  rw [← hspaces]
  exact List.takeWhile_append_dropWhile.symm

/-! ### What is read is in the grammar -/

theorem exists_pair_of_readPair {t rest : Text} {tag : Tag} (h : readPair t = .ok (tag, rest)) :
    ∃ body points, t = tag.key ++ ':' :: '\x22' :: (body ++ '\x22' :: rest) ∧ IsKey tag.key ∧
      Spells body points ∧ tag.IsCut := by
  obtain ⟨key, literal, value, nonempty, isKey, rfl, reads, rfl⟩ := exists_key_of_readPair h
  obtain ⟨body, points, rfl, hspells⟩ := spells_of_decode? reads
  refine ⟨body, points, rfl, ⟨nonempty, fun c hc => ?_⟩, hspells, isCut_ofValue _ _⟩
  exact isKeyChar_eq_true_iff.mp (isKey c hc)

/-- What a text is read as came from pairs of the grammar, one for each tag. -/
theorem exists_pairs_of_readPairs {fuel : Nat} {t : Text} {tags : FieldTags}
    (enough : t.length ≤ fuel) (h : readPairs fuel t = .ok tags) :
    ∃ pairs trailing, Pair.textOf pairs trailing = t ∧
      List.Forall₂ (fun pair tag => pair.IsWellFormed ∧ tag.key = pair.key ∧ tag.IsCut)
        pairs tags := by
  induction fuel generalizing t tags with
  | zero =>
    cases h
    exact ⟨[], 0, (List.length_eq_zero_iff.mp (Nat.le_zero.mp enough)).symm, .nil⟩
  | succ fuel ih =>
    obtain ⟨n, hspaces⟩ := exists_eq_fill_append t
    rw [readPairs] at h
    split at h
    · next hblank =>
      cases h
      rw [hblank, List.append_nil] at hspaces
      exact ⟨[], n, hspaces.symm, .nil⟩
    · next c rest hfirst =>
      simp only [bind_eq_ok_iff, pure, Except.pure, Except.ok.injEq] at h
      obtain ⟨⟨tag, rest⟩, hpair, tags, hrest, rfl⟩ := h
      obtain ⟨body, points, htext, hkey, hspells, hcut⟩ := exists_pair_of_readPair hpair
      rw [hfirst, htext] at hspaces
      -- A pair takes a character at least, so what is left of the fuel covers the rest.
      have hlength : rest.length ≤ fuel := by
        have := congrArg List.length hspaces
        simp only [List.length_append, List.length_cons] at this
        omega
      obtain ⟨pairs, trailing, hpairs, htags⟩ := ih hlength hrest
      refine ⟨⟨n, tag.key, body⟩ :: pairs, trailing, ?_,
        .cons ⟨⟨hkey, points, hspells⟩, rfl, hcut⟩ htags⟩
      rw [hspaces, ← hpairs]
      simp [Pair.textOf, Pair.text]

/-! ### What is in the grammar is read -/

/-- A pair of the grammar is one that the reader takes, with the text that its literal spells. -/
theorem Pair.exists_written {pair : Pair} (h : pair.IsWellFormed) :
    ∃ w : Written, w.text = pair.text ∧ w.tag.key = pair.key ∧ w.tag.IsCut ∧
      ∀ t : Text, Spells pair.body (t.map Char.toNat) → w.tag.value = t := by
  obtain ⟨⟨hnonempty, hchars⟩, points, hspells⟩ := h
  obtain ⟨value, hreads, -⟩ := decode?_of_spells hspells
  refine ⟨⟨pair.spaces, pair.key, '\x22' :: (pair.body ++ ['\x22']), value, hnonempty,
    fun c hc => isKeyChar_eq_true_iff.mpr (hchars c hc), fun rest => ?_⟩, rfl, rfl,
    isCut_ofValue _ _, fun t ht => ?_⟩
  · rw [List.cons_append, List.append_assoc]
    exact hreads rest
  · -- The literal has one reading, so the value is any text that it spells.
    obtain ⟨other, hother, hvalue⟩ := decode?_of_spells ht
    have hsame := (hreads []).symm.trans (hother [])
    rw [Option.some.injEq, Prod.mk.injEq] at hsame
    exact (ofValue_value _ _).trans (hsame.1.trans (hvalue t rfl))

theorem exists_parse_of_wellFormed {pairs : List Pair} (h : ∀ pair ∈ pairs, pair.IsWellFormed)
    (trailing : Nat) : ∃ tags, parse (Pair.textOf pairs trailing) = .ok tags ∧
      List.Forall₂ (fun pair tag => tag.key = pair.key ∧ tag.IsCut ∧
        ∀ t : Text, Spells pair.body (t.map Char.toNat) → tag.value = t) pairs tags :=
  Written.exists_parse_flatMap (fun pair hp => Pair.exists_written (h pair hp)) trailing

theorem isTagText_of_parse {raw : Text} {tags : FieldTags} (h : parse raw = .ok tags) :
    IsTagText raw := by
  obtain ⟨pairs, trailing, htext, htags⟩ := exists_pairs_of_readPairs (Nat.le_refl _) h
  refine ⟨pairs, trailing, fun pair hp => ?_, htext⟩
  obtain ⟨_, hpair, -⟩ := exists_forall₂_iff.mp ⟨tags, htags⟩ pair hp
  exact hpair

/-- Reading accepts exactly the texts of the grammar: pairs of a key, a colon and a string literal,
with any number of spaces before, between and after them. Where every literal spells a text, the
tags are, in order, the keys with these texts cut at every comma; every other text has a fault of a
tag text, which its field passes on. -/
theorem parse_grammar (raw : Text) :
    ((∃ tags, parse raw = .ok tags) ↔ IsTagText raw) ∧
    (∀ (pairs : List Pair) (trailing : Nat), Pair.textOf pairs trailing = raw →
      (∀ pair ∈ pairs, IsKey pair.key ∧ ∃ t : Text, Spells pair.body (t.map Char.toNat)) →
      ∃ tags, parse raw = .ok tags ∧ List.Forall₂ Pair.Denotes pairs tags) ∧
    (¬IsTagText raw → ∃ fault, parse raw = .error fault ∧
      ∀ field : Field, field.tag = raw →
        FieldTags.ofField field = .error (.schema (.tagText fault raw))) := by
  refine ⟨⟨fun ⟨tags, h⟩ => isTagText_of_parse h, ?_⟩, ?_, fun hnone => ?_⟩
  · rintro ⟨pairs, trailing, hpairs, rfl⟩
    obtain ⟨tags, htags, -⟩ := exists_parse_of_wellFormed hpairs trailing
    exact ⟨tags, htags⟩
  · rintro pairs trailing rfl hpairs
    have hwell : ∀ pair ∈ pairs, pair.IsWellFormed := by
      intro pair hp
      obtain ⟨hkey, t, ht⟩ := hpairs pair hp
      exact ⟨hkey, _, ht⟩
    obtain ⟨tags, htags, hread⟩ := exists_parse_of_wellFormed hwell trailing
    refine ⟨tags, htags, ((List.forall₂_and_left _ _).mpr ⟨hpairs, hread⟩).imp ?_⟩
    rintro pair tag ⟨⟨-, t, ht⟩, hkey, hcut, hvalue⟩
    exact ⟨hkey, by rw [hvalue t ht]; exact ht, hcut⟩
  · cases h : parse raw with
    | ok tags => exact absurd (isTagText_of_parse h) hnone
    | error fault =>
      refine ⟨fault, rfl, fun field hfield => ?_⟩
      rw [FieldTags.ofField, hfield, h]

/-- Pairs need no space between them, and two escapes make one character. -/
example : parse "a:\"b,\"x:\"\\ud83d\\ude00\"".toList =
    .ok [⟨['a'], ['b'], [[]]⟩, ⟨['x'], ['😀'], []⟩] := by
  cbv

end RouteDoc.Tag
