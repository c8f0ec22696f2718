import RouteDoc.Proofs.Json.Encoding
import RouteDoc.Proofs.Tag.Grammar

/-! Writing tags and reading them. Each tag is written behind any number of spaces, with a literal
in either writing; what is read is the tags that were written. -/

namespace RouteDoc.Tag

open Json.Literal

/-- How a tag is written: the spaces before it, and whether its literal is in ASCII alone. -/
structure Layout where
  spaces : Nat
  ascii : Bool

/-- The literal of a text. -/
def Layout.literal (layout : Layout) (t : Text) : Text :=
  if layout.ascii then encodeAscii t else encode t

/-- The text of a tag. -/
def write (layout : Layout) (tag : Tag) : Text :=
  Text.fill ' ' layout.spaces ++ (tag.key ++ ':' :: layout.literal tag.value)

/-- The text of tags, with spaces behind the last. -/
def writeAll (entries : List (Layout × Tag)) (trailing : Nat) : Text :=
  entries.flatMap (fun (layout, tag) => tag.write layout) ++ Text.fill ' ' trailing

/-- A tag has a key of the grammar, and no comma in its name or an option. -/
structure IsWritable (tag : Tag) : Prop where
  key : IsKey tag.key
  cut : tag.IsCut

theorem Layout.decode?_literal (layout : Layout) (t rest : Text) :
    decode? (layout.literal t ++ rest) = some (t, rest) := by
  unfold Layout.literal
  cases layout.ascii with
  | false => exact decode?_encode t rest
  | true => exact decode?_encodeAscii t rest

/-- Cutting the value of a tag gives the tag again. -/
theorem IsCut.ofValue_value {tag : Tag} (h : tag.IsCut) : ofValue tag.key tag.value = tag := by
  have hcut : Text.splitOn ',' tag.value = tag.name :: tag.options := Text.splitOn_join h
  obtain ⟨hname, hoptions⟩ := List.cons.inj hcut
  have hpieces : Text.cutWhen (· == ',') tag.value = (tag.name, tag.options) :=
    Prod.ext hname hoptions
  rw [ofValue, hpieces]

theorem IsWritable.exists_written {tag : Tag} (h : tag.IsWritable) (layout : Layout) :
    ∃ pair : Written, pair.text = tag.write layout ∧ pair.tag = tag :=
  ⟨⟨layout.spaces, tag.key, layout.literal tag.value, tag.value, h.key.1,
    fun c hc => isKeyChar_eq_true_iff.mpr (h.key.2 c hc), layout.decode?_literal tag.value⟩, rfl,
    h.cut.ofValue_value⟩

theorem parse_writeAll_of_isWritable {entries : List (Layout × Tag)}
    (h : ∀ entry ∈ entries, entry.2.IsWritable) (trailing : Nat) :
    parse (writeAll entries trailing) = .ok (entries.map Prod.snd) := by
  obtain ⟨tags, hparse, htags⟩ :=
    Written.exists_parse_flatMap (R := fun entry tag => tag = entry.2)
      (fun entry he => (h entry he).exists_written entry.1) trailing
  have hall : tags = entries.map Prod.snd := by
    rw [← List.forall₂_eq_eq_eq]
    exact List.forall₂_map_right_iff.mpr htags.flip
  rw [← hall]
  exact hparse

/-- Whatever is read can be written. -/
theorem isWritable_of_parse {raw : Text} {tags : FieldTags} (h : parse raw = .ok tags) :
    ∀ tag ∈ tags, tag.IsWritable := by
  obtain ⟨pairs, -, -, htags⟩ := exists_pairs_of_readPairs (Nat.le_refl _) h
  intro tag htag
  obtain ⟨pair, -, hpair, hkey, hcut⟩ := exists_mem_of_forall₂ htags htag
  exact ⟨hkey ▸ hpair.1, hcut⟩

/-- Reading undoes writing: tags with keys of the grammar and without commas in names and options
are read back in order, however each is written. So the tags of any text that is accepted are read
again from all writings of them. -/
theorem parse_writeAll :
    (∀ (entries : List (Layout × Tag)) (trailing : Nat), (∀ entry ∈ entries, entry.2.IsWritable) →
      parse (writeAll entries trailing) = .ok (entries.map Prod.snd)) ∧
    ∀ (raw : Text) (tags : FieldTags), parse raw = .ok tags →
      ∀ (entries : List (Layout × Tag)) (trailing : Nat), entries.map Prod.snd = tags →
        parse (writeAll entries trailing) = .ok tags := by
  refine ⟨fun entries trailing h => parse_writeAll_of_isWritable h trailing, ?_⟩
  rintro raw _ hraw entries trailing rfl
  have htags := isWritable_of_parse hraw
  exact parse_writeAll_of_isWritable (fun _ he => htags _ (List.mem_map_of_mem he)) trailing

/-- Two tags that need escapes: a quotation mark and a backslash, with characters beyond ASCII. -/
def faces : FieldTags := [⟨['a'], ['😀', '\x22'], []⟩, ⟨['b'], ['é'], [['\\']]⟩]

theorem parse_faces :
    parse "a:\"\\ud83d\\ude00\\\"\"b:\"é,\\\\\" ".toList = .ok faces ∧
    parse "  a:\"😀\\\"\" b:\"\\u00e9,\\\\\"".toList = .ok faces := by
  have hwritable : ∀ tag ∈ faces, tag.IsWritable := by
    intro tag htag
    simp only [faces, List.mem_cons, List.not_mem_nil, or_false] at htag
    rcases htag with rfl | rfl <;> exact ⟨by simp [IsKey], by simp [IsCut]⟩
  have hfirst : parse "a:\"\\ud83d\\ude00\\\"\"b:\"é,\\\\\" ".toList = .ok faces := by
    have htext : writeAll ([⟨0, true⟩, ⟨0, false⟩].zip faces) 1 =
        "a:\"\\ud83d\\ude00\\\"\"b:\"é,\\\\\" ".toList := by decide
    rw [← htext]
    exact parse_writeAll.1 _ 1 fun entry he => hwritable _ (List.of_mem_zip he).2
  have htext : writeAll ([⟨2, false⟩, ⟨1, true⟩].zip faces) 0 =
      "  a:\"😀\\\"\" b:\"\\u00e9,\\\\\"".toList := by decide
  refine ⟨hfirst, ?_⟩
  rw [← htext]
  exact parse_writeAll.2 _ _ hfirst _ 0 rfl

end RouteDoc.Tag
