import RouteDoc.Proofs.Parameter.Lookup
import RouteDoc.Proofs.Tag.RoundTrip

/-! From the text of a tag to readers of a document: what a field means, its default and a sample
value reach its property and its parameter up to the first comma, as the names of tags do. -/

namespace RouteDoc

/-- What a tag tells readers about a value. -/
inductive Remark where
  | description
  | fallback
  | sample
  deriving DecidableEq, Repr

namespace Remark

/-- The tag key of a remark. -/
def key : Remark → Text
  | .description => Tag.Key.description
  | .fallback => Tag.Key.default
  | .sample => Tag.Key.sample

/-- A remark in a schema, where a description is always there. -/
def inSchema (schema : Schema) : Remark → Option Text
  | .description => some schema.description
  | .fallback => schema.fallback
  | .sample => schema.sample

/-- A remark in a parameter. -/
def inParameter (p : Parameter) : Remark → Option Text
  | .description => some p.description
  | .fallback => p.fallback
  | .sample => p.sample

variable {remark : Remark} {tags : FieldTags} {t : Text}

theorem inSchema_annotate (h : tags.name? remark.key = some t) (schema : Schema) :
    remark.inSchema (tags.annotate schema) = some t := by
  cases remark <;> simp only [key] at h <;> simp [inSchema, FieldTags.annotate, h]

theorem inParameter_of_parameter {catalog : Catalog} {rules : List Rule} {field : Field}
    {location : Location} {name : Text} {p : Parameter}
    (h : tags.name? remark.key = some t)
    (hp : Extraction.parameter catalog rules field tags location name = .ok p) :
    remark.inParameter p = some t ∧ remark.inSchema p.schema = some t := by
  obtain ⟨schema, -, rfl⟩ := Extraction.parameter_eq_ok_iff.mp hp
  refine ⟨?_, inSchema_annotate h schema⟩
  cases remark <;> simp only [key] at h <;> simp [Extraction.annotated, inParameter, h]

end Remark

/-- The tag text of a field has a text under a key: its pairs are of the grammar, and the literal of
the first with the key spells the text. -/
inductive Field.Tells (key t : Text) : Field → Prop
  | intro {name : Text} {type : TypeExpr} {front back : List Tag.Pair} {pair : Tag.Pair}
    {trailing : Nat} :
    (∀ p ∈ front ++ pair :: back, p.IsWellFormed) → (∀ p ∈ front, p.key ≠ key) →
    pair.key = key → Json.Literal.Spells pair.body (t.map Char.toNat) →
    Tells key t ⟨name, type, Tag.Pair.textOf (front ++ pair :: back) trailing⟩

/-- A pair with the literal of a text. -/
def Tag.Pair.encode (spaces : Nat) (key t : Text) : Tag.Pair :=
  ⟨spaces, key, t.flatMap Json.Literal.encodeChar⟩

theorem Tag.Pair.spells_encode (spaces : Nat) (key t : Text) :
    Json.Literal.Spells (encode spaces key t).body (t.map Char.toNat) :=
  Json.Literal.isWriting_encodeChar.flatMap t

theorem Tag.Pair.isWellFormed_encode {key : Text} (h : Tag.IsKey key) (spaces : Nat) (t : Text) :
    (encode spaces key t).IsWellFormed :=
  ⟨h, _, spells_encode spaces key t⟩

theorem Tag.name_ofValue (key value : Text) :
    (Tag.ofValue key value).name = value.takeWhile (· != ',') :=
  Text.fst_cutWhen (· == ',') value

/-- The name under a key is what the text tells up to the first comma. -/
theorem Field.Tells.name? {key t : Text} {field : Field} (tells : field.Tells key t) :
    ∃ tags, FieldTags.ofField field = .ok tags ∧
      tags.name? key = some (t.takeWhile (· != ',')) := by
  obtain ⟨hwell, hfront, hkey, hspells⟩ := tells
  rename_i name type front back pair trailing
  obtain ⟨tags, hparse, htags⟩ := Tag.exists_parse_of_wellFormed hwell trailing
  obtain ⟨before, tag, after, rfl, hbefore, ⟨htag, hcut, hvalue⟩, -⟩ := forall₂_append_cons htags
  refine ⟨_, by rw [FieldTags.ofField, hparse], ?_⟩
  -- The tags are read from the pairs in their order, so the lookup goes past those before.
  have hother : ∀ other ∈ before, other.key ≠ tag.key := by
    intro other hmem
    obtain ⟨p, hp, hpkey, -⟩ := exists_mem_of_forall₂ hbefore hmem
    rw [hpkey, htag, hkey]
    exact hfront p hp
  rw [FieldTags.name?, ← hkey, ← htag, FieldTags.get?_of_not_mem hother, Option.map_some,
    ← hcut.ofValue_value, Tag.name_ofValue, hvalue t hspells]

namespace Extraction

open Synthesis

variable {catalog : Catalog} {rules : List Rule}

/-- A field that does not embed has a name and yields a property, whose schema the tags annotate. -/
theorem exists_property_of_schema {name : Text} {schema : Schema}
    (hschema : schemaOfModel catalog rules name = .ok schema) {before after : List Field}
    {field : Field} {tags : FieldTags}
    (hfields : catalog.fields name = .ok (before ++ field :: after))
    (htags : FieldTags.ofField field = .ok tags) (hembed : tags.has Tag.Key.embed = false) :
    ∃ json plain, tags.name? Tag.Key.json = some json ∧
      Yields rules (schemaOf catalog rules) field
        (.property json tags.isRequired (tags.annotate plain)) := by
  obtain ⟨fields, shares, hfields', hshares, -⟩ := schemaOfModel_eq_ok_iff.mp hschema
  obtain rfl := Except.ok.inj (hfields.symm.trans hfields')
  obtain ⟨_, share, _, -, -, hshare, -⟩ := forall₂_append_cons hshares
  obtain ⟨json, _, plain, hjson, _, _, rfl⟩ :=
    (yields_iff_of_not_embeds htags hembed).mp hshare
  exact ⟨json, plain, hjson, hshare⟩

/-- What a tag tells readers reaches them up to the first comma. Let the first pair with the key of
a remark in the tag text of a field have a literal that spells a text, and let the field not embed.
Where its model has a schema, the field has a name, and its property has the remark; the property is
that of the model unless a later field takes the name. Where its model has parameters and the field
is bound, its parameter has the remark, and so has the schema of the parameter. -/
theorem remarks_arrive (type : TypeExpr) (model : Text)
    (isModel : type.describe catalog = .composite model) {before after : List Field}
    {field : Field} (hfields : catalog.fields model = .ok (before ++ field :: after))
    {remark : Remark} {t : Text} (tells : field.Tells remark.key t) {tags : FieldTags}
    (htags : FieldTags.ofField field = .ok tags) (hembed : tags.has Tag.Key.embed = false) :
    (∀ schema, schemaOf catalog rules type = .ok schema →
      ∃ json property, tags.name? Tag.Key.json = some json ∧
        Yields rules (schemaOf catalog rules) field (.property json tags.isRequired property) ∧
        remark.inSchema property = some (t.takeWhile (· != ',')) ∧
        ((∀ later ∈ after, ∀ t, FieldTags.ofField later = .ok t →
          t.has Tag.Key.embed = false → t.name? Tag.Key.json ≠ some json) →
          Entries.get? json schema.properties = some property)) ∧
    ∀ parameters location name, parametersOf catalog rules type = .ok parameters →
      tags.binding? = some (location, name) →
      ∃ front p back, parameters = front ++ p :: back ∧
        (before.mapM (ofField catalog rules (parametersOfModel catalog rules))).map List.flatten =
          .ok front ∧
        parameter catalog rules field tags location name = .ok p ∧
        remark.inParameter p = some (t.takeWhile (· != ',')) ∧
        remark.inSchema p.schema = some (t.takeWhile (· != ',')) := by
  obtain ⟨tags', htags', hname⟩ := tells.name?
  obtain rfl := Except.ok.inj (htags.symm.trans htags')
  rw [schemaOf_composite isModel, parametersOf_composite isModel]
  constructor
  · intro schema hschema
    obtain ⟨json, plain, hjson, hyields⟩ :=
      exists_property_of_schema hschema hfields htags hembed
    exact ⟨json, _, hjson, hyields, Remark.inSchema_annotate hname plain,
      get?_properties_of_yields hfields hyields hschema⟩
  · intro parameters location name hparameters hbinding
    obtain ⟨front, p, back, rfl, hfront, hp⟩ :=
      exists_parameter_of_bound hparameters hfields htags hembed hbinding
    exact ⟨front, p, back, rfl, hfront, hp, Remark.inParameter_of_parameter hname hp⟩

/-- A lamp with a description of its kind. -/
def lampKind (description : Text) : Field :=
  ⟨"kind".toList, .ofClass .str, Tag.Pair.textOf
    ([.encode 0 "json".toList "kind".toList, .encode 1 "query".toList ['k']] ++
      .encode 1 "description".toList description :: []) 0⟩

def lamps (description : Text) : Catalog := [⟨"Lamp".toList, .plain, [lampKind description], []⟩]

theorem tells_lampKind (description : Text) :
    (lampKind description).Tells Remark.description.key description := by
  have hjson : Tag.IsKey "json".toList := Tag.isKey_of_all (by decide) (by decide)
  have hquery : Tag.IsKey "query".toList := Tag.isKey_of_all (by decide) (by decide)
  have hdescription : Tag.IsKey "description".toList := Tag.isKey_of_all (by decide) (by decide)
  refine .intro ?_ (by decide) rfl (Tag.Pair.spells_encode _ _ description)
  simp only [List.cons_append, List.nil_append, List.forall_mem_cons]
  exact ⟨Tag.Pair.isWellFormed_encode hjson _ _, Tag.Pair.isWellFormed_encode hquery _ _,
    Tag.Pair.isWellFormed_encode hdescription _ _, List.forall_mem_nil _⟩

theorem remarks_arrive_lamp : ∃ schema property parameters p,
    schemaOf (lamps "a \"big\" one, red".toList) Rule.standard (.ref "Lamp".toList) = .ok schema ∧
    Entries.get? "kind".toList schema.properties = some property ∧
    property.description = "a \"big\" one".toList ∧
    parametersOf (lamps "a \"big\" one, red".toList) Rule.standard (.ref "Lamp".toList) =
      .ok parameters ∧ p ∈ parameters ∧
    p.description = "a \"big\" one".toList ∧ p.schema.description = "a \"big\" one".toList := by
  have htags : FieldTags.ofField (lampKind "a \"big\" one, red".toList) =
      .ok [⟨"json".toList, "kind".toList, []⟩, ⟨"query".toList, ['k'], []⟩,
        ⟨"description".toList, "a \"big\" one".toList, [" red".toList]⟩] := by rfl
  obtain ⟨bodies, requests⟩ := @remarks_arrive (lamps "a \"big\" one, red".toList) Rule.standard
    (.ref "Lamp".toList) _ rfl [] [] _ rfl .description _ (tells_lampKind _) _ htags rfl
  obtain ⟨schema, hschema⟩ : ∃ schema, schemaOf (lamps "a \"big\" one, red".toList) Rule.standard
    (.ref "Lamp".toList) = .ok schema := ⟨_, rfl⟩
  obtain ⟨parameters, hparameters⟩ : ∃ parameters,
    parametersOf (lamps "a \"big\" one, red".toList) Rule.standard (.ref "Lamp".toList) =
      .ok parameters := ⟨_, rfl⟩
  obtain ⟨json, property, hjson, -, hproperty, hfound⟩ := bodies schema hschema
  obtain rfl := Option.some.inj hjson
  obtain ⟨front, p, back, rfl, -, -, hp, hpschema⟩ := requests parameters _ _ hparameters rfl
  exact ⟨schema, property, _, p, hschema, hfound (List.forall_mem_nil _),
    Option.some.inj hproperty, hparameters, by simp, Option.some.inj hp, Option.some.inj hpschema⟩

/-- A text with a comma does not arrive whole. -/
theorem remark_cut_at_comma :
    (lampKind "small, light".toList).Tells Remark.description.key "small, light".toList ∧
    ∃ schema property p,
      schemaOf (lamps "small, light".toList) Rule.standard (.ref "Lamp".toList) = .ok schema ∧
      Entries.get? "kind".toList schema.properties = some property ∧
      Remark.description.inSchema property ≠ some "small, light".toList ∧
      parametersOf (lamps "small, light".toList) Rule.standard (.ref "Lamp".toList) = .ok [p] ∧
      Remark.description.inParameter p ≠ some "small, light".toList ∧
      Remark.description.inSchema p.schema ≠ some "small, light".toList := by
  refine ⟨tells_lampKind _, _, _, _, rfl, rfl, ?_, rfl, ?_, ?_⟩
  · decide
  · decide
  · decide

end Extraction

end RouteDoc
