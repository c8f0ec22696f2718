import RouteDoc.Proofs.Parameter.Agreement

/-! Embedding is inlining: a model that embeds another reads like one that has the fields of the
other in the place of the field that embeds it. -/

namespace RouteDoc

/-- The model `flat` has the fields of `whole`, but for one that embeds a model: in its place stand
the fields of that model, and they are known when those are. -/
structure Inlines (catalog : Catalog) (whole embedded flat : Text) (before : List Field)
    (field : Field) (after : List Field) : Prop where
  fields_whole : catalog.fields whole = .ok (before ++ field :: after)
  embeds : ∃ tags, FieldTags.ofField field = .ok tags ∧ tags.has Tag.Key.embed = true
  form : field.type.describe catalog = .composite embedded
  fields_flat : ∀ fields, catalog.fields flat = .ok fields ↔
    ∃ inner, catalog.fields embedded = .ok inner ∧ fields = before ++ inner ++ after

namespace Synthesis

variable {catalog : Catalog} {rules : List Rule} {whole embedded flat : Text}
  {before after : List Field} {field : Field}

variable (catalog rules) in
/-- A field gives a name to the object of its model: its own, or one of those it embeds. -/
def GivesName (field : Field) (name : Text) : Prop :=
  ∃ share, Yields rules (schemaOf catalog rules) field share ∧ name ∈ share.names

theorem givesName_iff {share : Share} (h : Yields rules (schemaOf catalog rules) field share)
    {name : Text} : GivesName catalog rules field name ↔ name ∈ share.names :=
  ⟨fun ⟨_, h', hname⟩ => Extraction.eq_of_yields h' h ▸ hname, fun hname => ⟨share, h, hname⟩⟩

/-- The object of a model stays the same when the fields of a model it embeds take the place of the
field that embeds it, if no other field gives a name that these give. -/
theorem schemaOfModel_inline (inlines : Inlines catalog whole embedded flat before field after)
    {schema : Schema} (hschema : schemaOfModel catalog rules whole = .ok schema)
    (apart : ∀ name, GivesName catalog rules field name → ∀ other ∈ before ++ after,
      ¬GivesName catalog rules other name) :
    schemaOfModel catalog rules flat = .ok schema := by
  obtain ⟨tags, htags, hembed⟩ := inlines.embeds
  obtain ⟨fields, shares, hfields, hshares, rfl⟩ := schemaOfModel_eq_ok_iff.mp hschema
  obtain rfl := Except.ok.inj (inlines.fields_whole.symm.trans hfields)
  obtain ⟨front, share, back, rfl, hfront, hshare, hback⟩ := forall₂_append_cons hshares
  obtain ⟨object, hobject, rfl⟩ := (yields_iff_of_embeds htags hembed).mp hshare
  rw [schemaOf_composite inlines.form] at hobject
  obtain ⟨inner, parts, hinner, hparts, rfl⟩ := schemaOfModel_eq_ok_iff.mp hobject
  have hflat := (inlines.fields_flat _).mpr ⟨inner, hinner, rfl⟩
  -- What the fields of the embedded model share stands where the field shared it as one object.
  refine schemaOfModel_eq_ok_iff.mpr ⟨_, front ++ parts ++ back, hflat,
    List.rel_append (List.rel_append hfront hparts) hback, (Share.collect_embedded ?_).symm⟩
  intro name hname given hmem hgives
  obtain ⟨other, hother, hyields⟩ := exists_mem_of_forall₂ (List.rel_append hfront hback) hmem
  exact apart name ⟨_, hshare, hname⟩ other hother ⟨given, hyields, hgives⟩

end Synthesis

namespace Extraction

open Synthesis

variable {catalog : Catalog} {rules : List Rule} {whole embedded flat : Text}
  {before after : List Field} {field : Field}

theorem ofField_eq_of_embeds {model : Text → Except Failure (List Parameter)} {tags : FieldTags}
    (htags : FieldTags.ofField field = .ok tags) (hembed : tags.has Tag.Key.embed = true)
    (hform : field.type.describe catalog = .composite embedded) (unbound : tags.binding? = none) :
    ofField catalog rules model field = model embedded := by
  have hsome : embedded? catalog field tags = some embedded :=
    embedded?_eq_some_iff.mpr ⟨hembed, hform⟩
  rw [ofField_eq, htags]
  simp only [bind, Except.bind, embeddedOf, hsome, Option.elim, bound, unbound, List.append_nil]
  cases model embedded <;> rfl

/-- The parameters of a model are those of a model that has the fields of an embedded one in the
place of the field that embeds it. -/
theorem parametersOfModel_inline (inlines : Inlines catalog whole embedded flat before field after)
    (unbound : ∀ tags, FieldTags.ofField field = .ok tags → tags.binding? = none)
    (parameters : List Parameter) :
    parametersOfModel catalog rules whole = .ok parameters ↔
      parametersOfModel catalog rules flat = .ok parameters := by
  obtain ⟨tags, htags, hembed⟩ := inlines.embeds
  have hfield := @ofField_eq_of_embeds catalog rules embedded field
    (parametersOfModel catalog rules) tags htags hembed inlines.form (unbound tags htags)
  constructor
  · intro h
    obtain ⟨fields, parts, hfields, hparts, rfl⟩ := parametersOfModel_eq_ok_iff.mp h
    obtain rfl := Except.ok.inj (inlines.fields_whole.symm.trans hfields)
    obtain ⟨front, part, back, rfl, hfront, hpart, hback⟩ := forall₂_append_cons hparts
    obtain ⟨inner, middle, hinner, hmiddle, rfl⟩ :=
      parametersOfModel_eq_ok_iff.mp (hfield.symm.trans hpart)
    have hflat := (inlines.fields_flat _).mpr ⟨inner, hinner, rfl⟩
    exact parametersOfModel_eq_ok_iff.mpr ⟨_, front ++ middle ++ back, hflat,
      List.rel_append (List.rel_append hfront hmiddle) hback, by simp⟩
  · intro h
    obtain ⟨fields, parts, hfields, hparts, rfl⟩ := parametersOfModel_eq_ok_iff.mp h
    obtain ⟨inner, hinner, rfl⟩ := (inlines.fields_flat _).mp hfields
    obtain ⟨_, back, rfl, hparts, hback⟩ := forall₂_append_iff.mp hparts
    obtain ⟨front, middle, rfl, hfront, hmiddle⟩ := forall₂_append_iff.mp hparts
    have hpart := parametersOfModel_eq_ok_iff.mpr ⟨inner, middle, hinner, hmiddle, rfl⟩
    exact parametersOfModel_eq_ok_iff.mpr ⟨_, front ++ middle.flatten :: back,
      inlines.fields_whole, List.rel_append hfront (.cons (hfield.trans hpart) hback), by simp⟩

/-- Embedding is inlining. Let a model have the fields of another, with those of an embedded model
in the place of the field that embeds it. If the other has a schema and no further field of it gives
a name that the embedded model gives, the model has the same schema, with its properties and
required names in the same order. If the field is bound to no part of a request itself, the two have
parameters in the same cases, and the same ones. -/
theorem reads_alike_of_inlines {type flatType : TypeExpr}
    (isWhole : type.describe catalog = .composite whole)
    (isFlat : flatType.describe catalog = .composite flat)
    (inlines : Inlines catalog whole embedded flat before field after) :
    (∀ schema, schemaOf catalog rules type = .ok schema →
      (∀ name, GivesName catalog rules field name → ∀ other ∈ before ++ after,
        ¬GivesName catalog rules other name) →
      schemaOf catalog rules flatType = .ok schema) ∧
    ((∀ tags, FieldTags.ofField field = .ok tags → tags.binding? = none) →
      ∀ parameters, parametersOf catalog rules type = .ok parameters ↔
        parametersOf catalog rules flatType = .ok parameters) := by
  rw [schemaOf_composite isWhole, schemaOf_composite isFlat, parametersOf_composite isWhole,
    parametersOf_composite isFlat]
  exact ⟨fun _ => schemaOfModel_inline inlines, parametersOfModel_inline inlines⟩

/-- The two fields of a page, the first of which embeds a cursor. -/
def pageFields : List Field :=
  [⟨"cursor".toList, .ref "Cursor".toList, "embed:\"\"".toList⟩,
    ⟨"limit".toList, .ofClass .int,
      "json:\"limit\" query:\"limit\" validate:\"required\"".toList⟩]

/-- A field of text that is named in bodies and bound to a query. -/
def termField : Field := ⟨"term".toList, .ofClass .str, "json:\"term\" query:\"q\"".toList⟩

def pageField : Field := ⟨"page".toList, .ref "Page".toList, "embed:\"\"".toList⟩

def orderField : Field := ⟨"order".toList, .ofClass .str, "json:\"order\"".toList⟩

/-- A search that embeds a page, and one that has the fields of a page itself. -/
def flatSearches : Catalog := [
  ⟨"Cursor".toList, .plain,
    [⟨"after".toList, .ofClass .str, "json:\"after\" query:\"after\"".toList⟩], []⟩,
  ⟨"Page".toList, .plain, pageFields, []⟩,
  ⟨"Search".toList, .plain, [termField, pageField, orderField], []⟩,
  ⟨"FlatSearch".toList, .plain, termField :: pageFields ++ [orderField], []⟩]

theorem reads_alike_flatSearch : ∃ schema parameters,
    schemaOf flatSearches Rule.standard (.ref "Search".toList) = .ok schema ∧
    schemaOf flatSearches Rule.standard (.ref "FlatSearch".toList) = .ok schema ∧
    schema.required = ["limit".toList] ∧
    parametersOf flatSearches Rule.standard (.ref "Search".toList) = .ok parameters ∧
    parametersOf flatSearches Rule.standard (.ref "FlatSearch".toList) = .ok parameters ∧
    parameters.map Parameter.name = [['q'], "after".toList, "limit".toList] := by
  have inlines : Inlines flatSearches "Search".toList "Page".toList "FlatSearch".toList [termField]
      pageField [orderField] :=
    ⟨rfl, ⟨_, rfl, rfl⟩, rfl, fun fields =>
      ⟨fun h => ⟨pageFields, rfl, (Except.ok.inj h).symm⟩, fun ⟨_, h, hfields⟩ =>
        hfields ▸ Except.ok.inj h ▸ rfl⟩⟩
  obtain ⟨schemas, parameters⟩ := @reads_alike_of_inlines flatSearches Rule.standard _ _ _ _ _ _
    (.ref "Search".toList) (.ref "FlatSearch".toList) rfl rfl inlines
  have htags : FieldTags.ofField termField =
      .ok [⟨"json".toList, "term".toList, []⟩, ⟨"query".toList, ['q'], []⟩] := rfl
  have hterm : Yields Rule.standard (schemaOf flatSearches Rule.standard) termField
      (.property "term".toList false { type := .string }) :=
    @Yields.property _ _ _ _ _ { type := .string } _ htags rfl rfl rfl rfl
  have htags : FieldTags.ofField orderField = .ok [⟨"json".toList, "order".toList, []⟩] := rfl
  have horder : Yields Rule.standard (schemaOf flatSearches Rule.standard) orderField
      (.property "order".toList false { type := .string }) :=
    @Yields.property _ _ _ _ _ { type := .string } _ htags rfl rfl rfl rfl
  obtain ⟨object, hobject, hkeys⟩ : ∃ object,
      schemaOf flatSearches Rule.standard pageField.type = .ok object ∧
        Entries.keys object.properties = ["after".toList, "limit".toList] := ⟨_, rfl, rfl⟩
  have apart : ∀ name, GivesName flatSearches Rule.standard pageField name →
      ∀ other ∈ [termField] ++ [orderField], ¬GivesName flatSearches Rule.standard other name := by
    intro name hname
    rw [givesName_iff (.embedded rfl rfl hobject), Share.names, hkeys] at hname
    refine List.forall_mem_cons.mpr ⟨?_, List.forall_mem_singleton.mpr ?_⟩
    · rw [givesName_iff hterm, Share.names, List.mem_singleton]
      rintro rfl
      exact absurd hname (by decide)
    · rw [givesName_iff horder, Share.names, List.mem_singleton]
      rintro rfl
      exact absurd hname (by decide)
  have unbound : ∀ tags, FieldTags.ofField pageField = .ok tags → tags.binding? = none := by
    intro tags htags
    obtain rfl := Except.ok.inj htags
    rfl
  exact ⟨_, _, rfl, schemas _ rfl apart, rfl, rfl, (parameters unbound _).mp rfl, rfl⟩

end Extraction

end RouteDoc
