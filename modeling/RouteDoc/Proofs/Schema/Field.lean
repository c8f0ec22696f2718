import RouteDoc.Proofs.Outcome
import RouteDoc.Proofs.Schema.Share

/-! What a single field yields: a share of the object of its model, or the first of the faults that
reading it can meet. -/

namespace RouteDoc

/-- The model whose schema a form needs: its own, or that of the items of a sequence. -/
def Descriptor.model? : Descriptor → Option Text
  | .composite name => some name
  | .sequence element => element.model?
  | .primitive _ | .mapping | .unclassified => none

namespace Descriptor

variable {model : Text → Except Failure Schema}

theorem schema_eq_error_iff {form : Descriptor} {failure : Failure} :
    form.schema model = .error failure ↔
      ∃ name, form.model? = some name ∧ model name = .error failure := by
  induction form with
  | primitive p => simp [schema, model?]
  | composite name => simp [schema, model?]
  | sequence element ih =>
    simp only [schema, bind_eq_error_iff, pure, Except.pure, reduceCtorEq, and_false, exists_false,
      or_false, model?]
    exact ih
  | mapping => simp [schema, model?]
  | unclassified => simp [schema, model?]

theorem schema_congr {f g : Text → Except Failure Schema} {form : Descriptor}
    (h : ∀ name, form.model? = some name → f name = g name) : form.schema f = form.schema g := by
  induction form with
  | primitive | mapping | unclassified => rfl
  | composite name => exact h name rfl
  | sequence element ih => rw [schema, schema, ih h]

end Descriptor

theorem FieldTags.has_eq_true_iff {tags : FieldTags} {key : Text} :
    tags.has key = true ↔ ∃ name, tags.name? key = some name := by
  rw [has, name?, Option.isSome_iff_exists]
  cases tags.get? key <;> simp

theorem FieldTags.has_eq_false_iff {tags : FieldTags} {key : Text} :
    tags.has key = false ↔ tags.name? key = none := by
  rw [has, name?, Option.isSome_eq_false_iff, Option.isNone_iff_eq_none]
  cases tags.get? key <;> simp

/-- A model of the catalog, or a base of one, has the field with these tags. -/
def Catalog.HasField (catalog : Catalog) (field : Field) (tags : FieldTags) : Prop :=
  ∃ model fields, catalog.fields model = .ok fields ∧ field ∈ fields ∧
    FieldTags.ofField field = .ok tags

namespace Synthesis

variable (catalog : Catalog) (rules : List Rule)

/-- The share of a field, where `model` gives the schemas of models. -/
def share (model : Text → Except Failure Schema) (owner : Text) (field : Field) :
    Except Failure Share := do
  let tags ← FieldTags.ofField field
  let form := field.type.describe catalog
  if tags.has Tag.Key.embed then
    return .embedded (← form.schema model)
  else
    match tags.name? Tag.Key.json with
    | none => .error (.schema (.unnamedField owner field.name))
    | some name =>
      let schema ← Rule.applyAll rules (← form.schema model) tags.constraints
      return .property name tags.isRequired (tags.annotate schema)

theorem addField_eq_share (model : Text → Except Failure Schema) (owner : Text) (object : Schema)
    (field : Field) :
    addField catalog rules model owner object field =
      (share catalog rules model owner field).map (Share.addTo object) := by
  unfold addField share
  cases FieldTags.ofField field with
  | error e => rfl
  | ok tags =>
    simp only [bind, Except.bind]
    split
    · cases (field.type.describe catalog).schema model <;> rfl
    · cases tags.name? Tag.Key.json with
      | none => rfl
      | some name =>
        cases (field.type.describe catalog).schema model with
        | error e => rfl
        | ok schema =>
          dsimp only
          cases Rule.applyAll rules schema tags.constraints <;> rfl

section

variable {catalog rules}
variable {model : Text → Except Failure Schema} {owner : Text} {field : Field} {tags : FieldTags}

theorem share_of_embeds (htags : FieldTags.ofField field = .ok tags)
    (hembed : tags.has Tag.Key.embed = true) :
    share catalog rules model owner field =
      ((field.type.describe catalog).schema model).map .embedded := by
  unfold share
  rw [htags]
  simp only [bind, Except.bind, hembed, if_true]
  rfl

theorem share_of_unnamed (htags : FieldTags.ofField field = .ok tags)
    (hembed : tags.has Tag.Key.embed = false) (hname : tags.name? Tag.Key.json = none) :
    share catalog rules model owner field =
      .error (.schema (.unnamedField owner field.name)) := by
  unfold share
  rw [htags]
  simp only [bind, Except.bind, hembed, hname, Bool.false_eq_true, if_false]

theorem share_of_named {name : Text} (htags : FieldTags.ofField field = .ok tags)
    (hembed : tags.has Tag.Key.embed = false) (hname : tags.name? Tag.Key.json = some name) :
    share catalog rules model owner field =
      (((field.type.describe catalog).schema model) >>= fun plain =>
        Rule.applyAll rules plain tags.constraints).map fun schema =>
          .property name tags.isRequired (tags.annotate schema) := by
  unfold share
  rw [htags]
  simp only [bind, Except.bind, hembed, hname, Bool.false_eq_true, if_false]
  cases (field.type.describe catalog).schema model <;> rfl

/-- The share of a field needs no models but that of the type of a field that is read. -/
theorem share_congr {f g : Text → Except Failure Schema}
    (h : ∀ tags name, FieldTags.ofField field = .ok tags →
      tags.has Tag.Key.embed = true ∨ tags.has Tag.Key.json = true →
      (field.type.describe catalog).model? = some name → f name = g name) :
    share catalog rules f owner field = share catalog rules g owner field := by
  cases htags : FieldTags.ofField field with
  | error e =>
    unfold share
    rw [htags]
    rfl
  | ok tags =>
    cases hembed : tags.has Tag.Key.embed with
    | true =>
      rw [share_of_embeds htags hembed, share_of_embeds htags hembed,
        Descriptor.schema_congr fun name => h tags name htags (.inl hembed)]
    | false =>
      cases hname : tags.name? Tag.Key.json with
      | none => rw [share_of_unnamed htags hembed hname, share_of_unnamed htags hembed hname]
      | some name =>
        have hjson := FieldTags.has_eq_true_iff.mpr ⟨name, hname⟩
        rw [share_of_named htags hembed hname, share_of_named htags hembed hname,
          Descriptor.schema_congr fun name => h tags name htags (.inr hjson)]

end

/-- What a field yields, where `read` gives the schemas of types: the schema of the model it embeds,
or a property whose schema is that of its type, with the constraints and texts of its tags. -/
inductive Yields (read : TypeExpr → Except Failure Schema) (field : Field) : Share → Prop
  | embedded {tags : FieldTags} {schema : Schema} :
    FieldTags.ofField field = .ok tags → tags.has Tag.Key.embed = true →
      read field.type = .ok schema → Yields read field (.embedded schema)
  | property {tags : FieldTags} {name : Text} {plain schema : Schema} :
    FieldTags.ofField field = .ok tags → tags.has Tag.Key.embed = false →
      tags.name? Tag.Key.json = some name → read field.type = .ok plain →
      Rule.applyAll rules plain tags.constraints = .ok schema →
      Yields read field (.property name tags.isRequired (tags.annotate schema))

variable {rules} in
theorem yields_iff_of_embeds {read : TypeExpr → Except Failure Schema}
    {field : Field} {share : Share} {tags : FieldTags} (htags : FieldTags.ofField field = .ok tags)
    (hembed : tags.has Tag.Key.embed = true) : Yields rules read field share ↔
      ∃ schema, read field.type = .ok schema ∧ share = .embedded schema := by
  constructor
  · rintro (⟨_, _, hschema⟩ | ⟨htags', hembed', _, _, _⟩)
    · exact ⟨_, hschema, rfl⟩
    · obtain rfl := Except.ok.inj (htags.symm.trans htags')
      exact nomatch hembed.symm.trans hembed'
  · rintro ⟨schema, hschema, rfl⟩
    exact .embedded htags hembed hschema

variable {rules} in
theorem yields_iff_of_not_embeds {read : TypeExpr → Except Failure Schema}
    {field : Field} {share : Share} {tags : FieldTags} (htags : FieldTags.ofField field = .ok tags)
    (hembed : tags.has Tag.Key.embed = false) : Yields rules read field share ↔
      ∃ name plain schema, tags.name? Tag.Key.json = some name ∧ read field.type = .ok plain ∧
        Rule.applyAll rules plain tags.constraints = .ok schema ∧
        share = .property name tags.isRequired (tags.annotate schema) := by
  constructor
  · rintro (⟨htags', hembed', _⟩ | ⟨htags', _, hname, hplain, hrules⟩)
    · obtain rfl := Except.ok.inj (htags.symm.trans htags')
      exact nomatch hembed.symm.trans hembed'
    · obtain rfl := Except.ok.inj (htags.symm.trans htags')
      exact ⟨_, _, _, hname, hplain, hrules, rfl⟩
  · rintro ⟨name, plain, schema, hname, hplain, hrules, rfl⟩
    exact .property htags hembed hname hplain hrules

variable {catalog rules} in
theorem share_eq_ok_iff {model : Text → Except Failure Schema} {owner : Text} {field : Field}
    {s : Share} :
    share catalog rules model owner field = .ok s ↔
      Yields rules (fun type => (type.describe catalog).schema model) field s := by
  constructor
  · intro h
    obtain ⟨tags, htags, -⟩ := bind_eq_ok_iff.mp h
    cases hembed : tags.has Tag.Key.embed with
    | true =>
      rw [share_of_embeds htags hembed] at h
      obtain ⟨schema, hschema, rfl⟩ := map_eq_ok_iff.mp h
      exact .embedded htags hembed hschema
    | false =>
      cases hname : tags.name? Tag.Key.json with
      | none => exact nomatch (share_of_unnamed htags hembed hname).symm.trans h
      | some name =>
        rw [share_of_named htags hembed hname] at h
        obtain ⟨schema, hschema, rfl⟩ := map_eq_ok_iff.mp h
        obtain ⟨plain, hplain, hrules⟩ := bind_eq_ok_iff.mp hschema
        exact .property htags hembed hname hplain hrules
  · rintro (⟨htags, hembed, hschema⟩ | ⟨htags, hembed, hname, hplain, hrules⟩)
    · rw [share_of_embeds htags hembed]
      exact map_eq_ok_iff.mpr ⟨_, hschema, rfl⟩
    · rw [share_of_named htags hembed hname]
      exact map_eq_ok_iff.mpr ⟨_, bind_eq_ok_iff.mpr ⟨_, hplain, hrules⟩, rfl⟩

/-- Why a field yields no share: its tags cannot be read, the model of its type has no schema, it
has no name, or its schema does not take the constraints. -/
inductive Fails (model : Text → Except Failure Schema) (owner : Text) (field : Field)
    (failure : Failure) : Prop
  | tags : FieldTags.ofField field = .error failure → Fails model owner field failure
  | type {tags : FieldTags} {name : Text} : FieldTags.ofField field = .ok tags →
    tags.has Tag.Key.embed = true ∨ tags.has Tag.Key.json = true →
    (field.type.describe catalog).model? = some name → model name = .error failure →
    Fails model owner field failure
  | unnamed {tags : FieldTags} : FieldTags.ofField field = .ok tags →
    tags.has Tag.Key.embed = false → tags.has Tag.Key.json = false →
    failure = .schema (.unnamedField owner field.name) → Fails model owner field failure
  | constraint {tags : FieldTags} {schema : Schema} : FieldTags.ofField field = .ok tags →
    tags.has Tag.Key.embed = false → tags.has Tag.Key.json = true →
    (field.type.describe catalog).schema model = .ok schema →
    Rule.applyAll rules schema tags.constraints = .error failure →
    Fails model owner field failure

variable {catalog rules} in
theorem share_eq_error_iff {model : Text → Except Failure Schema} {owner : Text} {field : Field}
    {failure : Failure} :
    share catalog rules model owner field = .error failure ↔
      Fails catalog rules model owner field failure := by
  constructor
  · intro h
    rcases bind_eq_error_iff.mp h with htags | ⟨tags, htags, -⟩
    · exact .tags htags
    cases hembed : tags.has Tag.Key.embed with
    | true =>
      rw [share_of_embeds htags hembed] at h
      obtain ⟨name, hname, h⟩ := Descriptor.schema_eq_error_iff.mp (map_eq_error_iff.mp h)
      exact .type htags (.inl hembed) hname h
    | false =>
      cases hjson : tags.name? Tag.Key.json with
      | none =>
        rw [share_of_unnamed htags hembed hjson] at h
        exact .unnamed htags hembed (FieldTags.has_eq_false_iff.mpr hjson)
          (Except.error.inj h).symm
      | some name =>
        have hhas := FieldTags.has_eq_true_iff.mpr ⟨name, hjson⟩
        rw [share_of_named htags hembed hjson] at h
        rcases bind_eq_error_iff.mp (map_eq_error_iff.mp h) with h | ⟨schema, hschema, h⟩
        · obtain ⟨name, hname, h⟩ := Descriptor.schema_eq_error_iff.mp h
          exact .type htags (.inr hhas) hname h
        · exact .constraint htags hembed hhas hschema h
  · rintro (h | @⟨tags, _, htags, hkeys, hname, h⟩ | ⟨htags, hembed, hjson, rfl⟩ |
      ⟨htags, hembed, hjson, hschema, h⟩)
    · exact bind_eq_error_iff.mpr (.inl h)
    · have herror := Descriptor.schema_eq_error_iff.mpr ⟨_, hname, h⟩
      cases hembed : tags.has Tag.Key.embed with
      | true =>
        rw [share_of_embeds htags hembed]
        exact map_eq_error_iff.mpr herror
      | false =>
        obtain ⟨json, hjson⟩ :=
          FieldTags.has_eq_true_iff.mp (hkeys.resolve_left (Bool.eq_false_iff.mp hembed))
        rw [share_of_named htags hembed hjson]
        exact map_eq_error_iff.mpr (bind_eq_error_iff.mpr (.inl herror))
    · exact share_of_unnamed htags hembed (FieldTags.has_eq_false_iff.mp hjson)
    · obtain ⟨json, hjson⟩ := FieldTags.has_eq_true_iff.mp hjson
      rw [share_of_named htags hembed hjson]
      exact map_eq_error_iff.mpr (bind_eq_error_iff.mpr (.inr ⟨_, hschema, h⟩))

end Synthesis

end RouteDoc
