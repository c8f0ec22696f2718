import RouteDoc.Proofs.Schema.Chain
import RouteDoc.Proofs.Schema.Composition

/-! Rules only decorate. A chain of rules decides which options are accepted and which constraints
stand at the nodes of a schema; all else in a schema is the same for every chain. -/

namespace RouteDoc

namespace Schema

mutual

/-- A schema without the four constraints of rules, at every node. -/
def undecorated : Schema → Schema
  | ⟨type, format, description, fallback, sample, _, _, _, _, properties, required, items⟩ =>
    { type, format, description, fallback, sample, required
      properties := undecoratedEach properties
      items := match items with
        | none => none
        | some schema => some (undecorated schema) }

/-- Properties without the constraints of rules. -/
def undecoratedEach : List (Text × Schema) → List (Text × Schema)
  | [] => []
  | (name, schema) :: more => (name, undecorated schema) :: undecoratedEach more

end

theorem undecoratedEach_eq_map (properties : List (Text × Schema)) :
    undecoratedEach properties = properties.map fun p => (p.1, p.2.undecorated) := by
  induction properties with
  | nil => rfl
  | cons p more ih =>
    rw [undecoratedEach, ih]
    rfl

theorem undecorated_eq (schema : Schema) : schema.undecorated =
    { schema with
      minimum := none
      maximum := none
      length := none
      enum := []
      properties := schema.properties.map fun p => (p.1, p.2.undecorated)
      items := schema.items.map undecorated } := by
  obtain ⟨_, _, _, _, _, _, _, _, _, properties, _, items⟩ := schema
  cases items <;> rw [undecorated, undecoratedEach_eq_map] <;> rfl

theorem properties_undecorated (schema : Schema) :
    schema.undecorated.properties = schema.properties.map fun p => (p.1, p.2.undecorated) := by
  rw [undecorated_eq]

theorem required_undecorated (schema : Schema) :
    schema.undecorated.required = schema.required := by
  rw [undecorated_eq]

theorem undecorated_object : object.undecorated = object := by
  rw [undecorated_eq]
  rfl

theorem undecorated_array (items : Schema) :
    (array items).undecorated = array items.undecorated := by
  rw [undecorated_eq]
  rfl

theorem undecorated_annotate (tags : FieldTags) (schema : Schema) :
    (tags.annotate schema).undecorated = tags.annotate schema.undecorated := by
  rw [undecorated_eq, undecorated_eq schema]
  rfl

end Schema

/-- What a chain adds to a schema are constraints. -/
theorem Rule.undecorated_of_applyAll {rules : List Rule} {schema constrained : Schema}
    {options : List Text} (h : applyAll rules schema options = .ok constrained) :
    constrained.undecorated = schema.undecorated := by
  have hconstrains := constrains_of_applyAll h
  rw [Constrains] at hconstrains
  rw [Schema.undecorated_eq, Schema.undecorated_eq schema, hconstrains]

/-- Options that a chain accepts are accepted by every chain of some of its rules. -/
theorem Rule.applyAll_follows {rules others : List Rule} (sub : ∀ rule ∈ others, rule ∈ rules)
    {schema other : Schema} (same : other.undecorated = schema.undecorated) (options : List Text) :
    Follows Schema.undecorated (applyAll rules schema options)
      (applyAll others other options) := by
  intro constrained h
  obtain ⟨hreads, -⟩ := applyAll_eq_ok_iff.mp h
  obtain ⟨s, hs⟩ : ∃ s, applyAll others other options = .ok s :=
    ⟨_, applyAll_eq_ok_iff.mpr ⟨fun rule hrule => hreads rule (sub rule hrule), rfl⟩⟩
  refine ⟨s, hs, ?_⟩
  rw [undecorated_of_applyAll hs, same, undecorated_of_applyAll h]

namespace Share

/-- A share with its schema undecorated. -/
def undecorated : Share → Share
  | .property name isRequired schema => .property name isRequired schema.undecorated
  | .embedded schema => .embedded schema.undecorated

theorem undecorated_addTo (object : Schema) (share : Share) :
    (share.addTo object).undecorated = share.undecorated.addTo object.undecorated := by
  cases share with
  | property name isRequired schema =>
    rw [Schema.undecorated_eq, Schema.undecorated_eq object]
    simp only [undecorated, addTo, Schema.putProperty, Entries.map_put]
  | embedded schema =>
    rw [Schema.undecorated_eq, Schema.undecorated_eq object]
    simp only [undecorated, addTo, Schema.embed, Entries.map_foldl_putNew,
      Schema.properties_undecorated, Schema.required_undecorated]

theorem undecorated_collect (shares : List Share) :
    (collect shares).undecorated = collect (shares.map undecorated) := by
  induction shares using List.reverseRecOn with
  | nil => exact Schema.undecorated_object
  | append_singleton shares share ih =>
    rw [collect_append, undecorated_addTo, ih, List.map_append, List.map_singleton, collect_append]

end Share

namespace Synthesis

open Descent

variable {catalog : Catalog} {rules others : List Rule}

theorem schema_follows {f g : Text → Except Failure Schema}
    (h : ∀ n, Follows Schema.undecorated (f n) (g n)) (form : Descriptor) :
    Follows Schema.undecorated (form.schema f) (form.schema g) := by
  induction form with
  | primitive p => exact .refl _ _
  | composite name => exact h name
  | sequence element ih =>
    refine ih.bind fun s t hst => ?_
    rintro _ ⟨⟩
    exact ⟨_, rfl, by rw [Schema.undecorated_array, Schema.undecorated_array, hst]⟩
  | mapping | unclassified => exact .refl _ _

variable (sub : ∀ rule ∈ others, rule ∈ rules)
include sub

theorem share_follows {f g : Text → Except Failure Schema}
    (h : ∀ n, Follows Schema.undecorated (f n) (g n)) (owner : Text) (field : Field) :
    Follows Share.undecorated (share catalog rules f owner field)
      (share catalog others g owner field) := by
  have hform := schema_follows h (field.type.describe catalog)
  refine Follows.bind (.refl id _) fun tags same htags => ?_
  obtain rfl : same = tags := htags
  dsimp only
  split
  · refine hform.bind fun s t hst => ?_
    rintro _ ⟨⟩
    exact ⟨_, rfl, by rw [Share.undecorated, Share.undecorated, hst]⟩
  · split
    · exact .refl _ _
    · refine hform.bind fun s t hst => ?_
      refine (Rule.applyAll_follows sub hst _).bind fun s t hst => ?_
      rintro _ ⟨⟩
      refine ⟨_, rfl, ?_⟩
      simp only [Share.undecorated, Schema.undecorated_annotate, hst]

theorem modelBody_follows (f g : Text → Except Failure Schema)
    (h : ∀ n, Follows Schema.undecorated (f n) (g n)) (name : Text) :
    Follows Schema.undecorated (modelBody catalog rules f name)
      (modelBody catalog others g name) := by
  refine Catalog.gather_follows (fun field => share_follows sub h name field) fun ss ts hst => ?_
  rw [Share.undecorated_collect, Share.undecorated_collect, hst]

/-- A model that has a schema has one under every chain of some of the rules, and the two differ in
constraints only. -/
theorem schemaOfModel_follows (name : Text) :
    Follows Schema.undecorated (schemaOfModel catalog rules name)
      (schemaOfModel catalog others name) := by
  rw [schemaOfModel_eq_run, schemaOfModel_eq_run]
  exact run_follows (modelBody_follows sub) _ _ name

theorem schemaOf_follows (type : TypeExpr) :
    Follows Schema.undecorated (schemaOf catalog rules type) (schemaOf catalog others type) :=
  schema_follows (schemaOfModel_follows sub) _

theorem constrained_follows (type : TypeExpr) (options : List Text) :
    Follows Schema.undecorated (constrained catalog rules type options)
      (constrained catalog others type options) :=
  (schemaOf_follows sub type).bind fun _ _ same => Rule.applyAll_follows sub same options

end Synthesis

end RouteDoc
