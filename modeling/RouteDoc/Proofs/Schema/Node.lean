import Mathlib.Logic.Relation
import RouteDoc.Proofs.Schema.Descent
import RouteDoc.Proofs.Schema.Rule

/-! The nodes of a schema. What each way of making or changing a node keeps holds at every node of
all that synthesis returns. -/

namespace RouteDoc

open Relation

namespace Schema

/-- A schema stands directly below another: as its items, or as one of its properties. -/
inductive Child (schema : Schema) : Schema → Prop
  | items {child : Schema} : schema.items = some child → Child schema child
  | property {name : Text} {child : Schema} : (name, child) ∈ schema.properties → Child schema child

/-- A property holds at the root of a schema and at every node below. -/
def Throughout (P : Schema → Prop) (schema : Schema) : Prop :=
  ∀ node, ReflTransGen Child schema node → P node

variable {P : Schema → Prop} {schema : Schema}

theorem throughout_iff :
    schema.Throughout P ↔ P schema ∧ ∀ child, schema.Child child → child.Throughout P := by
  constructor
  · intro h
    exact ⟨h schema .refl, fun child hchild node hnode => h node (.head hchild hnode)⟩
  · rintro ⟨root, below⟩ node hnode
    rcases ReflTransGen.cases_head hnode with rfl | ⟨child, hchild, hnode⟩
    · exact root
    · exact below child hchild node hnode

/-- A schema with no items and no properties is a single node. -/
theorem throughout_of_bare (root : P schema) (hitems : schema.items = none)
    (hproperties : schema.properties = []) : schema.Throughout P := by
  refine throughout_iff.mpr ⟨root, ?_⟩
  rintro child (hchild | hchild)
  · exact nomatch hitems.symm.trans hchild
  · exact nomatch hproperties ▸ hchild

theorem throughout_array {items : Schema} (root : P (array items)) (h : items.Throughout P) :
    (array items).Throughout P := by
  refine throughout_iff.mpr ⟨root, ?_⟩
  rintro child (hchild | hchild)
  · exact Option.some.inj hchild ▸ h
  · exact nomatch hchild

/-- Constraints and texts change the root of a schema only. -/
theorem Throughout.tagged {rules : List Rule} {constrained : Schema} {options : List Text}
    (h : schema.Throughout P) (apply : Rule.applyAll rules schema options = .ok constrained)
    (tags : FieldTags) (root : P (tags.annotate constrained)) :
    (tags.annotate constrained).Throughout P := by
  have hshape := Rule.constrains_of_applyAll apply
  refine throughout_iff.mpr ⟨root, ?_⟩
  rw [hshape]
  rintro child (hchild | hchild)
  · exact (throughout_iff.mp h).2 child (.items hchild)
  · exact (throughout_iff.mp h).2 child (.property hchild)

end Schema

theorem Primitive.schema_bare (p : Primitive) :
    p.schema.items = none ∧ p.schema.properties = [] ∧ p.schema.required = [] := by
  unfold schema
  split <;> exact ⟨rfl, rfl, rfl⟩

namespace Share

/-- The schema in a share. -/
def schema : Share → Schema
  | .property _ _ schema => schema
  | .embedded schema => schema

theorem addTo_type (object : Schema) (share : Share) :
    (share.addTo object).type = object.type := by
  rw [addTo_eq]

/-- The properties of an object with a share added were there before, or are those of the share. -/
theorem child_of_mem_addTo {object : Schema} {share : Share} {e : Text × Schema}
    (h : e ∈ (share.addTo object).properties) :
    e ∈ object.properties ∨ e.2 = share.schema ∨ share.schema.Child e.2 := by
  cases share with
  | property name isRequired schema =>
    rcases Entries.mem_put h with rfl | h
    · exact .inr (.inl rfl)
    · exact .inl h
  | embedded schema =>
    rcases Entries.mem_foldl_putNew h with h | h
    · exact .inl h
    · exact .inr (.inr (.property h))

theorem throughout_addTo {P : Schema → Prop} {object : Schema} {share : Share}
    (root : P (share.addTo object)) (hobject : object.Throughout P)
    (hshare : share.schema.Throughout P) : (share.addTo object).Throughout P := by
  have hitems : (share.addTo object).items = object.items := by rw [addTo_eq]
  have below := (Schema.throughout_iff.mp hobject).2
  refine Schema.throughout_iff.mpr ⟨root, ?_⟩
  rintro child (hchild | hchild)
  · exact below child (.items (hitems ▸ hchild))
  · rcases child_of_mem_addTo hchild with h | rfl | h
    · exact below child (.property h)
    · exact hshare
    · exact (Schema.throughout_iff.mp hshare).2 child h

end Share

namespace Synthesis

open Descent

/-- Each way in which synthesis makes or changes a node gives it a property. -/
structure Keeps (catalog : Catalog) (rules : List Rule) (P : Schema → Prop) : Prop where
  primitive : ∀ p : Primitive, P p.schema
  object : P Schema.object
  array : ∀ items, P (Schema.array items)
  addTo : ∀ {object : Schema} {share : Share}, object.type = .object → P object →
    P share.schema → P (share.addTo object)
  tagged : ∀ {field : Field} {tags : FieldTags} {plain schema : Schema},
    catalog.HasField field tags → P plain →
    Rule.applyAll rules plain tags.constraints = .ok schema → P (tags.annotate schema)

namespace Keeps

variable {catalog : Catalog} {rules : List Rule} {P : Schema → Prop}
variable (keeps : Keeps catalog rules P)
include keeps

theorem throughout_collect {shares : List Share}
    (h : ∀ share ∈ shares, share.schema.Throughout P) :
    (Share.collect shares).Throughout P := by
  induction shares using List.reverseRecOn with
  | nil => exact Schema.throughout_of_bare keeps.object rfl rfl
  | append_singleton shares share ih =>
    obtain ⟨hshares, hshare⟩ := List.forall_mem_append.mp h
    have hobject := ih hshares
    have hshare := List.forall_mem_singleton.mp hshare
    have hroot := (Schema.throughout_iff.mp hobject).1
    have hadded := (Schema.throughout_iff.mp hshare).1
    rw [Share.collect_append]
    exact Share.throughout_addTo
      (keeps.addTo (Share.collect_eq shares ▸ rfl) hroot hadded) hobject hshare

theorem throughout_of_schema_eq_ok {model : Text → Except Failure Schema}
    (hmodel : ∀ name schema, model name = .ok schema → schema.Throughout P) {form : Descriptor}
    {schema : Schema} (h : form.schema model = .ok schema) : schema.Throughout P := by
  induction form generalizing schema with
  | primitive p =>
    cases h
    obtain ⟨hitems, hproperties, -⟩ := p.schema_bare
    exact Schema.throughout_of_bare (keeps.primitive p) hitems hproperties
  | composite name => exact hmodel name schema h
  | sequence element ih =>
    obtain ⟨items, hitems, h⟩ := bind_eq_ok_iff.mp h
    cases h
    exact Schema.throughout_array (keeps.array items) (ih hitems)
  | mapping | unclassified =>
    cases h
    exact Schema.throughout_of_bare keeps.object rfl rfl

theorem throughout_of_tagged {field : Field} {tags : FieldTags} {plain schema : Schema}
    (hfield : catalog.HasField field tags) (h : plain.Throughout P)
    (apply : Rule.applyAll rules plain tags.constraints = .ok schema) :
    (tags.annotate schema).Throughout P :=
  h.tagged apply tags (keeps.tagged hfield (Schema.throughout_iff.mp h).1 apply)

/-- A field yields a schema with the property where types have schemas with it. -/
theorem throughout_of_yields {read : TypeExpr → Except Failure Schema} {fields : List Field}
    {model : Text} {field : Field} {share : Share} (hfields : catalog.fields model = .ok fields)
    (hmem : field ∈ fields)
    (hread : ∀ type schema, read type = .ok schema → schema.Throughout P)
    (h : Yields rules read field share) : share.schema.Throughout P := by
  cases h with
  | embedded _ _ hschema => exact hread _ _ hschema
  | property htags _ _ hplain hrules =>
    exact keeps.throughout_of_tagged ⟨model, fields, hfields, hmem, htags⟩ (hread _ _ hplain) hrules

theorem throughout_of_schemaOfModel {name : Text} {schema : Schema}
    (h : schemaOfModel catalog rules name = .ok schema) : schema.Throughout P := by
  refine schemaOfModel_induction (fun _ x => ∀ s, x = .ok s → s.Throughout P)
    (fun name x model _ found _ hx s hs => ?_) (settled_ok schema) h schema rfl
  subst hs
  obtain ⟨fields, shares, hfields, hshares, rfl⟩ := Catalog.gather_eq_ok_iff.mp hx
  refine keeps.throughout_collect fun share hmem => ?_
  obtain ⟨field, hin, hfield⟩ := exists_mem_of_forall₂ hshares hmem
  refine keeps.throughout_of_yields hfields hin (fun type t ht => ?_) (share_eq_ok_iff.mp hfield)
  exact keeps.throughout_of_schema_eq_ok
    (fun n t ht => found n (.ok t) (settled_ok t) ht t rfl) ht

/-- What synthesis keeps holds at every node of the schema of a type. -/
theorem throughout_of_schemaOf {type : TypeExpr} {schema : Schema}
    (h : schemaOf catalog rules type = .ok schema) : schema.Throughout P :=
  keeps.throughout_of_schema_eq_ok (fun _ _ => keeps.throughout_of_schemaOfModel) h

end Keeps

end Synthesis

end RouteDoc
