import RouteDoc.Proofs.Schema.Node

/-! Well-formed schemas: at every node the parts fit the type, and what is required is there. Each
way of making or changing a node keeps this, so it holds of all that synthesis returns. -/

namespace RouteDoc

open Relation

namespace Schema

/-- The parts of a single node fit together: only an array has items, only an object has properties
and required names, only integers and strings have a format, and the required names are distinct
and have properties. -/
structure Fits (schema : Schema) : Prop where
  items : schema.items.isSome = true ↔ schema.type = .array
  properties : schema.type ≠ .object → schema.properties = []
  required : schema.type ≠ .object → schema.required = []
  format : schema.format ≠ [] → schema.type = .integer ∨ schema.type = .string
  distinct : schema.required.Nodup
  covered : schema.required ⊆ Entries.keys schema.properties

/-- A schema fits at its root and at every node below. -/
def WellFormed (schema : Schema) : Prop := ∀ node, ReflTransGen Child schema node → Fits node

/-- What a schema says about its form, apart from the constraints and texts on it. -/
def Shaped (schema other : Schema) : Prop :=
  other.type = schema.type ∧ other.format = schema.format ∧
    other.properties = schema.properties ∧ other.required = schema.required ∧
    other.items = schema.items

theorem Fits.of_shaped {schema other : Schema} (h : schema.Fits) (same : schema.Shaped other) :
    other.Fits := by
  obtain ⟨htype, hformat, hproperties, hrequired, hitems⟩ := same
  refine ⟨?_, ?_, ?_, ?_, ?_, ?_⟩
  · rw [hitems, htype]
    exact h.items
  · rw [hproperties, htype]
    exact h.properties
  · rw [hrequired, htype]
    exact h.required
  · rw [hformat, htype]
    exact h.format
  · rw [hrequired]
    exact h.distinct
  · rw [hrequired, hproperties]
    exact h.covered

theorem shaped_of_constrains {schema constrained : Schema}
    (h : Rule.Constrains schema constrained) : schema.Shaped constrained := by
  rw [h]
  exact ⟨rfl, rfl, rfl, rfl, rfl⟩

theorem shaped_annotate (tags : FieldTags) (schema : Schema) :
    schema.Shaped (tags.annotate schema) := ⟨rfl, rfl, rfl, rfl, rfl⟩

/-- A schema keeps its form when it is constrained. -/
theorem WellFormed.applyAll {rules : List Rule} {schema constrained : Schema}
    {options : List Text} (h : schema.WellFormed)
    (apply : Rule.applyAll rules schema options = .ok constrained) : constrained.WellFormed := by
  obtain ⟨root, below⟩ := throughout_iff.mp h
  have same := shaped_of_constrains (Rule.constrains_of_applyAll apply)
  refine throughout_iff.mpr ⟨root.of_shaped same, ?_⟩
  obtain ⟨-, -, hproperties, -, hitems⟩ := same
  rintro child (hchild | hchild)
  · exact below child (.items (hitems ▸ hchild))
  · exact below child (.property (hproperties ▸ hchild))

end Schema

theorem Primitive.fits_schema (p : Primitive) : p.schema.Fits := by
  have htype : p.schema.type ≠ .array := by
    unfold schema
    split <;> simp
  have hformat : p.schema.format ≠ [] → p.schema.type = .integer ∨ p.schema.type = .string := by
    unfold schema
    split
    case h_1 => exact fun _ => .inl rfl
    case h_2 | h_3 => exact fun h => absurd rfl h
    all_goals exact fun _ => .inr rfl
  obtain ⟨hitems, hproperties, hrequired⟩ := p.schema_bare
  refine ⟨?_, fun _ => hproperties, fun _ => hrequired, hformat, ?_, ?_⟩
  · simp [hitems, htype]
  · simp [hrequired]
  · simp [hrequired]

namespace Share

/-- What a share requires, it gives. -/
theorem required_subset_names {share : Share} (h : share.schema.Fits) :
    share.required ⊆ share.names := by
  cases share with
  | property name isRequired schema => cases isRequired <;> simp [required, names]
  | embedded schema => exact h.covered

theorem fits_addTo {object : Schema} {share : Share} (isObject : object.type = .object)
    (hobject : object.Fits) (hshare : share.schema.Fits) : (share.addTo object).Fits := by
  have htype : (share.addTo object).type = .object := (addTo_type object share).trans isObject
  have hitems : (share.addTo object).items = object.items := by rw [addTo_eq]
  have hformat : (share.addTo object).format = object.format := by rw [addTo_eq]
  refine ⟨?_, ?_, ?_, ?_, ?_, ?_⟩
  · rw [hitems, addTo_type]
    exact hobject.items
  · exact fun h => absurd htype h
  · exact fun h => absurd htype h
  · rw [hformat, addTo_type]
    exact hobject.format
  · rw [required_addTo]
    exact nodup_foldl_addNew share.required hobject.distinct
  · -- Names that are required and names with properties grow together.
    intro name hname
    rw [required_addTo, mem_foldl_addNew] at hname
    rw [keys_addTo, mem_foldl_addNew]
    exact hname.imp (fun h => hobject.covered h) fun h => required_subset_names hshare h

end Share

namespace Synthesis

variable {catalog : Catalog} {rules : List Rule}

theorem keeps_fits : Keeps catalog rules Schema.Fits where
  primitive := Primitive.fits_schema
  object := by constructor <;> simp [Schema.object]
  array items := by constructor <;> simp [Schema.array]
  addTo := Share.fits_addTo
  tagged _ hplain hrules :=
    (hplain.of_shaped (Schema.shaped_of_constrains (Rule.constrains_of_applyAll hrules))).of_shaped
      (Schema.shaped_annotate _ _)

theorem wellFormed_of_schemaOf {type : TypeExpr} {schema : Schema}
    (h : schemaOf catalog rules type = .ok schema) : schema.WellFormed :=
  keeps_fits.throughout_of_schemaOf h

theorem wellFormed_of_constrained {type : TypeExpr} {options : List Text} {schema : Schema}
    (h : constrained catalog rules type options = .ok schema) : schema.WellFormed := by
  obtain ⟨plain, hplain, hrules⟩ := bind_eq_ok_iff.mp h
  exact (wellFormed_of_schemaOf hplain).applyAll hrules

end Synthesis

end RouteDoc
