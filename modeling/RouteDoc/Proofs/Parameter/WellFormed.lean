import RouteDoc.Proofs.Parameter.Descent
import RouteDoc.Proofs.Schema.WellFormed

/-! Well-formed schemas wherever a document has one: in bodies, under constraints, and in
parameters. -/

namespace RouteDoc.Extraction

variable {catalog : Catalog} {rules : List Rule}

/-- What synthesis keeps holds at every node of the schema of a parameter. -/
theorem throughout_of_parametersOf {P : Schema → Prop}
    (keeps : Synthesis.Keeps catalog rules P) {type : TypeExpr} {parameters : List Parameter}
    (h : parametersOf catalog rules type = .ok parameters) :
    ∀ p ∈ parameters, p.schema.Throughout P := by
  intro p hp
  rcases parametersOf_eq_ok h with rfl | ⟨name, -, h⟩
  · exact nomatch hp
  · obtain ⟨field, tags, location, name, hfield, hparameter⟩ := exists_field_of_mem h hp
    obtain ⟨schema, hschema, rfl⟩ := parameter_eq_ok_iff.mp hparameter
    obtain ⟨plain, hplain, hrules⟩ := bind_eq_ok_iff.mp hschema
    exact keeps.throughout_of_tagged hfield (keeps.throughout_of_schemaOf hplain) hrules

theorem wellFormed_of_parametersOf {type : TypeExpr} {parameters : List Parameter}
    (h : parametersOf catalog rules type = .ok parameters) :
    ∀ p ∈ parameters, p.schema.WellFormed :=
  throughout_of_parametersOf Synthesis.keeps_fits h

/-- Every schema that a type gives is well formed at each of its nodes: as the schema of a body,
with any constraints applied to it, and in each of the parameters that it gives. -/
theorem wellFormed_of_type (catalog : Catalog) (rules : List Rule) (type : TypeExpr)
    (options : List Text) :
    (∀ schema, Synthesis.schemaOf catalog rules type = .ok schema → schema.WellFormed) ∧
    (∀ schema, Synthesis.constrained catalog rules type options = .ok schema →
      schema.WellFormed) ∧
    ∀ parameters, parametersOf catalog rules type = .ok parameters →
      ∀ p ∈ parameters, p.schema.WellFormed :=
  ⟨fun _ => Synthesis.wellFormed_of_schemaOf, fun _ => Synthesis.wellFormed_of_constrained,
    fun _ => wellFormed_of_parametersOf⟩

end RouteDoc.Extraction
