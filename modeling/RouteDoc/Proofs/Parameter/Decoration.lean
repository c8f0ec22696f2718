import RouteDoc.Proofs.Parameter.Agreement
import RouteDoc.Proofs.Schema.Decoration

/-! Parameters under different chains of rules: a chain decides only which options are accepted and
which constraints stand in the schemas of parameters. -/

namespace RouteDoc

/-- A parameter with its schema undecorated. -/
def Parameter.undecorated (p : Parameter) : Parameter := { p with schema := p.schema.undecorated }

namespace Extraction

open Descent Synthesis

variable {catalog : Catalog} {rules others : List Rule}

section

variable (sub : ∀ rule ∈ others, rule ∈ rules)
include sub

theorem parameter_follows (field : Field) (tags : FieldTags) (location : Location) (name : Text) :
    Follows Parameter.undecorated (parameter catalog rules field tags location name)
      (parameter catalog others field tags location name) := by
  rw [parameter_eq, parameter_eq]
  refine (constrained_follows sub field.type tags.constraints).map fun s t hst => ?_
  simp only [annotated, Parameter.undecorated, Schema.undecorated_annotate, hst]

theorem bound_follows (field : Field) (tags : FieldTags) :
    Follows (List.map Parameter.undecorated) (bound catalog rules field tags)
      (bound catalog others field tags) := by
  unfold bound
  split
  · exact .refl _ _
  · refine (parameter_follows sub field tags _ _).bind fun p q hpq => ?_
    rintro _ ⟨⟩
    exact ⟨_, rfl, by rw [List.map_singleton, List.map_singleton, hpq]⟩

theorem ofField_follows {f g : Text → Except Failure (List Parameter)}
    (h : ∀ n, Follows (List.map Parameter.undecorated) (f n) (g n)) (field : Field) :
    Follows (List.map Parameter.undecorated) (ofField catalog rules f field)
      (ofField catalog others g field) := by
  rw [ofField_eq, ofField_eq]
  refine Follows.bind (.refl id _) fun tags same htags => ?_
  obtain rfl : same = tags := htags
  have hembedded : Follows (List.map Parameter.undecorated) (embeddedOf catalog f field same)
      (embeddedOf catalog g field same) := by
    unfold embeddedOf
    cases embedded? catalog field same with
    | none => exact .refl _ _
    | some name => exact h name
  refine hembedded.bind fun ps qs hpq => (bound_follows sub field same).bind fun own own' hown => ?_
  rintro _ ⟨⟩
  exact ⟨_, rfl, by rw [List.map_append, List.map_append, hpq, hown]⟩

theorem modelBody_follows (f g : Text → Except Failure (List Parameter))
    (h : ∀ n, Follows (List.map Parameter.undecorated) (f n) (g n)) (name : Text) :
    Follows (List.map Parameter.undecorated) (modelBody catalog rules f name)
      (modelBody catalog others g name) := by
  refine Catalog.gather_follows (fun field => ofField_follows sub h field) fun ps qs hpq => ?_
  rw [List.map_flatten, List.map_flatten, hpq]

theorem parametersOfModel_follows (name : Text) :
    Follows (List.map Parameter.undecorated) (parametersOfModel catalog rules name)
      (parametersOfModel catalog others name) := by
  rw [parametersOfModel_eq_run, parametersOfModel_eq_run]
  exact run_follows (modelBody_follows sub) _ _ name

theorem parametersOf_follows (type : TypeExpr) :
    Follows (List.map Parameter.undecorated) (parametersOf catalog rules type)
      (parametersOf catalog others type) := by
  rw [parametersOf_eq, parametersOf_eq]
  split
  · exact .refl _ _
  · split
    · exact parametersOfModel_follows sub _
    · exact .refl _ _

end

/-- Rules only decorate. A type that has a schema or parameters under a chain of rules has them
under every chain of some of these rules; and under any two chains with which it has them, they
differ at most in the exact lengths, the values allowed and the bounds. -/
theorem rules_only_decorate (catalog : Catalog) (rules others : List Rule) (type : TypeExpr) :
    ((∀ rule ∈ others, rule ∈ rules) →
      ((∃ schema, schemaOf catalog rules type = .ok schema) →
        ∃ schema, schemaOf catalog others type = .ok schema) ∧
      ((∃ parameters, parametersOf catalog rules type = .ok parameters) →
        ∃ parameters, parametersOf catalog others type = .ok parameters)) ∧
    (∀ schema other, schemaOf catalog rules type = .ok schema →
      schemaOf catalog others type = .ok other → schema.undecorated = other.undecorated) ∧
    ∀ parameters more, parametersOf catalog rules type = .ok parameters →
      parametersOf catalog others type = .ok more →
        parameters.map Parameter.undecorated = more.map Parameter.undecorated := by
  refine ⟨fun sub => ⟨?_, ?_⟩, fun schema other hschema hother => ?_, fun ps qs hps hqs => ?_⟩
  · rintro ⟨schema, hschema⟩
    obtain ⟨other, hother, -⟩ := schemaOf_follows sub type schema hschema
    exact ⟨other, hother⟩
  · rintro ⟨parameters, hparameters⟩
    obtain ⟨more, hmore, -⟩ := parametersOf_follows sub type parameters hparameters
    exact ⟨more, hmore⟩
  -- Neither chain need be part of the other, but the empty one is part of both.
  · exact (schemaOf_follows (List.forall_mem_nil _) type).view_eq
      (schemaOf_follows (List.forall_mem_nil _) type) hschema hother
  · exact (parametersOf_follows (List.forall_mem_nil _) type).view_eq
      (parametersOf_follows (List.forall_mem_nil _) type) hps hqs

/-- A search whose order has an exact length under the whole chain, and none under one of its
rules. -/
theorem searches_undecorated :
    (∀ rule ∈ [Rule.maximum], rule ∈ Rule.standard) ∧
    ∃ schema other parameters more,
      schemaOf searches Rule.standard (.ref "Search".toList) = .ok schema ∧
      schemaOf searches [.maximum] (.ref "Search".toList) = .ok other ∧
      parametersOf searches Rule.standard (.ref "Search".toList) = .ok parameters ∧
      parametersOf searches [.maximum] (.ref "Search".toList) = .ok more ∧
      parameters.map (·.schema.length) = [none, some 2] ∧
      more.map (·.schema.length) = [none, none] ∧
      schema.undecorated = other.undecorated ∧
      parameters.map Parameter.undecorated = more.map Parameter.undecorated := by
  have sub : ∀ rule ∈ [Rule.maximum], rule ∈ Rule.standard := by decide
  obtain ⟨part, sameSchema, sameParameters⟩ :=
    rules_only_decorate searches Rule.standard [.maximum] (.ref "Search".toList)
  obtain ⟨other, hother⟩ := (part sub).1 ⟨_, rfl⟩
  obtain ⟨more, hmore⟩ := (part sub).2 ⟨_, rfl⟩
  refine ⟨sub, _, other, _, more, rfl, hother, rfl, hmore, rfl, ?_, sameSchema _ _ rfl hother,
    sameParameters _ _ rfl hmore⟩
  cases hmore
  rfl

end Extraction

end RouteDoc
