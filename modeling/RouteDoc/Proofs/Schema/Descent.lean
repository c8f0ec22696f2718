import RouteDoc.Proofs.Model.Gather
import RouteDoc.Proofs.Schema.Field

/-! Synthesis as a descent: the schema of a model is found from those of the models that its fields
refer to, each read on its own. -/

namespace RouteDoc.Synthesis

open Descent

variable (catalog : Catalog) (rules : List Rule)

/-- The refusal of a model that contains itself. -/
def refusal (name : Text) : Failure := .schema (.recursiveModel name)

/-- The schema of a model, where `model` gives the schemas of models: that of the shares of its
fields. -/
def modelBody (model : Text → Except Failure Schema) (name : Text) : Except Failure Schema :=
  catalog.gather (share catalog rules model name) Share.collect name

/-- The schema of a model, with no model open. -/
def schemaOfModel (name : Text) : Except Failure Schema :=
  modelSchema catalog rules (modelCount catalog + 1) [] name

variable {catalog rules}

theorem schemaOf_eq (type : TypeExpr) :
    schemaOf catalog rules type =
      (type.describe catalog).schema (schemaOfModel catalog rules) := rfl

/-- A body without a model is read as any other value that is of no class. -/
theorem bodySchema_eq (type : TypeExpr) :
    bodySchema catalog rules type = schemaOf catalog rules type := by
  cases type <;> rfl

theorem schemaOf_composite {type : TypeExpr} {name : Text}
    (h : type.describe catalog = .composite name) :
    schemaOf catalog rules type = schemaOfModel catalog rules name := by
  rw [schemaOf_eq, h]
  rfl

theorem modelSchema_eq_run (fuel : Nat) (opened : List Text) (name : Text) :
    modelSchema catalog rules fuel opened name =
      run refusal (modelBody catalog rules) fuel opened name := by
  induction fuel generalizing opened name with
  | zero => rfl
  | succ fuel ih =>
    have hmodel : modelSchema catalog rules fuel (name :: opened) =
        run refusal (modelBody catalog rules) fuel (name :: opened) := funext fun n => ih _ n
    simp only [modelSchema, run, hmodel, modelBody, Catalog.gather]
    split
    · rfl
    · cases catalog.fields name with
      | error fault => rfl
      | ok fields => exact foldlM_eq_map_mapM (addField_eq_share catalog rules _ name) fields _

theorem schema_below {f g : Text → Except Failure Schema} (h : ∀ n, Below refusal (f n) (g n))
    (form : Descriptor) : Below refusal (form.schema f) (form.schema g) := by
  induction form with
  | primitive p => exact .refl _
  | composite name => exact h name
  | sequence element ih => exact ih.bind fun schema => .refl _
  | mapping => exact .refl _
  | unclassified => exact .refl _

theorem share_below {f g : Text → Except Failure Schema} (h : ∀ n, Below refusal (f n) (g n))
    (owner : Text) (field : Field) :
    Below refusal (share catalog rules f owner field) (share catalog rules g owner field) := by
  have hform := schema_below h (field.type.describe catalog)
  refine Below.bind (.refl _) fun tags => ?_
  split
  · exact hform.bind fun schema => .refl _
  · split
    · exact .refl _
    · exact hform.bind fun schema => .refl _

theorem lawful : Lawful refusal (modelBody catalog rules) (catalog.map Model.name) :=
  Catalog.gather_lawful fun _ _ h owner field => share_below h owner field

theorem enough_fuel : (catalog.map Model.name).length < modelCount catalog + 1 := by
  rw [List.length_map, modelCount]
  omega

theorem schemaOfModel_eq_run : schemaOfModel catalog rules =
    run refusal (modelBody catalog rules) (modelCount catalog + 1) [] :=
  funext fun n => modelSchema_eq_run _ _ n

/-- Refusals apart, a model has the schema that its fields make when each is read on its own. -/
theorem schemaOfModel_eq_iff {x : Except Failure Schema} (settled : Settled refusal x)
    (name : Text) : schemaOfModel catalog rules name = x ↔
      modelBody catalog rules (schemaOfModel catalog rules) name = x := by
  rw [schemaOfModel_eq_run]
  exact lawful.run_eq_iff_body enough_fuel settled name

theorem schemaOfModel_induction (P : Text → Except Failure Schema → Prop)
    (step : ∀ name x model, (∀ n, Below refusal (model n) (schemaOfModel catalog rules n)) →
      (∀ n y, Settled refusal y → model n = y → P n y) → Settled refusal x →
      modelBody catalog rules model name = x → P name x)
    {name : Text} {x : Except Failure Schema} (settled : Settled refusal x)
    (h : schemaOfModel catalog rules name = x) : P name x := by
  rw [schemaOfModel_eq_run] at step h
  exact lawful.run_induction enough_fuel step settled h

end RouteDoc.Synthesis
