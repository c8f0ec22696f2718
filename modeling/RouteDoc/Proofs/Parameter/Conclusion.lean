import RouteDoc.Proofs.Parameter.Call
import RouteDoc.Proofs.Schema.Recursion

/-! Every reading comes to an end: the schemas and the parameters of models are the only outcomes of
readings that nothing bounds, and those of a type are made of them. -/

namespace RouteDoc

open Descent Relation

namespace Synthesis

variable (catalog : Catalog) (rules : List Rule)

/-- A type comes to an outcome: that which its form makes of the outcomes to which the models in it
come with none open. -/
def ComesTo (type : TypeExpr) (x : Except Failure Schema) : Prop :=
  ∃ model, (∀ name, (type.describe catalog).model? = some name → Concludes refusal
    (modelBody catalog rules) (Call.Asks catalog .schema) [] name (model name)) ∧
    (type.describe catalog).schema model = x

variable {catalog rules}

theorem localized :
    Local (modelBody catalog rules) (Call.Asks catalog .schema) catalog.names where
  known _ _ _ h := h.mem_names
  congr f g opened name hfresh h := by
    refine Catalog.gather_congr fun fields hfields field hmem => share_congr ?_
    intro tags child htags hkeys hmodel
    exact h child (Call.asks_of_field hfresh hfields hmem htags hkeys hmodel)

theorem enough_unopened : unopened catalog.names [] < modelCount catalog + 1 := by
  rw [unopened_nil, catalog.length_names]
  exact Nat.lt_succ_self _

theorem concludes_schemaOfModel (name : Text) : Concludes refusal (modelBody catalog rules)
    (Call.Asks catalog .schema) [] name (schemaOfModel catalog rules name) := by
  rw [schemaOfModel_eq_run]
  exact localized.concludes_run enough_unopened name

theorem eq_schemaOfModel {name : Text} {x : Except Failure Schema}
    (h : Concludes refusal (modelBody catalog rules) (Call.Asks catalog .schema) [] name x) :
    x = schemaOfModel catalog rules name := by
  rw [schemaOfModel_eq_run]
  exact localized.eq_run_of_concludes h enough_unopened

theorem comesTo_iff {type : TypeExpr} {x : Except Failure Schema} :
    ComesTo catalog rules type x ↔ schemaOf catalog rules type = x := by
  constructor
  · rintro ⟨model, hmodel, rfl⟩
    exact Descriptor.schema_congr fun name hname => (eq_schemaOfModel (hmodel name hname)).symm
  · rintro rfl
    exact ⟨_, fun name _ => concludes_schemaOfModel name, rfl⟩

end Synthesis

namespace Extraction

variable (catalog : Catalog) (rules : List Rule)

/-- A request comes to an outcome: no parameters without a model, those to which its model comes
with none open, or the fault of a type that is no model. -/
inductive ComesTo : TypeExpr → Except Failure (List Parameter) → Prop
  | nothing {type : TypeExpr} : type.isNothing = true → ComesTo type (.ok [])
  | model {type : TypeExpr} {name : Text} {x : Except Failure (List Parameter)} :
    type.isNothing = false → type.describe catalog = .composite name →
    Concludes refusal (modelBody catalog rules) (Call.Asks catalog .parameters) [] name x →
    ComesTo type x
  | notModel {type : TypeExpr} : type.isNothing = false →
    (∀ name, type.describe catalog ≠ .composite name) →
    ComesTo type (.error (.schema (.notModel type.shown)))

variable {catalog rules}

theorem localized :
    Local (modelBody catalog rules) (Call.Asks catalog .parameters) catalog.names where
  known _ _ _ h := h.mem_names
  congr f g opened name hfresh h := by
    refine Catalog.gather_congr fun fields hfields field hmem => ofField_congr ?_
    intro tags child htags hembedded
    exact h child (Call.asks_of_embedded hfresh hfields hmem htags hembedded)

theorem concludes_parametersOfModel (name : Text) : Concludes refusal (modelBody catalog rules)
    (Call.Asks catalog .parameters) [] name (parametersOfModel catalog rules name) := by
  rw [parametersOfModel_eq_run]
  exact localized.concludes_run Synthesis.enough_unopened name

theorem eq_parametersOfModel {name : Text} {x : Except Failure (List Parameter)}
    (h : Concludes refusal (modelBody catalog rules) (Call.Asks catalog .parameters) [] name x) :
    x = parametersOfModel catalog rules name := by
  rw [parametersOfModel_eq_run]
  exact localized.eq_run_of_concludes h Synthesis.enough_unopened

theorem comesTo_parametersOf (type : TypeExpr) :
    ComesTo catalog rules type (parametersOf catalog rules type) := by
  rw [parametersOf_eq]
  split
  · next h => exact .nothing h
  · next h =>
    rw [Bool.not_eq_true] at h
    split
    · next name hform => exact .model h hform (concludes_parametersOfModel name)
    · next hform => exact .notModel h hform

theorem comesTo_iff {type : TypeExpr} {x : Except Failure (List Parameter)} :
    ComesTo catalog rules type x ↔ parametersOf catalog rules type = x := by
  constructor
  · intro h
    rw [parametersOf_eq]
    cases h with
    | nothing h => rw [if_pos h]
    | model h hform hconcludes =>
      rw [h, hform]
      exact (eq_parametersOfModel hconcludes).symm
    | notModel h hform =>
      rw [h]
      cases hdescribe : type.describe catalog with
      | composite name => exact absurd hdescribe (hform name)
      | _ => rfl
  · rintro rfl
    exact comesTo_parametersOf type

end Extraction

namespace Call

/-- Every reading comes to an end. Along a chain of calls no model is opened twice for one purpose,
so that no more are open than there are; what is left to do becomes less with every call for the
same purpose; no chain goes on forever. So each model comes to one outcome, whatever is open, and
so does each type: the schema and the parameters that are found for it. -/
theorem reading_ends (catalog : Catalog) (rules : List Rule) :
    (∀ calls, calls.IsChain (Makes catalog) → ∀ purpose, (opensAll purpose calls).Nodup ∧
      (opensAll purpose calls).length ≤ Synthesis.modelCount catalog) ∧
    (∀ call nested, TransGen (Makes catalog) call nested → nested.purpose = call.purpose →
      Prod.Lex (· < ·) (· < ·) (nested.measure catalog) (call.measure catalog)) ∧
    (WellFounded fun nested call => Makes catalog call nested) ∧
    (∀ opened name, ∃! x, Concludes Synthesis.refusal (Synthesis.modelBody catalog rules)
      (Asks catalog .schema) opened name x) ∧
    (∀ opened name, ∃! x, Concludes Extraction.refusal (Extraction.modelBody catalog rules)
      (Asks catalog .parameters) opened name x) ∧
    (∀ type x, Synthesis.ComesTo catalog rules type x ↔
      Synthesis.schemaOf catalog rules type = x) ∧
    (∀ type x, Extraction.ComesTo catalog rules type x ↔
      Extraction.parametersOf catalog rules type = x) := by
  refine ⟨fun calls chain purpose => ?_, fun _ _ => measure_lt_of_transGen, wellFounded_makes,
    Synthesis.localized.existsUnique, Extraction.localized.existsUnique,
    fun _ _ => Synthesis.comesTo_iff, fun _ _ => Extraction.comesTo_iff⟩
  cases calls with
  | nil => exact ⟨List.nodup_nil, Nat.zero_le _⟩
  | cons call calls =>
    exact ⟨(nodup_opensAll chain purpose).1, length_opensAll_le chain purpose⟩

/-- The calls for a folder: for its model, for the tuple that this holds, and for the items of the
tuple, whose model is open. -/
def folderCalls : List Call := [
  ⟨.schema, [], .composite "Folder".toList⟩,
  ⟨.schema, ["Folder".toList], .sequence (.composite "Folder".toList)⟩,
  ⟨.schema, ["Folder".toList], .composite "Folder".toList⟩]

theorem isChain_folderCalls : folderCalls.IsChain (Makes Synthesis.folders) := by
  refine .cons_cons ?_ (.cons_cons .items (.singleton _))
  exact @Makes.field Synthesis.folders [] _ _
    ⟨"inner".toList, .tupleOf (.ref "Folder".toList), "json:\"inner\"".toList⟩ _
    List.not_mem_nil rfl (List.mem_singleton_self _) rfl (.inr rfl)

theorem reading_folder_ends :
    opensAll .schema folderCalls = ["Folder".toList] ∧
    (opensAll .schema folderCalls).length ≤ Synthesis.modelCount Synthesis.folders ∧
    Synthesis.ComesTo Synthesis.folders Rule.standard (.ref "Folder".toList)
      (.error (.schema (.recursiveModel "Folder".toList))) := by
  obtain ⟨hopens, -, -, -, -, hcomes, -⟩ := reading_ends Synthesis.folders Rule.standard
  exact ⟨rfl, (hopens _ isChain_folderCalls .schema).2, (hcomes _ _).mpr rfl⟩

end Call

end RouteDoc
