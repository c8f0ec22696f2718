import Mathlib.Data.Prod.Lex
import Mathlib.Logic.Relation
import RouteDoc.Proofs.Conclusion
import RouteDoc.Proofs.Parameter.Descent

/-! The calls that the reading of a type makes. Each is made for a form while some models are open;
a model is opened once along every chain of calls, and what is left to do becomes less with every
call, so that every reading comes to an end. -/

namespace RouteDoc

open Relation

/-- The number of parts of a form: sequences, and what their items are. -/
def Descriptor.size : Descriptor → Nat
  | .sequence element => element.size + 1
  | _ => 1

/-- The names of the models of a catalog, that of the empty base among them. -/
def Catalog.names (catalog : Catalog) : List Text :=
  ClassName.baseModel.path.1.toList :: catalog.map Model.name

theorem Catalog.length_names (catalog : Catalog) :
    catalog.names.length = Synthesis.modelCount catalog := by
  simp [names, Synthesis.modelCount]

/-- What a form is read for. -/
inductive Purpose where
  | parameters
  | schema
  deriving DecidableEq

/-- Parameters lead to schemas, and schemas to nothing else. -/
def Purpose.rank : Purpose → Nat
  | .parameters => 1
  | .schema => 0

/-- A call: a form is read while some models are open. -/
structure Call where
  purpose : Purpose
  opened : List Text
  form : Descriptor

namespace Call

open Descent

/-- The model that a call opens. -/
def opens? (call : Call) : Option Text :=
  match call.form with
  | .composite name => if call.opened.contains name then none else some name
  | _ => none

/-- The models that the calls for a purpose open, in order. -/
def opensAll (purpose : Purpose) (calls : List Call) : List Text :=
  (calls.filter (·.purpose = purpose)).filterMap opens?

/-- What a call has left to do: the number of models that are not open, and the size of its form. -/
def measure (catalog : Catalog) (call : Call) : Nat × Nat :=
  (unopened catalog.names call.opened, call.form.size)

variable (catalog : Catalog)

/-- A call makes another one. The schema of a sequence takes that of its items, the schema of a
model those of its fields with a name or an embedding, and the parameters of a model those of the
models it embeds and the schemas of its bound fields, for which no model is open. -/
inductive Makes : Call → Call → Prop
  | items {opened : List Text} {element : Descriptor} :
    Makes ⟨.schema, opened, .sequence element⟩ ⟨.schema, opened, element⟩
  | field {opened : List Text} {name : Text} {fields : List Field} {field : Field}
    {tags : FieldTags} : name ∉ opened → catalog.fields name = .ok fields → field ∈ fields →
    FieldTags.ofField field = .ok tags →
    tags.has Tag.Key.embed = true ∨ tags.has Tag.Key.json = true →
    Makes ⟨.schema, opened, .composite name⟩
      ⟨.schema, name :: opened, field.type.describe catalog⟩
  | embedded {opened : List Text} {name child : Text} {fields : List Field} {field : Field}
    {tags : FieldTags} : name ∉ opened → catalog.fields name = .ok fields → field ∈ fields →
    FieldTags.ofField field = .ok tags → tags.has Tag.Key.embed = true →
    field.type.describe catalog = .composite child →
    Makes ⟨.parameters, opened, .composite name⟩ ⟨.parameters, name :: opened, .composite child⟩
  | bound {opened : List Text} {name : Text} {fields : List Field} {field : Field}
    {tags : FieldTags} : name ∉ opened → catalog.fields name = .ok fields → field ∈ fields →
    FieldTags.ofField field = .ok tags → tags.binding?.isSome = true →
    Makes ⟨.parameters, opened, .composite name⟩ ⟨.schema, [], field.type.describe catalog⟩

/-- The reading of a model asks for another: calls that it makes, directly or through others, come
to the other with one more model open. -/
def Asks (purpose : Purpose) (opened : List Text) (name child : Text) : Prop :=
  TransGen (Makes catalog) ⟨purpose, opened, .composite name⟩
    ⟨purpose, name :: opened, .composite child⟩

variable {catalog} {call next : Call}

theorem opens?_composite {purpose : Purpose} {opened : List Text} {name : Text}
    (h : name ∉ opened) : (Call.mk purpose opened (.composite name)).opens? = some name := by
  simp only [opens?, List.contains_iff_mem, h, if_false]

theorem nodup_opens? (call : Call) : call.opens?.toList.Nodup := by
  cases call.opens? <;> simp

/-- A call opens no model that is open already. -/
theorem not_mem_opened {name : Text} (h : name ∈ call.opens?.toList) : name ∉ call.opened := by
  rw [Option.mem_toList] at h
  unfold opens? at h
  split at h
  · split at h
    · cases h
    · next hfresh =>
      cases h
      exact fun hmem => hfresh (List.contains_iff_mem.mpr hmem)
  · cases h

namespace Makes

/-- A call goes on with the purpose of the one that makes it and opens the model that this opens, or
it reads a schema for parameters and starts with no model open. -/
theorem purpose_eq (h : Makes catalog call next) :
    next.purpose = call.purpose ∧ next.opened = call.opens?.toList ++ call.opened ∨
      call.purpose = .parameters ∧ next.purpose = .schema ∧ next.opened = [] := by
  cases h with
  | items => exact .inl ⟨rfl, rfl⟩
  | field hfresh | embedded hfresh => exact .inl ⟨rfl, by rw [opens?_composite hfresh]; rfl⟩
  | bound => exact .inr ⟨rfl, rfl, rfl⟩

theorem purpose_of_schema (h : Makes catalog call next) (hschema : call.purpose = .schema) :
    next.purpose = .schema := by
  rcases h.purpose_eq with ⟨hpurpose, -⟩ | ⟨hparameters, -⟩
  · exact hpurpose.trans hschema
  · exact nomatch hparameters.symm.trans hschema

/-- Only a model that is declared makes further calls. -/
theorem mem_names (h : Makes catalog call next) {name : Text} (hname : call.opens? = some name) :
    name ∈ catalog.map Model.name := by
  cases h with
  | items => cases hname
  | field hfresh hfields hmem | embedded hfresh hfields hmem | bound hfresh hfields hmem =>
    rw [opens?_composite hfresh] at hname
    cases hname
    exact Catalog.mem_names_of_field hfields hmem

theorem measure_lt (h : Makes catalog call next) (same : next.purpose = call.purpose) :
    Prod.Lex (· < ·) (· < ·) (next.measure catalog) (call.measure catalog) := by
  cases h with
  | items => exact .right _ (Nat.lt_succ_self _)
  | field hfresh hfields hmem | embedded hfresh hfields hmem =>
    refine .left _ _ (unopened_cons_right_lt (List.mem_cons_of_mem _ ?_) hfresh)
    exact Catalog.mem_names_of_field hfields hmem
  | bound => cases same

end Makes

/-! ### Chains of calls -/

theorem opensAll_cons (purpose : Purpose) (call : Call) (calls : List Call) :
    opensAll purpose (call :: calls) =
      (if call.purpose = purpose then call.opens?.toList else []) ++ opensAll purpose calls := by
  by_cases h : call.purpose = purpose
  · cases hopens : call.opens? <;> simp [opensAll, h, hopens]
  · simp [opensAll, h]

/-- Calls for a schema make none for parameters. -/
theorem opensAll_parameters {calls : List Call} (chain : (call :: calls).IsChain (Makes catalog))
    (h : call.purpose = .schema) : opensAll .parameters (call :: calls) = [] := by
  induction calls generalizing call with
  | nil => simp [opensAll, h]
  | cons next calls ih =>
    obtain ⟨hmakes, hrest⟩ := List.isChain_cons_cons.mp chain
    rw [opensAll_cons, ih hrest (hmakes.purpose_of_schema h), h]
    rfl

/-- No model is opened twice along a chain of calls, and none that is open at its start. -/
theorem nodup_opensAll {calls : List Call} (chain : (call :: calls).IsChain (Makes catalog))
    (purpose : Purpose) : (opensAll purpose (call :: calls)).Nodup ∧
      (call.purpose = purpose →
        ∀ name ∈ opensAll purpose (call :: calls), name ∉ call.opened) := by
  induction calls generalizing call with
  | nil =>
    rw [opensAll_cons, opensAll, List.filter_nil, List.filterMap_nil, List.append_nil]
    split
    · exact ⟨nodup_opens? call, fun _ _ => not_mem_opened⟩
    · exact ⟨List.nodup_nil, fun _ _ hname => nomatch hname⟩
  | cons next calls ih =>
    obtain ⟨hmakes, hrest⟩ := List.isChain_cons_cons.mp chain
    obtain ⟨hnodup, hfresh⟩ := ih hrest
    rw [opensAll_cons]
    by_cases hpurpose : call.purpose = purpose
    · rw [if_pos hpurpose]
      rcases hmakes.purpose_eq with ⟨hsame, hopened⟩ | ⟨hparameters, hschema, -⟩
      · -- What is opened later is not open in the next call, where the model opened here is.
        have hfresh := hfresh (hsame.trans hpurpose)
        simp only [hopened, List.mem_append, not_or] at hfresh
        refine ⟨List.nodup_append.mpr ⟨nodup_opens? call, hnodup, ?_⟩, fun _ name hname => ?_⟩
        · rintro name hname _ hlater rfl
          exact (hfresh name hlater).1 hname
        · rcases List.mem_append.mp hname with h | h
          · exact not_mem_opened h
          · exact (hfresh name h).2
      · rw [← hpurpose, hparameters, opensAll_parameters hrest hschema, List.append_nil]
        exact ⟨nodup_opens? call, fun _ _ => not_mem_opened⟩
    · rw [if_neg hpurpose]
      exact ⟨hnodup, fun h => absurd h hpurpose⟩

/-- All the models opened along a chain of calls are declared, but for the last one. -/
theorem exists_opensAll_eq {calls : List Call} (chain : (call :: calls).IsChain (Makes catalog))
    (purpose : Purpose) : ∃ declared last, opensAll purpose (call :: calls) = declared ++ last ∧
      declared ⊆ catalog.map Model.name ∧ last.length ≤ 1 := by
  induction calls generalizing call with
  | nil =>
    refine ⟨[], _, opensAll_cons purpose call [], List.nil_subset _, ?_⟩
    split <;> cases call.opens? <;> simp [opensAll]
  | cons next calls ih =>
    obtain ⟨hmakes, hrest⟩ := List.isChain_cons_cons.mp chain
    obtain ⟨declared, last, heq, hdeclared, hlast⟩ := ih hrest
    refine ⟨(if call.purpose = purpose then call.opens?.toList else []) ++ declared, last, ?_,
      List.append_subset.mpr ⟨?_, hdeclared⟩, hlast⟩
    · rw [opensAll_cons, heq, List.append_assoc]
    · split
      · exact fun name hname => hmakes.mem_names (Option.mem_toList.mp hname)
      · exact List.nil_subset _

theorem length_opensAll_le {calls : List Call} (chain : (call :: calls).IsChain (Makes catalog))
    (purpose : Purpose) :
    (opensAll purpose (call :: calls)).length ≤ Synthesis.modelCount catalog := by
  have hnodup := (nodup_opensAll chain purpose).1
  obtain ⟨declared, last, heq, hdeclared, hlast⟩ := exists_opensAll_eq chain purpose
  rw [heq] at hnodup ⊢
  have hle := (List.nodup_append.mp hnodup).1.length_le_of_subset hdeclared
  rw [List.length_map] at hle
  rw [List.length_append, Synthesis.modelCount]
  omega

theorem purpose_of_transGen (h : TransGen (Makes catalog) call next)
    (hschema : call.purpose = .schema) : next.purpose = .schema := by
  induction h with
  | single h => exact h.purpose_of_schema hschema
  | tail _ h ih => exact h.purpose_of_schema ih

/-- What is left to do becomes less with every call, made directly or through others. -/
theorem measure_lt_of_transGen (h : TransGen (Makes catalog) call next)
    (same : next.purpose = call.purpose) :
    Prod.Lex (· < ·) (· < ·) (next.measure catalog) (call.measure catalog) := by
  induction h with
  | single h => exact h.measure_lt same
  | tail hbefore h ih =>
    rcases h.purpose_eq with ⟨hpurpose, -⟩ | ⟨hparameters, hschema, -⟩
    · exact Prod.Lex.trans (h.measure_lt hpurpose) (ih (hpurpose.symm.trans same))
    · -- Calls for a schema lead to none for parameters, so the first call was for these.
      have hcall := purpose_of_transGen hbefore (same.symm.trans hschema)
      exact nomatch hcall.symm.trans hparameters

/-- No chain of calls goes on forever. -/
theorem wellFounded_makes : WellFounded fun next call => Makes catalog call next := by
  have hmeasure : WellFounded (Prod.Lex (· < · : Nat → Nat → Prop) (· < · : Nat → Nat → Prop)) :=
    wellFounded_lt.prod_lex wellFounded_lt
  refine Subrelation.wf (fun {next call} h => ?_) (InvImage.wf
    (fun call : Call => (call.purpose.rank, call.measure catalog))
    (wellFounded_lt.prod_lex hmeasure))
  rcases h.purpose_eq with ⟨hpurpose, -⟩ | ⟨hparameters, hschema, -⟩
  · simp only [InvImage, hpurpose]
    exact .right _ (h.measure_lt hpurpose)
  · simp only [InvImage, hparameters, hschema]
    exact .left _ _ Nat.zero_lt_one

/-! ### What the reading of a model asks for -/

theorem makes_items {opened : List Text} {form : Descriptor} {child : Text}
    (h : form.model? = some child) :
    ReflTransGen (Makes catalog) ⟨.schema, opened, form⟩
      ⟨.schema, opened, .composite child⟩ := by
  induction form with
  | primitive | mapping | unclassified => cases h
  | composite name =>
    cases h
    exact .refl
  | sequence element ih => exact .head .items (ih h)

variable {opened : List Text} {name child : Text} {fields : List Field} {field : Field}
  {tags : FieldTags}

theorem asks_of_field (hfresh : name ∉ opened) (hfields : catalog.fields name = .ok fields)
    (hmem : field ∈ fields) (htags : FieldTags.ofField field = .ok tags)
    (hkeys : tags.has Tag.Key.embed = true ∨ tags.has Tag.Key.json = true)
    (hmodel : (field.type.describe catalog).model? = some child) :
    Asks catalog .schema opened name child :=
  .head' (.field hfresh hfields hmem htags hkeys) (makes_items hmodel)

theorem asks_of_embedded (hfresh : name ∉ opened) (hfields : catalog.fields name = .ok fields)
    (hmem : field ∈ fields) (htags : FieldTags.ofField field = .ok tags)
    (hembedded : Extraction.embedded? catalog field tags = some child) :
    Asks catalog .parameters opened name child := by
  obtain ⟨hembed, hform⟩ := Extraction.embedded?_eq_some_iff.mp hembedded
  exact .single (.embedded hfresh hfields hmem htags hembed hform)

/-- Only the models of the catalog ask for others. -/
theorem Asks.mem_names {purpose : Purpose} (h : Asks catalog purpose opened name child) :
    name ∈ catalog.names := by
  obtain ⟨next, h, -⟩ := TransGen.head'_iff.mp h
  refine List.mem_cons_of_mem _ (h.mem_names ?_)
  cases h with
  | field hfresh | embedded hfresh | bound hfresh => exact opens?_composite hfresh

end Call

end RouteDoc
