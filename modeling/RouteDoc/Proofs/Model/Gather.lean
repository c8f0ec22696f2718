import RouteDoc.Model.Catalog
import RouteDoc.Proofs.Descent

/-! Gathering: each field of a model is read, and the parts are joined. A descent whose single steps
gather is lawful when the reading of a field is. -/

namespace RouteDoc.Catalog

variable {α β : Type}

/-- What a model gives when `each` reads its fields and `join` puts the parts together. -/
def gather (catalog : Catalog) (each : Field → Except Failure β) (join : List β → α)
    (name : Text) : Except Failure α :=
  match catalog.fields name with
  | .error fault => .error (.schema fault)
  | .ok fields => (fields.mapM each).map join

variable {catalog : Catalog} {each : Field → Except Failure β} {join : List β → α} {name : Text}

theorem gather_eq_ok_iff {a : α} :
    catalog.gather each join name = .ok a ↔
      ∃ fields parts, catalog.fields name = .ok fields ∧
        List.Forall₂ (fun field part => each field = .ok part) fields parts ∧ join parts = a := by
  rw [gather]
  cases catalog.fields name with
  | error fault => simp
  | ok fields =>
    simp only [map_eq_ok_iff, mapM_eq_ok_iff, Except.ok.injEq]
    constructor
    · rintro ⟨parts, hparts, hjoin⟩
      exact ⟨fields, parts, rfl, hparts, hjoin⟩
    · rintro ⟨_, parts, rfl, hparts, hjoin⟩
      exact ⟨parts, hparts, hjoin⟩

theorem exists_gather_eq_ok_iff :
    (∃ a, catalog.gather each join name = .ok a) ↔
      ∃ fields, catalog.fields name = .ok fields ∧
        ∀ field ∈ fields, ∃ part, each field = .ok part := by
  simp only [gather_eq_ok_iff, ← exists_forall₂_iff]
  constructor
  · rintro ⟨_, fields, parts, hfields, hparts, -⟩
    exact ⟨fields, hfields, parts, hparts⟩
  · rintro ⟨fields, hfields, parts, hparts⟩
    exact ⟨_, fields, parts, hfields, hparts, rfl⟩

/-- Gathering fails with the fields of the model, or with the first field that fails. -/
theorem gather_eq_error_iff {failure : Failure} :
    catalog.gather each join name = .error failure ↔
      (∃ fault, catalog.fields name = .error fault ∧ failure = .schema fault) ∨
      ∃ before field after, catalog.fields name = .ok (before ++ field :: after) ∧
        (∀ f ∈ before, ∃ part, each f = .ok part) ∧ each field = .error failure := by
  rw [gather]
  cases catalog.fields name with
  | error fault => simp [eq_comm]
  | ok fields =>
    simp only [map_eq_error_iff, mapM_eq_error_iff, Except.ok.injEq, reduceCtorEq, false_and,
      exists_false, false_or]

/-- An overlong number is in the first field that fails. -/
theorem gather_eq_oversized_iff {digits : Nat} :
    catalog.gather each join name = .error (.oversized digits) ↔
      ∃ before field after, catalog.fields name = .ok (before ++ field :: after) ∧
        (∀ f ∈ before, ∃ part, each f = .ok part) ∧ each field = .error (.oversized digits) := by
  rw [gather_eq_error_iff]
  simp only [reduceCtorEq, and_false, exists_false, false_or]

/-- Where the fields are known, gathering fails with one of them only. -/
theorem exists_field_of_gather_eq_error {fields : List Field} {failure : Failure}
    (hfields : catalog.fields name = .ok fields)
    (h : catalog.gather each join name = .error failure) :
    ∃ field ∈ fields, each field = .error failure := by
  rcases gather_eq_error_iff.mp h with
    ⟨fault, hfault, -⟩ | ⟨before, field, after, hsplit, -, herror⟩
  · exact nomatch hfields.symm.trans hfault
  · obtain rfl : fields = _ := Except.ok.inj (hfields.symm.trans hsplit)
    exact ⟨field, by simp, herror⟩

theorem gather_congr {other : Field → Except Failure β}
    (h : ∀ fields, catalog.fields name = .ok fields → ∀ field ∈ fields, each field = other field) :
    catalog.gather each join name = catalog.gather other join name := by
  unfold gather
  cases hfields : catalog.fields name with
  | error fault => rfl
  | ok fields =>
    have hsame : List.Forall₂ (fun a b => each a = other b) fields fields :=
      List.forall₂_same.mpr (h fields hfields)
    dsimp only
    rw [mapM_congr_forall₂ (fun _ _ heq => heq) hsame]

theorem gather_follows {γ δ : Type} {view : β → γ} {view' : α → δ}
    {other : Field → Except Failure β} (h : ∀ field, Follows view (each field) (other field))
    (hjoin : ∀ parts more, more.map view = parts.map view →
      view' (join more) = view' (join parts)) :
    Follows view' (catalog.gather each join name) (catalog.gather other join name) := by
  unfold gather
  split
  · exact .refl view' _
  · exact (Follows.mapM fun field _ => h field).map hjoin

/-- The only models of whose fields something is read are those of the catalog. -/
theorem fields_of_not_mem (h : name ∉ catalog.map Model.name) : catalog.fields name = .ok [] := by
  have hfind : catalog.find? name = none := by
    refine List.find?_eq_none.mpr fun model hm => ?_
    simp only [decide_eq_true_eq]
    rintro rfl
    exact h (List.mem_map_of_mem hm)
  rw [fields, hfind]

theorem mem_names_of_field {fields : List Field} {field : Field}
    (hfields : catalog.fields name = .ok fields) (hmem : field ∈ fields) :
    name ∈ catalog.map Model.name := by
  by_contra hnone
  rw [fields_of_not_mem hnone] at hfields
  cases hfields
  exact nomatch hmem

/-- The fields of a model are those that it is declared with, and without a declaration none. -/
theorem fields_eq_ok {fields : List Field} (h : catalog.fields name = .ok fields) :
    fields = [] ∨ ∃ model ∈ catalog, fields = model.fields := by
  unfold Catalog.fields at h
  split at h
  · exact .inl (Except.ok.inj h).symm
  · next model hmodel =>
    split at h
    · exact nomatch h
    · exact .inr ⟨model, List.mem_of_find?_eq_some hmodel, (Except.ok.inj h).symm⟩

open Descent

theorem gather_lawful {refuse : Text → Failure}
    {each : (Text → Except Failure α) → Text → Field → Except Failure β} {join : List β → α}
    (mono : ∀ f g, (∀ n, Below refuse (f n) (g n)) → ∀ owner field,
      Below refuse (each f owner field) (each g owner field)) :
    Lawful refuse (fun model name => catalog.gather (each model name) join name)
      (catalog.map Model.name) where
  mono f g name h := by
    unfold gather
    split
    · exact .refl _
    · exact (Below.mapM fun field _ => mono f g h name field).map join
  leaf f g name h := by
    unfold gather
    rw [fields_of_not_mem h]
    rfl

end RouteDoc.Catalog
