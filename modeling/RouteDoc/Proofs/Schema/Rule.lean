import RouteDoc.Proofs.Outcome
import RouteDoc.Schema.Rule

/-! Rules act on every schema alike: what a chain makes of options, and whether it accepts them, is
decided by the options alone, and all it changes are the four constraints. -/

namespace RouteDoc.Rule

/-- What a rule makes of an option: a change of schemas. -/
def effect (rule : Rule) (option : Text) : Except Failure (Schema → Schema) :=
  match Text.dropStart? rule.mark option with
  | none => .ok id
  | some value =>
    match rule with
    | .length => (exactLength option value).map fun n s => { s with length := some n }
    | .enum => .ok fun s => { s with enum := Text.splitOn ',' value }
    | .maximum => (bound option "max=12".toList value).map fun b s => { s with maximum := some b }
    | .minimum => (bound option "min=1".toList value).map fun b s => { s with minimum := some b }

/-- What the rules of a chain make of options, option by option. -/
def effects (rules : List Rule) (options : List Text) :
    Except Failure (List (List (Schema → Schema))) :=
  options.mapM fun option => rules.mapM fun rule => rule.effect option

/-- A schema after some changes. -/
def change (schema : Schema) (changes : List (Schema → Schema)) : Schema :=
  changes.foldl (fun s f => f s) schema

/-- An option is one of a single rule. -/
theorem dropStart?_mark_of_ne {rule other : Rule} (h : rule ≠ other) (value : Text) :
    Text.dropStart? rule.mark (other.mark ++ value) = none := by
  cases rule <;> cases other <;> first | exact absurd rfl h | rfl

theorem effect_of_ne {rule other : Rule} (h : rule ≠ other) (value : Text) :
    rule.effect (other.mark ++ value) = .ok id := by
  rw [effect, dropStart?_mark_of_ne h]

theorem bound_eq_ok_iff {option form value : Text} {b : Bound} :
    bound option form value = .ok b ↔ ∃ x, Numeral.float? value = some x ∧ b = .real x := by
  unfold bound
  cases Numeral.float? value <;> simp [eq_comm]

theorem bound_eq_error_iff {option form value : Text} {failure : Failure} :
    bound option form value = .error failure ↔
      Numeral.float? value = none ∧ failure = .schema (.constraint option form) := by
  unfold bound
  cases Numeral.float? value <;> simp [eq_comm]

theorem apply_eq_map_effect (rule : Rule) (schema : Schema) (option : Text) :
    rule.apply schema option = (rule.effect option).map fun f => f schema := by
  unfold apply effect
  cases Text.dropStart? rule.mark option with
  | none => rfl
  | some value =>
    dsimp only
    cases rule with
    | length =>
      dsimp only
      cases exactLength option value <;> rfl
    | enum => rfl
    | maximum =>
      dsimp only
      cases bound option "max=12".toList value <;> rfl
    | minimum =>
      dsimp only
      cases bound option "min=1".toList value <;> rfl

theorem applyAll_eq_map_effects (rules : List Rule) (schema : Schema) (options : List Text) :
    applyAll rules schema options =
      (effects rules options).map fun changes => changes.foldl change schema :=
  foldlM_eq_map_mapM
    (fun s option => foldlM_eq_map_mapM (fun s rule => apply_eq_map_effect rule s option) rules s)
    options schema

/-- A chain that accepts options for one schema accepts them for every other. -/
theorem exists_applyAll_of_eq_ok {rules : List Rule} {schema constrained : Schema}
    {options : List Text} (h : applyAll rules schema options = .ok constrained) (other : Schema) :
    ∃ s, applyAll rules other options = .ok s := by
  simp only [applyAll_eq_map_effects, map_eq_ok_iff] at h ⊢
  obtain ⟨changes, hchanges, -⟩ := h
  exact ⟨_, changes, hchanges, rfl⟩

/-- A schema with other constraints: everything but the exact length, the values allowed and the
two bounds is kept. -/
def Constrains (schema constrained : Schema) : Prop :=
  constrained = { schema with
    length := constrained.length
    enum := constrained.enum
    maximum := constrained.maximum
    minimum := constrained.minimum }

theorem Constrains.refl (schema : Schema) : Constrains schema schema := by
  cases schema
  rfl

theorem Constrains.trans {s t u : Schema} (hst : Constrains s t) (htu : Constrains t u) :
    Constrains s u := by
  rw [Constrains] at hst htu ⊢
  rw [hst] at htu
  exact htu

theorem constrains_of_apply {rule : Rule} {schema constrained : Schema} {option : Text}
    (h : rule.apply schema option = .ok constrained) : Constrains schema constrained := by
  rw [apply_eq_map_effect, map_eq_ok_iff] at h
  obtain ⟨f, hf, rfl⟩ := h
  unfold effect at hf
  split at hf
  · cases hf
    exact .refl schema
  · cases rule with
    | enum =>
      cases hf
      rfl
    | length | maximum | minimum =>
      obtain ⟨value, -, rfl⟩ := map_eq_ok_iff.mp hf
      rfl

theorem constrains_of_applyAll {rules : List Rule} {schema constrained : Schema}
    {options : List Text} (h : applyAll rules schema options = .ok constrained) :
    Constrains schema constrained := by
  refine foldlM_invariant (fun s option t _ hs ht => ?_) (.refl schema) h
  exact foldlM_invariant (fun s rule t _ hs ht => hs.trans (constrains_of_apply ht)) hs ht

end RouteDoc.Rule
