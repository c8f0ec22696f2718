import RouteDoc.Proofs.Schema.Descent
import RouteDoc.Proofs.Schema.Rule

/-! Overruns: the only failure of a model that is not a fault of its author is an exact length with
too many digits, met before any fault in the order in which fields are read. -/

namespace RouteDoc

theorem FieldTags.ofField_ne_oversized {field : Field} {digits : Nat} :
    FieldTags.ofField field ≠ .error (.oversized digits) := by
  unfold FieldTags.ofField
  split <;> simp

namespace Rule

/-- Every rule of a chain can read an option. -/
def Accepts (rules : List Rule) (option : Text) : Prop :=
  ∀ rule ∈ rules, ∃ change, rule.effect option = .ok change

/-- An option is an exact length with more digits than are read. -/
def IsOverlong (option : Text) (digits : Nat) : Prop :=
  ∃ value negative ds, option = Rule.length.mark ++ value ∧
    Numeral.integer? value = some (negative, ds) ∧ ds.length = digits ∧ Failure.digitLimit < digits

/-- A chain with the rule for exact lengths meets an overlong one, after options that it accepts. -/
def Overruns (rules : List Rule) (options : List Text) (digits : Nat) : Prop :=
  .length ∈ rules ∧ ∃ before option after, options = before ++ option :: after ∧
    (∀ o ∈ before, Accepts rules o) ∧ IsOverlong option digits

theorem exactLength_eq_oversized_iff {option value : Text} {digits : Nat} :
    exactLength option value = .error (.oversized digits) ↔ ∃ negative ds,
      Numeral.integer? value = some (negative, ds) ∧ ds.length = digits ∧
        Failure.digitLimit < digits := by
  unfold exactLength
  cases Numeral.integer? value with
  | none => simp
  | some signed =>
    obtain ⟨negative, ds⟩ := signed
    by_cases h : Failure.digitLimit < ds.length
    · simp only [h, if_true, Except.error.injEq, Failure.oversized.injEq, Option.some.injEq,
        Prod.mk.injEq]
      constructor
      · rintro rfl
        exact ⟨negative, ds, ⟨rfl, rfl⟩, rfl, h⟩
      · rintro ⟨_, _, ⟨rfl, rfl⟩, rfl, -⟩
        rfl
    · simp only [h, if_false, reduceCtorEq, Option.some.injEq, Prod.mk.injEq, false_iff]
      rintro ⟨_, _, ⟨rfl, rfl⟩, rfl, hlimit⟩
      exact h hlimit

theorem bound_ne_oversized {option form value : Text} {digits : Nat} :
    bound option form value ≠ .error (.oversized digits) := by
  intro h
  obtain ⟨-, hfailure⟩ := bound_eq_error_iff.mp h
  cases hfailure

theorem effect_eq_oversized_iff {rule : Rule} {option : Text} {digits : Nat} :
    rule.effect option = .error (.oversized digits) ↔
      rule = .length ∧ IsOverlong option digits := by
  constructor
  · intro h
    unfold effect at h
    split at h
    · exact nomatch h
    · next value hvalue =>
      have hoption := Text.dropStart?_eq_some_iff.mp hvalue
      cases rule with
      | length =>
        obtain ⟨negative, ds, hvalue, hds, hlimit⟩ :=
          exactLength_eq_oversized_iff.mp (map_eq_error_iff.mp h)
        exact ⟨rfl, value, negative, ds, hoption, hvalue, hds, hlimit⟩
      | enum => exact nomatch h
      | maximum | minimum => exact absurd (map_eq_error_iff.mp h) bound_ne_oversized
  · rintro ⟨rfl, value, negative, ds, hoption, hvalue, hds, hlimit⟩
    unfold effect
    rw [Text.dropStart?_eq_some_iff.mpr hoption]
    exact map_eq_error_iff.mpr
      (exactLength_eq_oversized_iff.mpr ⟨negative, ds, hvalue, hds, hlimit⟩)

/-- No other rule has something to say on an exact length. -/
theorem effect_of_isOverlong {rule : Rule} {option : Text} {digits : Nat}
    (h : IsOverlong option digits) (other : rule ≠ .length) : rule.effect option = .ok id := by
  obtain ⟨value, -, -, rfl, -⟩ := h
  exact effect_of_ne other value

theorem mapM_effect_eq_oversized_iff {rules : List Rule} {option : Text} {digits : Nat} :
    (rules.mapM fun rule => rule.effect option) = .error (.oversized digits) ↔
      .length ∈ rules ∧ IsOverlong option digits := by
  rw [mapM_eq_error_iff]
  constructor
  · rintro ⟨before, rule, after, rfl, -, h⟩
    obtain ⟨rfl, hoption⟩ := effect_eq_oversized_iff.mp h
    exact ⟨by simp, hoption⟩
  · rintro ⟨hmem, hoption⟩
    obtain ⟨before, after, rfl, hbefore⟩ := List.eq_append_cons_of_mem hmem
    -- The first rule for exact lengths in the chain fails, and those before it pass the option on.
    refine ⟨before, .length, after, rfl, fun rule hrule => ⟨id, ?_⟩,
      effect_eq_oversized_iff.mpr ⟨rfl, hoption⟩⟩
    exact effect_of_isOverlong hoption fun h => hbefore (h ▸ hrule)

theorem exists_mapM_effect_iff {rules : List Rule} {option : Text} :
    (∃ changes, (rules.mapM fun rule => rule.effect option) = .ok changes) ↔
      Accepts rules option := by
  simp only [mapM_eq_ok_iff, exists_forall₂_iff]
  rfl

theorem applyAll_eq_oversized_iff {rules : List Rule} {schema : Schema} {options : List Text}
    {digits : Nat} : applyAll rules schema options = .error (.oversized digits) ↔
      Overruns rules options digits := by
  rw [applyAll_eq_map_effects, map_eq_error_iff, effects, mapM_eq_error_iff]
  simp only [exists_mapM_effect_iff, mapM_effect_eq_oversized_iff]
  constructor
  · rintro ⟨before, option, after, h, hbefore, hmem, hoption⟩
    exact ⟨hmem, before, option, after, h, hbefore, hoption⟩
  · rintro ⟨hmem, before, option, after, h, hbefore, hoption⟩
    exact ⟨before, option, after, h, hbefore, hmem, hoption⟩

end Rule

namespace Synthesis

open Descent

variable (catalog : Catalog) (rules : List Rule)

/-- The schema of a model meets an overlong number: behind fields that yield shares stands one whose
own constraints do, or whose type has a model that does. -/
inductive Overruns : Text → Nat → Prop
  | constraint {name : Text} {digits : Nat} {before after : List Field} {field : Field}
    {tags : FieldTags} {plain : Schema} : catalog.fields name = .ok (before ++ field :: after) →
    (∀ f ∈ before, ∃ share, Yields rules (schemaOf catalog rules) f share) →
    FieldTags.ofField field = .ok tags → tags.has Tag.Key.embed = false →
    tags.has Tag.Key.json = true → schemaOf catalog rules field.type = .ok plain →
    Rule.Overruns rules tags.constraints digits → Overruns name digits
  | type {name child : Text} {digits : Nat} {before after : List Field} {field : Field}
    {tags : FieldTags} : catalog.fields name = .ok (before ++ field :: after) →
    (∀ f ∈ before, ∃ share, Yields rules (schemaOf catalog rules) f share) →
    FieldTags.ofField field = .ok tags →
    tags.has Tag.Key.embed = true ∨ tags.has Tag.Key.json = true →
    (field.type.describe catalog).model? = some child → Overruns child digits →
    Overruns name digits

variable {catalog rules}

theorem settled_oversized (digits : Nat) : Settled refusal (.error (.oversized digits) :
    Except Failure Schema) := fun _ h => nomatch h

theorem overruns_of_schemaOfModel {name : Text} {digits : Nat}
    (h : schemaOfModel catalog rules name = .error (.oversized digits)) :
    Overruns catalog rules name digits := by
  refine schemaOfModel_induction
    (fun name x => x = .error (.oversized digits) → Overruns catalog rules name digits)
    (fun name x model below found _ hx hd => ?_) (settled_oversized digits) h rfl
  subst hd
  obtain ⟨before, field, after, hfields, hbefore, h⟩ := Catalog.gather_eq_oversized_iff.mp hx
  -- What a field gives before all models are opened, it gives when it is read alone.
  have hbefore : ∀ f ∈ before, ∃ s, Yields rules (schemaOf catalog rules) f s := by
    intro f hf
    obtain ⟨s, hs⟩ := hbefore f hf
    exact ⟨s, share_eq_ok_iff.mp ((share_below below name f).ok hs)⟩
  cases share_eq_error_iff.mp h with
  | tags herror => exact absurd herror FieldTags.ofField_ne_oversized
  | type htags hkeys hchild herror =>
    exact .type hfields hbefore htags hkeys hchild
      (found _ _ (settled_oversized digits) herror rfl)
  | unnamed _ _ _ herror => exact nomatch herror
  | constraint htags hembed hjson hplain herror =>
    exact .constraint hfields hbefore htags hembed hjson ((schema_below below _).ok hplain)
      (Rule.applyAll_eq_oversized_iff.mp herror)

/-- A model fails with the first of its fields that fails, whatever else is wrong behind it. -/
theorem schemaOfModel_eq_error {name : Text} {before after : List Field} {field : Field}
    {failure : Failure} (settled : Settled refusal (.error failure : Except Failure Schema))
    (hfields : catalog.fields name = .ok (before ++ field :: after))
    (hbefore : ∀ f ∈ before, ∃ share, Yields rules (schemaOf catalog rules) f share)
    (h : share catalog rules (schemaOfModel catalog rules) name field = .error failure) :
    schemaOfModel catalog rules name = .error failure := by
  refine (schemaOfModel_eq_iff settled name).mpr (Catalog.gather_eq_error_iff.mpr ?_)
  refine .inr ⟨before, field, after, hfields, fun f hf => ?_, h⟩
  obtain ⟨s, hs⟩ := hbefore f hf
  exact ⟨s, share_eq_ok_iff.mpr hs⟩

theorem Overruns.schemaOfModel {name : Text} {digits : Nat}
    (h : Overruns catalog rules name digits) :
    schemaOfModel catalog rules name = .error (.oversized digits) := by
  induction h with
  | constraint hfields hbefore htags hembed hjson hplain hoverruns =>
    refine schemaOfModel_eq_error (settled_oversized _) hfields hbefore ?_
    exact share_eq_error_iff.mpr (.constraint htags hembed hjson hplain
      (Rule.applyAll_eq_oversized_iff.mpr hoverruns))
  | type hfields hbefore htags hkeys hchild _ ih =>
    refine schemaOfModel_eq_error (settled_oversized _) hfields hbefore ?_
    exact share_eq_error_iff.mpr (.type htags hkeys hchild ih)

/-- The schema of a type meets an overlong number: that of its model does. -/
def TypeOverruns (catalog : Catalog) (rules : List Rule) (type : TypeExpr) (digits : Nat) : Prop :=
  ∃ name, (type.describe catalog).model? = some name ∧ Overruns catalog rules name digits

theorem schemaOf_eq_oversized_iff {type : TypeExpr} {digits : Nat} :
    schemaOf catalog rules type = .error (.oversized digits) ↔
      TypeOverruns catalog rules type digits := by
  rw [schemaOf_eq, Descriptor.schema_eq_error_iff]
  constructor
  · rintro ⟨name, hname, h⟩
    exact ⟨name, hname, overruns_of_schemaOfModel h⟩
  · rintro ⟨name, hname, h⟩
    exact ⟨name, hname, h.schemaOfModel⟩

/-- The schema of a type under constraints meets an overlong number: in the type, or behind it in
the constraints. -/
def ConstrainedOverruns (catalog : Catalog) (rules : List Rule) (type : TypeExpr)
    (options : List Text) (digits : Nat) : Prop :=
  TypeOverruns catalog rules type digits ∨
    (∃ plain, schemaOf catalog rules type = .ok plain) ∧ Rule.Overruns rules options digits

theorem constrained_eq_oversized_iff {type : TypeExpr} {options : List Text} {digits : Nat} :
    constrained catalog rules type options = .error (.oversized digits) ↔
      ConstrainedOverruns catalog rules type options digits := by
  unfold constrained ConstrainedOverruns
  simp only [bind_eq_error_iff, schemaOf_eq_oversized_iff, Rule.applyAll_eq_oversized_iff,
    exists_and_right]

end Synthesis

end RouteDoc
