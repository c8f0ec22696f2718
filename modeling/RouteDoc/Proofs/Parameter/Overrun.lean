import RouteDoc.Proofs.Parameter.Descent
import RouteDoc.Proofs.Schema.Overrun

/-! Overruns in requests: the only failure of the parameters of a model that is not a fault of its
author is an exact length with too many digits. -/

namespace RouteDoc.Extraction

open Descent

variable (catalog : Catalog) (rules : List Rule)

/-- A field read alone gives parameters. -/
def IsReadable (field : Field) : Prop :=
  ∃ parameters, ofField catalog rules (parametersOfModel catalog rules) field = .ok parameters

/-- The parameters of a model meet an overlong number: behind fields that can be read stands one
that embeds a model that does, or that is bound and whose own schema does. -/
inductive Overruns : Text → Nat → Prop
  | embedded {name child : Text} {digits : Nat} {before after : List Field} {field : Field}
    {tags : FieldTags} : catalog.fields name = .ok (before ++ field :: after) →
    (∀ f ∈ before, IsReadable catalog rules f) → FieldTags.ofField field = .ok tags →
    embedded? catalog field tags = some child → Overruns child digits → Overruns name digits
  | bound {name : Text} {digits : Nat} {before after : List Field} {field : Field}
    {tags : FieldTags} : catalog.fields name = .ok (before ++ field :: after) →
    (∀ f ∈ before, IsReadable catalog rules f) → FieldTags.ofField field = .ok tags →
    (∃ found, embeddedOf catalog (parametersOfModel catalog rules) field tags = .ok found) →
    (∃ binding, tags.binding? = some binding) →
    Synthesis.ConstrainedOverruns catalog rules field.type tags.constraints digits →
    Overruns name digits

variable {catalog rules}

theorem settled_oversized (digits : Nat) : Settled refusal (.error (.oversized digits) :
    Except Failure (List Parameter)) := fun _ h => nomatch h

theorem overruns_of_parametersOfModel {name : Text} {digits : Nat}
    (h : parametersOfModel catalog rules name = .error (.oversized digits)) :
    Overruns catalog rules name digits := by
  refine parametersOfModel_induction
    (fun name x => x = .error (.oversized digits) → Overruns catalog rules name digits)
    (fun name x model below found _ hx hd => ?_) (settled_oversized digits) h rfl
  subst hd
  obtain ⟨before, field, after, hfields, hbefore, h⟩ := Catalog.gather_eq_oversized_iff.mp hx
  have hbefore : ∀ f ∈ before, IsReadable catalog rules f := by
    intro f hf
    obtain ⟨ps, hps⟩ := hbefore f hf
    exact ⟨ps, (ofField_below below f).ok hps⟩
  rcases ofField_eq_error_iff.mp h with h | ⟨tags, htags, h⟩
  · exact absurd h FieldTags.ofField_ne_oversized
  rcases h with ⟨child, hchild, h⟩ | ⟨⟨own, hown⟩, hbinding, h⟩
  · exact .embedded hfields hbefore htags hchild (found _ _ (settled_oversized digits) h rfl)
  · have hown := (embeddedOf_below below field tags).ok hown
    exact .bound hfields hbefore htags ⟨own, hown⟩ hbinding
      (Synthesis.constrained_eq_oversized_iff.mp h)

/-- A model fails with the first of its fields that fails, whatever else is wrong behind it. -/
theorem parametersOfModel_eq_error {name : Text} {before after : List Field} {field : Field}
    {failure : Failure}
    (settled : Settled refusal (.error failure : Except Failure (List Parameter)))
    (hfields : catalog.fields name = .ok (before ++ field :: after))
    (hbefore : ∀ f ∈ before, IsReadable catalog rules f)
    (h : ofField catalog rules (parametersOfModel catalog rules) field = .error failure) :
    parametersOfModel catalog rules name = .error failure := by
  refine (parametersOfModel_eq_iff settled name).mpr (Catalog.gather_eq_error_iff.mpr ?_)
  exact .inr ⟨before, field, after, hfields, hbefore, h⟩

theorem Overruns.parametersOfModel {name : Text} {digits : Nat}
    (h : Overruns catalog rules name digits) :
    parametersOfModel catalog rules name = .error (.oversized digits) := by
  induction h with
  | embedded hfields hbefore htags hchild _ ih =>
    refine parametersOfModel_eq_error (settled_oversized _) hfields hbefore ?_
    exact ofField_eq_error_iff.mpr (.inr ⟨_, htags, .inl ⟨_, hchild, ih⟩⟩)
  | bound hfields hbefore htags hfound hbinding hoverruns =>
    have hconstrained := Synthesis.constrained_eq_oversized_iff.mpr hoverruns
    refine parametersOfModel_eq_error (settled_oversized _) hfields hbefore ?_
    exact ofField_eq_error_iff.mpr (.inr ⟨_, htags, .inr ⟨hfound, hbinding, hconstrained⟩⟩)

/-- A request meets an overlong number: it has a model, and its parameters do. -/
def RequestOverruns (catalog : Catalog) (rules : List Rule) (type : TypeExpr) (digits : Nat) :
    Prop :=
  type.isNothing = false ∧ ∃ name, type.describe catalog = .composite name ∧
    Overruns catalog rules name digits

theorem parametersOf_eq_oversized_iff {type : TypeExpr} {digits : Nat} :
    parametersOf catalog rules type = .error (.oversized digits) ↔
      RequestOverruns catalog rules type digits := by
  rw [parametersOf_eq, RequestOverruns]
  cases type.isNothing with
  | true => simp
  | false =>
    cases hform : type.describe catalog with
    | composite name =>
      simp only [Bool.false_eq_true, if_false, Descriptor.composite.injEq, exists_eq_left',
        true_and]
      exact ⟨overruns_of_parametersOfModel, Overruns.parametersOfModel⟩
    | primitive | sequence | mapping | unclassified => simp

end RouteDoc.Extraction
