import RouteDoc.Model.TypeExpr
import Mathlib.Data.List.Forall2

/-! Equality of types is an equivalence that looks at the members of unions and literals as sets.
Types are trees of lists of types, so inductions go over the parts of a type. -/

namespace RouteDoc.TypeExpr

/-- The types that a type is made of. -/
def parts : TypeExpr → List TypeExpr
  | .generic _ _ arguments => arguments
  | .tupleOf part | .annotated part _ | .callable part | .classOf part => [part]
  | .union _ members => members
  | .collection _ items => items
  | .entries members => members.map Prod.snd
  | _ => []

theorem sizeOf_lt_of_mem_parts {a part : TypeExpr} (h : part ∈ a.parts) :
    sizeOf part < sizeOf a := by
  cases a with
  | generic _ _ parts | union _ parts | collection _ parts =>
    have := List.sizeOf_lt_of_mem (show part ∈ parts from h)
    simp only [TypeExpr.generic.sizeOf_spec, TypeExpr.union.sizeOf_spec,
      TypeExpr.collection.sizeOf_spec]
    omega
  | entries members =>
    obtain ⟨⟨key, a⟩, hmem, rfl⟩ := List.mem_map.mp h
    have := List.sizeOf_lt_of_mem hmem
    simp only [TypeExpr.entries.sizeOf_spec, Prod.mk.sizeOf_spec] at *
    omega
  | tupleOf | annotated | callable | classOf =>
    obtain rfl := List.mem_singleton.mp h
    simp only [TypeExpr.tupleOf.sizeOf_spec, TypeExpr.annotated.sizeOf_spec,
      TypeExpr.callable.sizeOf_spec, TypeExpr.classOf.sizeOf_spec]
    omega
  | _ => cases h

/-- What holds of a type if it holds of its parts holds of every type. -/
@[elab_as_elim]
theorem parts_induction {motive : TypeExpr → Prop}
    (step : ∀ a, (∀ part ∈ a.parts, motive part) → motive a) (a : TypeExpr) : motive a :=
  step a fun part _ => parts_induction step part
termination_by sizeOf a
decreasing_by exact sizeOf_lt_of_mem_parts ‹_›

theorem alikeEach_eq_true_iff {types others : List TypeExpr} :
    alikeEach types others = true ↔ List.Forall₂ (fun a b => a.alike b = true) types others := by
  induction types generalizing others with
  | nil => cases others <;> simp [alikeEach]
  | cons a more ih => cases others <;> simp [alikeEach, ih]

theorem alikeEntries_eq_true_iff {members others : List (Text × TypeExpr)} :
    alikeEntries members others = true ↔
      List.Forall₂ (fun a b => a.1 = b.1 ∧ a.2.alike b.2 = true) members others := by
  induction members generalizing others with
  | nil => cases others <;> simp [alikeEntries]
  | cons a more ih =>
    obtain ⟨key, a⟩ := a
    cases others with
    | nil => simp [alikeEntries]
    | cons b others => obtain ⟨other, b⟩ := b; simp [alikeEntries, ih]

theorem alikeWithin_eq_true_iff {types others : List TypeExpr} :
    alikeWithin types others = true ↔ ∀ a ∈ types, ∃ b ∈ others, a.alike b = true := by
  induction types with
  | nil => simp [alikeWithin]
  | cons a more ih => simp [alikeWithin, ih]

theorem alikeAny_eq_true_iff {types : List TypeExpr} {b : TypeExpr} :
    alikeAny types b = true ↔ ∃ a ∈ types, a.alike b = true := by
  induction types with
  | nil => simp [alikeAny]
  | cons a more ih => simp [alikeAny, ih]

/-- Unions are equal if each member of one is equal to a member of the other. -/
theorem alike_union_iff {bar bar' : Bool} {members others : List TypeExpr} :
    (TypeExpr.union bar members).alike (.union bar' others) = true ↔
      (∀ a ∈ members, ∃ b ∈ others, a.alike b = true) ∧
        ∀ b ∈ others, ∃ a ∈ members, a.alike b = true := by
  simp [alike, alikeWithin_eq_true_iff, alikeAny_eq_true_iff]

theorem alike_refl (a : TypeExpr) : a.alike a = true := by
  induction a using parts_induction with
  | step a ih =>
    cases a with
    | generic _ _ types | collection _ types =>
      simpa [alike, alikeEach_eq_true_iff, List.forall₂_same, parts] using ih
    | tupleOf part | annotated part | callable part | classOf part =>
      simpa [alike, parts] using ih
    | union _ members =>
      exact alike_union_iff.mpr ⟨fun a ha => ⟨a, ha, ih a ha⟩, fun a ha => ⟨a, ha, ih a ha⟩⟩
    | entries members =>
      have hmembers : ∀ member ∈ members, member.2.alike member.2 = true :=
        fun member hmem => ih _ (List.mem_map_of_mem hmem)
      simpa [alike, alikeEntries_eq_true_iff, List.forall₂_same] using hmembers
    | _ => simp [alike]

/-- Two equal types: one type, or two that are made in one way of equal parts. -/
inductive Agree : TypeExpr → TypeExpr → Prop where
  | same (a : TypeExpr) : Agree a a
  | generic {typing : Bool} {origin : ClassName} {types others : List TypeExpr} :
    List.Forall₂ (fun a b => a.alike b = true) types others →
      Agree (.generic typing origin types) (.generic typing origin others)
  | tupleOf {a b : TypeExpr} : a.alike b = true → Agree (.tupleOf a) (.tupleOf b)
  | callable {a b : TypeExpr} : a.alike b = true → Agree (.callable a) (.callable b)
  | classOf {a b : TypeExpr} : a.alike b = true → Agree (.classOf a) (.classOf b)
  | annotated {tags : List Text} {a b : TypeExpr} :
    a.alike b = true → Agree (.annotated a tags) (.annotated b tags)
  | union {bar bar' : Bool} {members others : List TypeExpr} :
    (∀ a ∈ members, ∃ b ∈ others, a.alike b = true) →
      (∀ b ∈ others, ∃ a ∈ members, a.alike b = true) →
      Agree (.union bar members) (.union bar' others)
  | literal {values others : List Text} :
    (∀ value, value ∈ values ↔ value ∈ others) → Agree (.literal values) (.literal others)
  | collection {kind : ClassName} {items others : List TypeExpr} :
    List.Forall₂ (fun a b => a.alike b = true) items others →
      Agree (.collection kind items) (.collection kind others)
  | entries {members others : List (Text × TypeExpr)} :
    List.Forall₂ (fun a b => a.1 = b.1 ∧ a.2.alike b.2 = true) members others →
      Agree (.entries members) (.entries others)

/-- Equality of types is decided by their parts. -/
theorem alike_eq_true_iff {a b : TypeExpr} : a.alike b = true ↔ Agree a b := by
  constructor
  · intro h
    -- The numbered cases are those of the definition in which parts or sets are compared.
    fun_cases alike a b with
    | case10 =>
      simp only [alike, alikeEach_eq_true_iff, Bool.and_eq_true, decide_eq_true_eq] at h
      obtain ⟨⟨rfl, rfl⟩, h⟩ := h
      exact .generic h
    | case11 => exact .tupleOf (by simpa only [alike] using h)
    | case12 => exact .callable (by simpa only [alike] using h)
    | case13 => exact .classOf (by simpa only [alike] using h)
    | case14 => exact .union (alike_union_iff.mp h).1 (alike_union_iff.mp h).2
    | case15 =>
      simp only [alike, Bool.and_eq_true, decide_eq_true_eq] at h
      obtain ⟨h, rfl⟩ := h
      exact .annotated h
    | case16 =>
      simp only [alike, Bool.and_eq_true, List.all_eq_true, List.contains_iff_mem] at h
      exact .literal fun value => ⟨h.1 value, h.2 value⟩
    | case21 =>
      simp only [alike, alikeEach_eq_true_iff, Bool.and_eq_true, decide_eq_true_eq] at h
      obtain ⟨rfl, h⟩ := h
      exact .collection h
    | case22 => exact .entries (by simpa only [alike, alikeEntries_eq_true_iff] using h)
    | case24 => simp_all [alike]
    | _ => simp_all [alike, Agree.same]
  · intro h
    cases h with
    | same => exact alike_refl a
    | generic h => simpa [alike, alikeEach_eq_true_iff] using h
    | tupleOf h | callable h | classOf h => simpa only [alike] using h
    | union h h' => exact alike_union_iff.mpr ⟨h, h'⟩
    | annotated h => simpa [alike] using h
    | literal h => simp [alike, h]
    | collection h => simpa [alike, alikeEach_eq_true_iff] using h
    | entries h => simpa only [alike, alikeEntries_eq_true_iff] using h

theorem forall₂_symm {α : Type} {r : α → α → Prop} {l others : List α}
    (hsymm : ∀ a ∈ l, ∀ b, r a b → r b a) (h : List.Forall₂ r l others) :
    List.Forall₂ r others l := by
  induction h with
  | nil => exact .nil
  | cons hab _ ih =>
    exact .cons (hsymm _ List.mem_cons_self _ hab)
      (ih fun a ha => hsymm a (List.mem_cons_of_mem _ ha))

theorem forall₂_trans {α : Type} {r : α → α → Prop} {l middle others : List α}
    (htrans : ∀ a ∈ l, ∀ b c, r a b → r b c → r a c) (h : List.Forall₂ r l middle)
    (h' : List.Forall₂ r middle others) : List.Forall₂ r l others := by
  induction h generalizing others with
  | nil => exact h'
  | cons hab _ ih =>
    cases h' with
    | cons hbc h' =>
      exact .cons (htrans _ List.mem_cons_self _ _ hab hbc)
        (ih (fun a ha => htrans a (List.mem_cons_of_mem _ ha)) h')

theorem alike_symm {a b : TypeExpr} (h : a.alike b = true) : b.alike a = true := by
  induction a using parts_induction generalizing b with
  | step a ih =>
    rw [alike_eq_true_iff] at h ⊢
    cases h with
    | same => exact .same a
    | generic h => exact .generic (forall₂_symm (fun a ha b => ih a ha) h)
    | tupleOf h => exact .tupleOf (ih _ List.mem_cons_self h)
    | callable h => exact .callable (ih _ List.mem_cons_self h)
    | classOf h => exact .classOf (ih _ List.mem_cons_self h)
    | annotated h => exact .annotated (ih _ List.mem_cons_self h)
    | union hwithin hcover =>
      refine .union (fun b hb => ?_) fun a ha => ?_
      · obtain ⟨a, ha, hab⟩ := hcover b hb
        exact ⟨a, ha, ih a ha hab⟩
      · obtain ⟨b, hb, hab⟩ := hwithin a ha
        exact ⟨b, hb, ih a ha hab⟩
    | literal h => exact .literal fun value => (h value).symm
    | collection h => exact .collection (forall₂_symm (fun a ha b => ih a ha) h)
    | entries h =>
      exact .entries (forall₂_symm
        (fun a ha b hab => ⟨hab.1.symm, ih a.2 (List.mem_map_of_mem ha) hab.2⟩) h)

theorem alike_trans {a b c : TypeExpr} (hab : a.alike b = true) (hbc : b.alike c = true) :
    a.alike c = true := by
  induction a using parts_induction generalizing b c with
  | step a ih =>
    rw [alike_eq_true_iff] at hab hbc ⊢
    cases hab with
    | same => exact hbc
    | generic hab =>
      cases hbc with
      | same => exact .generic hab
      | generic hbc => exact .generic (forall₂_trans (fun a ha b c => ih a ha) hab hbc)
    | tupleOf hab =>
      cases hbc with
      | same => exact .tupleOf hab
      | tupleOf hbc => exact .tupleOf (ih _ List.mem_cons_self hab hbc)
    | callable hab =>
      cases hbc with
      | same => exact .callable hab
      | callable hbc => exact .callable (ih _ List.mem_cons_self hab hbc)
    | classOf hab =>
      cases hbc with
      | same => exact .classOf hab
      | classOf hbc => exact .classOf (ih _ List.mem_cons_self hab hbc)
    | annotated hab =>
      cases hbc with
      | same => exact .annotated hab
      | annotated hbc => exact .annotated (ih _ List.mem_cons_self hab hbc)
    | union hwithin hcover =>
      cases hbc with
      | same => exact .union hwithin hcover
      | union hwithin' hcover' =>
        refine .union (fun a ha => ?_) fun c hc => ?_
        · obtain ⟨b, hb, hab⟩ := hwithin a ha
          obtain ⟨c, hc, hbc⟩ := hwithin' b hb
          exact ⟨c, hc, ih a ha hab hbc⟩
        · obtain ⟨b, hb, hbc⟩ := hcover' c hc
          obtain ⟨a, ha, hab⟩ := hcover b hb
          exact ⟨a, ha, ih a ha hab hbc⟩
    | literal hab =>
      cases hbc with
      | same => exact .literal hab
      | literal hbc => exact .literal fun value => (hab value).trans (hbc value)
    | collection hab =>
      cases hbc with
      | same => exact .collection hab
      | collection hbc => exact .collection (forall₂_trans (fun a ha b c => ih a ha) hab hbc)
    | entries hab =>
      cases hbc with
      | same => exact .entries hab
      | entries hbc =>
        exact .entries (forall₂_trans (fun a ha b c hab hbc =>
          ⟨hab.1.trans hbc.1, ih a.2 (List.mem_map_of_mem ha) hab.2 hbc.2⟩) hab hbc)

end RouteDoc.TypeExpr
