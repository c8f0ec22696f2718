import RouteDoc.Schema.Synthesis
import RouteDoc.Proofs.Model.Union

/-! Wrappers are transparent: a type has one form and one schema with and without tag texts around
it, and with and without nothing as another choice. -/

namespace RouteDoc

namespace TypeExpr

/-- Nothing, written in either of the two ways. -/
def IsNothing (type : TypeExpr) : Prop := type = .nothing ∨ type = .ofClass .noneType

/-- A type inside tag texts and unions with nothing, nested in any way. -/
inductive Wraps (type : TypeExpr) : TypeExpr → Prop where
  | self : Wraps type type
  | annotated {outer : TypeExpr} (tags : List Text) :
    Wraps type outer → Wraps type (.annotated outer tags)
  | union {outer : TypeExpr} (bar : Bool) (before after : List TypeExpr) :
    Wraps type outer →
      (∀ other ∈ before ++ after, other.IsNothing) →
      Wraps type (.union bar (before ++ outer :: after))

/-- What an expression makes is a text only if it is one: inside another type, a text is the
reference of that name. -/
theorem built_ne_text {type : TypeExpr} (h : ∀ name, type ≠ .text name) (name : Text) :
    type.built ≠ .text name := by
  intro hbuilt
  cases type with
  | text t => exact h t rfl
  | annotated type tags =>
    obtain ⟨inner, all, heq⟩ := type.built.asArgument.exists_annotate_eq tags
    rw [built, heq] at hbuilt
    cases hbuilt
  | union bar members =>
    have hargument := (isMember_built_union bar members).1.argument
    rw [hbuilt] at hargument
    cases hargument
  | _ => cases hbuilt

theorem descriptor_asArgument (catalog : Catalog) {type : TypeExpr}
    (h : ∀ name, type ≠ .text name) :
    type.asArgument.descriptor catalog = type.descriptor catalog := by
  cases type with
  | text name => exact absurd rfl (h name)
  | _ => rfl

theorem descriptor_annotate (catalog : Catalog) (type : TypeExpr) (tags : List Text) :
    (type.annotate tags).descriptor catalog = type.descriptor catalog := by
  unfold annotate
  split <;> rfl

theorem describe_annotated (catalog : Catalog) {type : TypeExpr} (h : ∀ name, type ≠ .text name)
    (tags : List Text) :
    (TypeExpr.annotated type tags).describe catalog = type.describe catalog := by
  rw [describe, built, descriptor_annotate, descriptor_asArgument catalog (built_ne_text h)]
  rfl

theorem telling_choices_of_isNothing {type : TypeExpr} (h : type.IsNothing) :
    telling type.choices = [] := by
  obtain rfl | rfl := h <;> rfl

theorem telling_choices_of_not_isNothing {type : TypeExpr}
    (hunion : ∀ bar members, type ≠ .union bar members) (htext : ∀ name, type ≠ .text name)
    (h : ¬ type.IsNothing) : telling type.choices = [type] := by
  have hargument : type.asArgument = type := by
    unfold asArgument
    split
    · exact absurd (.inl rfl) h
    · exact absurd rfl (htext _)
    · rfl
  have htells : type.isNothingClass = false := by
    unfold isNothingClass
    split
    · exact absurd (.inr rfl) h
    · rfl
  rw [choices_eq_singleton hunion, hargument, telling, List.filter_cons_of_pos (by simp [htells])]
  rfl

theorem telling_choicesIn_append (types others : List TypeExpr) :
    telling (choicesIn (types ++ others)) =
      telling (choicesIn types) ++ telling (choicesIn others) := by
  simp [choicesIn_eq_flatMap, telling]

/-- Nothing as another choice changes none of the other choices of a union. -/
theorem besidesNothing_append (outer : TypeExpr) {before after : List TypeExpr}
    (h : ∀ other ∈ before ++ after, other.IsNothing) :
    besidesNothing (before ++ outer :: after) = telling outer.choices := by
  have hnothing : ∀ types : List TypeExpr, (∀ other ∈ types, other.IsNothing) →
      telling (choicesIn types) = [] := by
    intro types htypes
    induction types with
    | nil => rfl
    | cons other more ih =>
      rw [← List.singleton_append, telling_choicesIn_append,
        ih fun other hother => htypes other (List.mem_cons_of_mem _ hother), choicesIn, choicesIn,
        List.append_nil, List.append_nil,
        telling_choices_of_isNothing (htypes other List.mem_cons_self)]
  have hbefore := hnothing before fun other hother => h other (List.mem_append_left _ hother)
  have hafter := hnothing after fun other hother => h other (List.mem_append_right _ hother)
  rw [besidesNothing, telling_choicesIn_append, hbefore, ← List.singleton_append,
    telling_choicesIn_append, hafter, choicesIn, choicesIn]
  simp

/-- A union with the same choices besides nothing has the same form. -/
theorem describe_union_congr (catalog : Catalog) {bar bar' : Bool} {members others : List TypeExpr}
    (h : besidesNothing members = besidesNothing others) :
    (TypeExpr.union bar members).describe catalog =
      (TypeExpr.union bar' others).describe catalog := by
  by_cases hone : ∃ a ∈ besidesNothing members,
      ∀ b ∈ besidesNothing members, a.built.alike b.built = true
  · obtain ⟨a, hmem, hall⟩ := hone
    rw [describe_union_of_forall_alike hmem hall,
      describe_union_of_forall_alike (h ▸ hmem) (h ▸ hall)]
  · have hdiffer : ∀ a ∈ besidesNothing members, ∃ b ∈ besidesNothing members,
        a.built.alike b.built = false := by simpa using hone
    rw [describe_union_of_forall_exists hdiffer, describe_union_of_forall_exists (h ▸ hdiffer)]

theorem describe_union_nothing (catalog : Catalog) (bar : Bool) {before after : List TypeExpr}
    {outer : TypeExpr} (htext : ∀ name, outer ≠ .text name)
    (h : ∀ other ∈ before ++ after, other.IsNothing) :
    (TypeExpr.union bar (before ++ outer :: after)).describe catalog = outer.describe catalog := by
  have hchoices := besidesNothing_append outer h
  obtain ⟨bar', members, rfl⟩ | hunion := outer.union_or
  · exact describe_union_congr catalog hchoices
  · by_cases hnothing : outer.IsNothing
    · rw [telling_choices_of_isNothing hnothing] at hchoices
      rw [describe_union_of_forall_exists (by simp [hchoices])]
      obtain rfl | rfl := hnothing <;> rfl
    · rw [telling_choices_of_not_isNothing hunion htext hnothing] at hchoices
      refine describe_union_of_forall_alike (hchoices ▸ List.mem_singleton_self outer) ?_
      simp [hchoices, alike_refl]

theorem Wraps.ne_text {type outer : TypeExpr} (h : Wraps type outer)
    (htext : ∀ name, type ≠ .text name) : ∀ name, outer ≠ .text name := by
  cases h with
  | self => exact htext
  | annotated | union => exact nofun

theorem Wraps.describe_eq {type outer : TypeExpr} (h : Wraps type outer)
    (htext : ∀ name, type ≠ .text name) (catalog : Catalog) :
    outer.describe catalog = type.describe catalog := by
  induction h with
  | self => rfl
  | annotated tags h ih => rw [describe_annotated catalog (h.ne_text htext), ih]
  | union bar before after h hnothing ih =>
    rw [describe_union_nothing catalog bar (h.ne_text htext) hnothing, ih]

end TypeExpr

namespace Synthesis

open TypeExpr

/-- Wrappers are transparent. A type inside tag texts and unions with nothing, nested in any way,
has the form and the schemas of the type. A text is no type: inside one it stands for the type of
that name. A union, whose members are those of the unions among its
members too, has the form of a member if all its members but nothing are equal to that one, and
no form of its own if there is no such member. -/
theorem schemaOf_wrapped (catalog : Catalog) (rules : List Rule) :
    (∀ type outer : TypeExpr, (∀ name, type ≠ .text name) → Wraps type outer →
      outer.describe catalog = type.describe catalog ∧
        schemaOf catalog rules outer = schemaOf catalog rules type ∧
        ∀ options,
          constrained catalog rules outer options = constrained catalog rules type options) ∧
    ∀ (bar : Bool) (members : List TypeExpr),
      (∀ a ∈ besidesNothing members,
        (∀ b ∈ besidesNothing members, a.built.alike b.built = true) →
          (TypeExpr.union bar members).describe catalog = a.describe catalog) ∧
        ((∀ a ∈ besidesNothing members,
          ∃ b ∈ besidesNothing members, a.built.alike b.built = false) →
          (TypeExpr.union bar members).describe catalog = .unclassified) := by
  refine ⟨fun type outer htext h => ?_, fun bar members => ⟨fun a hmem hall => ?_, fun h => ?_⟩⟩
  · have hform := h.describe_eq htext catalog
    have hschema : schemaOf catalog rules outer = schemaOf catalog rules type := by
      rw [schemaOf, schemaOf, hform]
    refine ⟨hform, hschema, fun options => ?_⟩
    rw [constrained, constrained, hschema]
  · exact describe_union_of_forall_alike hmem hall
  · exact describe_union_of_forall_exists h

/-- A width that may be missing, in two layers of tag texts, and lists of a whole number or a text
in two spellings. -/
theorem schemaOf_wrapped_width :
    let width := TypeExpr.ofClass .int
    let wrapped := TypeExpr.annotated (.optional (.annotated (.union true [.nothing, width])
      ["json:\"width\"".toList])) ["validate:\"min=1\"".toList]
    let numberOrText := TypeExpr.generic false .list [.union false [width, .ofClass .str]]
    let textOrNumber := TypeExpr.generic false .list [.union true [.ofClass .str, width]]
    wrapped.describe [] = width.describe [] ∧
      (TypeExpr.union false [numberOrText, .nothing, textOrNumber]).describe [] =
        textOrNumber.describe [] := by
  intro width wrapped numberOrText textOrNumber
  obtain ⟨hwrapped, hunion⟩ := schemaOf_wrapped [] Rule.standard
  have hwraps : Wraps width wrapped :=
    .annotated _ (.union false [] [.nothing]
      (.annotated _ (.union true [.nothing] [] .self (by simp [IsNothing])))
      (by simp [IsNothing]))
  refine ⟨(hwrapped width wrapped nofun hwraps).1, (hunion false _).1 textOrNumber ?_ ?_⟩
  · exact List.mem_cons_of_mem _ List.mem_cons_self
  · decide

end Synthesis

end RouteDoc
