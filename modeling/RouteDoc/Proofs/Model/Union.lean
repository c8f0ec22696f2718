import RouteDoc.Proofs.Model.Merging

/-! Unions: a union has the form of its only member besides nothing, where the members of unions
among its members are its members too and equal members count once. -/

namespace RouteDoc.TypeExpr

mutual

/-- The types that a union is of: those of the unions among its members are taken in. A type that
is no union is one of itself. -/
def choices : TypeExpr → List TypeExpr
  | .union _ members => choicesIn members
  | a => [a.asArgument]

/-- The types that a union of some types is of. -/
def choicesIn : List TypeExpr → List TypeExpr
  | [] => []
  | a :: more => choices a ++ choicesIn more

end

theorem choicesIn_eq_flatMap (members : List TypeExpr) :
    choicesIn members = members.flatMap choices := by
  induction members with
  | nil => rfl
  | cons a more ih => rw [choicesIn, ih, List.flatMap_cons]

theorem choices_eq_singleton {a : TypeExpr} (h : ∀ bar members, a ≠ .union bar members) :
    a.choices = [a.asArgument] := by
  cases a with
  | union bar members => exact absurd rfl (h bar members)
  | _ => rfl

/-- An expression that is no union makes none. -/
theorem built_asArgument {a : TypeExpr} (h : ∀ bar members, a ≠ .union bar members) :
    a.asArgument.built = a.built.asArgument ∧
      a.built.asArgument.alternatives = [a.built.asArgument] ∧
      a.built.asArgument.isNothingClass = a.asArgument.isNothingClass := by
  cases a with
  | union bar members => exact absurd rfl (h bar members)
  | annotated type tags =>
    obtain ⟨inner, all, heq⟩ := type.built.asArgument.exists_annotate_eq tags
    have hbuilt : (TypeExpr.annotated type tags).built = .annotated inner all := heq
    have hargument : (TypeExpr.annotated type tags).asArgument = .annotated type tags := rfl
    rw [hargument, hbuilt]
    exact ⟨rfl, rfl, rfl⟩
  | _ => exact ⟨rfl, rfl, rfl⟩

theorem isMember_built (a : TypeExpr) : IsMember a.built.asArgument :=
  ⟨(isMerged_built a).asArgument, asArgument_asArgument _⟩

/-- The types that the members of a union are. -/
def arguments (members : List TypeExpr) : List TypeExpr :=
  members.map fun member => member.built.asArgument

theorem built_union (bar : Bool) (members : List TypeExpr) :
    (TypeExpr.union bar members).built = unite bar (arguments members) := by
  rw [built, builtEach_eq_map, List.map_map]
  rfl

theorem mem_flatMap_alternatives_iff {members : List TypeExpr} {b : TypeExpr} :
    b ∈ (arguments members).flatMap alternatives ↔
      ∃ member ∈ members, b ∈ member.built.asArgument.alternatives := by
  simp [arguments, List.mem_flatMap]

theorem isMember_built_union (bar : Bool) (members : List TypeExpr) :
    IsMember (TypeExpr.union bar members).built ∧
      (TypeExpr.union bar members).built.alternatives = merged (arguments members) := by
  rw [built_union]
  refine alternatives_unite fun a ha => ?_
  obtain ⟨member, -, rfl⟩ := List.mem_map.mp ha
  exact isMember_built member

/-- A union is made of the types that its choices make, up to equal types. -/
theorem alternatives_built (a : TypeExpr) :
    (∀ b ∈ a.built.asArgument.alternatives, ∃ choice ∈ a.choices, choice.built = b) ∧
      ∀ choice ∈ a.choices, ∃ b ∈ a.built.asArgument.alternatives, choice.built.alike b = true := by
  induction a using parts_induction with
  | step a ih =>
    obtain ⟨bar, members, rfl⟩ | hunion := a.union_or
    · obtain ⟨hmember, halternatives⟩ := isMember_built_union bar members
      rw [hmember.argument, halternatives, choices, choicesIn_eq_flatMap]
      constructor
      · intro b hb
        obtain ⟨member, hmem, hb⟩ :=
          mem_flatMap_alternatives_iff.mp ((eraseDupsBy_sublist _).subset hb)
        obtain ⟨choice, hchoice, hbuilt⟩ := (ih member hmem).1 b hb
        exact ⟨choice, List.mem_flatMap.mpr ⟨member, hmem, hchoice⟩, hbuilt⟩
      · intro choice hchoice
        obtain ⟨member, hmem, hchoice⟩ := List.mem_flatMap.mp hchoice
        obtain ⟨b, hb, hab⟩ := (ih member hmem).2 choice hchoice
        obtain ⟨c, hc, hbc⟩ := exists_mem_eraseDupsBy alike_refl _
          (mem_flatMap_alternatives_iff.mpr ⟨member, hmem, hb⟩)
        exact ⟨c, hc, alike_trans hab hbc⟩
    · obtain ⟨hbuilt, halone, -⟩ := built_asArgument hunion
      rw [halone, choices_eq_singleton hunion]
      simp [hbuilt, alike_refl]

theorem isNothingClass_built_of_mem_choices {a choice : TypeExpr} (h : choice ∈ a.choices) :
    choice.built.isNothingClass = choice.isNothingClass := by
  induction a using parts_induction with
  | step a ih =>
    obtain ⟨bar, members, rfl⟩ | hunion := a.union_or
    · rw [choices, choicesIn_eq_flatMap] at h
      obtain ⟨member, hmem, h⟩ := List.mem_flatMap.mp h
      exact ih member hmem h
    · obtain ⟨hbuilt, -, hnothing⟩ := built_asArgument hunion
      rw [choices_eq_singleton hunion] at h
      obtain rfl := List.mem_singleton.mp h
      rw [hbuilt, hnothing]

/-- The types that a union is of besides nothing. -/
def besidesNothing (members : List TypeExpr) : List TypeExpr := telling (choicesIn members)

/-- The types that tell the form of a union are, up to equal types, those it is of besides
nothing. -/
theorem telling_built_union (bar : Bool) (members : List TypeExpr) :
    (∀ b ∈ telling (TypeExpr.union bar members).built.alternatives,
        ∃ choice ∈ besidesNothing members, choice.built = b) ∧
      ∀ choice ∈ besidesNothing members,
        ∃ b ∈ telling (TypeExpr.union bar members).built.alternatives,
          choice.built.alike b = true := by
  obtain ⟨hfrom, hto⟩ := alternatives_built (.union bar members)
  rw [(isMember_built_union bar members).1.argument] at hfrom hto
  constructor
  · intro b hb
    obtain ⟨hb, htells⟩ := List.mem_filter.mp hb
    obtain ⟨choice, hchoice, rfl⟩ := hfrom b hb
    rw [isNothingClass_built_of_mem_choices (a := .union bar members) hchoice] at htells
    exact ⟨choice, List.mem_filter.mpr ⟨hchoice, htells⟩, rfl⟩
  · intro choice hchoice
    obtain ⟨hchoice, htells⟩ := List.mem_filter.mp hchoice
    obtain ⟨b, hb, halike⟩ := hto choice hchoice
    rw [← isNothingClass_built_of_mem_choices (a := .union bar members) hchoice,
      isNothingClass_eq_of_alike halike] at htells
    exact ⟨b, List.mem_filter.mpr ⟨hb, htells⟩, halike⟩

section Form

variable {catalog : Catalog}

theorem descriptor_of_telling_alternatives {a b : TypeExpr} (h : telling a.alternatives = [b]) :
    a.descriptor catalog = b.descriptor catalog := by
  obtain ⟨bar, members, rfl⟩ | hunion := a.union_or
  · exact descriptor_union_of_telling h
  · have hmem := mem_of_telling h
    rw [alternatives_eq_singleton hunion] at hmem
    rw [List.mem_singleton.mp hmem]

theorem descriptor_of_telling_alternatives_ne {a : TypeExpr}
    (h : ∀ b, telling a.alternatives ≠ [b]) : a.descriptor catalog = .unclassified := by
  obtain ⟨bar, members, rfl⟩ | hunion := a.union_or
  · exact descriptor_union_of_ne h
  · rw [alternatives_eq_singleton hunion] at h
    have hnothing : a.isNothingClass = true := by
      by_contra hne
      exact h a (by simp [telling, hne])
    unfold isNothingClass at hnothing
    split at hnothing
    · rfl
    · cases hnothing

theorem pairwise_alternatives {a : TypeExpr} (h : IsMerged a) :
    a.alternatives.Pairwise fun a b => b.alike a = false := by
  obtain ⟨bar, members, rfl⟩ | hunion := a.union_or
  · exact h.pairwise
  · rw [alternatives_eq_singleton hunion]
    exact List.pairwise_singleton _ _

variable {bar : Bool} {members : List TypeExpr}

/-- A union of types that are equal to one of them has the form of that one. -/
theorem describe_union_of_forall_alike {a : TypeExpr} (hmem : a ∈ besidesNothing members)
    (hall : ∀ b ∈ besidesNothing members, a.built.alike b.built = true) :
    (TypeExpr.union bar members).describe catalog = a.describe catalog := by
  obtain ⟨hfrom, hto⟩ := telling_built_union bar members
  have hmerged := isMerged_built (.union bar members)
  obtain ⟨b, hb, hab⟩ := hto a hmem
  have hsingle : telling (TypeExpr.union bar members).built.alternatives = [b] := by
    refine eq_singleton_of_pairwise
      ((pairwise_alternatives hmerged).sublist List.filter_sublist) hb fun c hc => ?_
    obtain ⟨choice, hchoice, rfl⟩ := hfrom c hc
    exact alike_trans (alike_symm hab) (hall choice hchoice)
  have hbmerged : IsMerged b := by
    obtain ⟨choice, -, rfl⟩ := hfrom b hb
    exact isMerged_built choice
  rw [describe, descriptor_of_telling_alternatives hsingle]
  exact (descriptor_eq_of_alike (isMerged_built a) hbmerged hab).symm

/-- A union of different types, or of none, has no form of its own. -/
theorem describe_union_of_forall_exists
    (h : ∀ a ∈ besidesNothing members,
      ∃ b ∈ besidesNothing members, a.built.alike b.built = false) :
    (TypeExpr.union bar members).describe catalog = .unclassified := by
  obtain ⟨hfrom, hto⟩ := telling_built_union bar members
  refine descriptor_of_telling_alternatives_ne fun a hsingle => ?_
  obtain ⟨choice, hchoice, rfl⟩ := hfrom a (hsingle ▸ List.mem_singleton_self a)
  obtain ⟨other, hother, hne⟩ := h choice hchoice
  obtain ⟨b, hb, halike⟩ := hto other hother
  rw [hsingle] at hb
  obtain rfl := List.mem_singleton.mp hb
  rw [alike_symm halike] at hne
  cases hne

end Form

end RouteDoc.TypeExpr
