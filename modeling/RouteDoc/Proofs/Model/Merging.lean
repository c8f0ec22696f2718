import RouteDoc.Model.Descriptor
import RouteDoc.Proofs.Model.Equality

/-! The types that expressions make: the members of each union in them are different types and no
unions, and equal types have one form. -/

namespace RouteDoc.TypeExpr

section EraseDups

variable {α : Type} {r : α → α → Bool}

theorem eraseDupsBy_sublist (l : List α) : (l.eraseDupsBy r).Sublist l := by
  match l with
  | [] => exact .slnil
  | a :: more =>
    rw [List.eraseDupsBy_cons]
    exact .cons_cons a ((eraseDupsBy_sublist _).trans List.filter_sublist)
termination_by l.length
decreasing_by exact Nat.lt_succ_of_le (List.length_filter_le _ _)

theorem pairwise_eraseDupsBy (l : List α) :
    (l.eraseDupsBy r).Pairwise fun a b => r b a = false := by
  match l with
  | [] => exact .nil
  | a :: more =>
    rw [List.eraseDupsBy_cons]
    refine .cons (fun b hb => ?_) (pairwise_eraseDupsBy _)
    simpa using List.of_mem_filter ((eraseDupsBy_sublist _).subset hb)
termination_by l.length
decreasing_by exact Nat.lt_succ_of_le (List.length_filter_le _ _)

/-- Of each member one is kept that it is related to. -/
theorem exists_mem_eraseDupsBy (hrefl : ∀ a, r a a = true) (l : List α) {a : α} (h : a ∈ l) :
    ∃ b ∈ l.eraseDupsBy r, r a b = true := by
  match l with
  | first :: more =>
    rw [List.eraseDupsBy_cons]
    rcases List.mem_cons.mp h with rfl | h
    · exact ⟨a, List.mem_cons_self, hrefl a⟩
    · cases hr : r a first with
      | true => exact ⟨first, List.mem_cons_self, hr⟩
      | false =>
        have hmore : a ∈ more.filter fun b => r b first = false :=
          List.mem_filter.mpr ⟨h, by simpa using hr⟩
        obtain ⟨b, hb, hab⟩ := exists_mem_eraseDupsBy hrefl _ hmore
        exact ⟨b, List.mem_cons_of_mem _ hb, hab⟩
termination_by l.length
decreasing_by exact Nat.lt_succ_of_le (List.length_filter_le _ _)

end EraseDups

/-- Whether a type is the class of nothing. -/
def isNothingClass : TypeExpr → Bool
  | .ofClass .noneType => true
  | _ => false

/-- The members of a union that tell its form: all but the class of nothing. -/
def telling (members : List TypeExpr) : List TypeExpr := members.filter fun a => !a.isNothingClass

theorem isNothingClass_eq_of_alike {a b : TypeExpr} (h : a.alike b = true) :
    a.isNothingClass = b.isNothingClass := by
  cases alike_eq_true_iff.mp h <;> rfl

theorem memberDescriptors_eq (catalog : Catalog) (members : List TypeExpr) :
    memberDescriptors catalog members = (telling members).map (descriptor catalog) := by
  induction members with
  | nil => rfl
  | cons a more ih =>
    by_cases hnothing : a = .ofClass .noneType
    · rw [hnothing, memberDescriptors, ih]
      rfl
    · have htells : a.isNothingClass = false := by
        unfold isNothingClass
        split
        · exact absurd rfl hnothing
        · rfl
      have hcons : telling (a :: more) = a :: telling more := by simp [telling, htells]
      rw [hcons, memberDescriptors, ih, List.map_cons]
      simpa using hnothing

/-- A list of pairwise different types that are all equal to one of them holds only that one. -/
theorem eq_singleton_of_pairwise {types : List TypeExpr} {a : TypeExpr}
    (hpairwise : types.Pairwise fun a b => b.alike a = false) (hmem : a ∈ types)
    (hall : ∀ b ∈ types, a.alike b = true) : types = [a] := by
  match types with
  | [b] => rw [List.mem_singleton.mp hmem]
  | b :: c :: more =>
    have hbc : c.alike b = false := (List.pairwise_cons.mp hpairwise).1 c List.mem_cons_self
    have hb := alike_symm (hall b List.mem_cons_self)
    have hc := alike_symm (hall c (List.mem_cons_of_mem _ List.mem_cons_self))
    rw [alike_trans hc (alike_symm hb)] at hbc
    cases hbc

/-- Of each union in a type, the members are pairwise different types that are no unions and that
are as arguments are. -/
inductive IsMerged : TypeExpr → Prop where
  | union {bar : Bool} {members : List TypeExpr} :
    members.Pairwise (fun a b => b.alike a = false) →
      (∀ a ∈ members, a.alternatives = [a] ∧ a.asArgument = a) → (∀ a ∈ members, IsMerged a) →
      IsMerged (.union bar members)
  | other {a : TypeExpr} :
    (∀ bar members, a ≠ .union bar members) → (∀ part ∈ a.parts, IsMerged part) → IsMerged a

theorem union_or (a : TypeExpr) :
    (∃ bar members, a = .union bar members) ∨ ∀ bar members, a ≠ .union bar members := by
  cases a with
  | union bar members => exact .inl ⟨bar, members, rfl⟩
  | _ => exact .inr nofun

theorem alternatives_eq_singleton {a : TypeExpr} (h : ∀ bar members, a ≠ .union bar members) :
    a.alternatives = [a] := by
  unfold alternatives
  split
  · exact absurd rfl (h _ _)
  · rfl

namespace IsMerged

theorem asArgument {a : TypeExpr} (h : IsMerged a) : IsMerged a.asArgument := by
  unfold TypeExpr.asArgument
  split
  · exact .other (by simp) (by simp [parts])
  · exact .other (by simp) (by simp [parts])
  · exact h

theorem pairwise {bar : Bool} {members : List TypeExpr} (h : IsMerged (.union bar members)) :
    members.Pairwise fun a b => b.alike a = false := by
  cases h with
  | union hpairwise _ _ => exact hpairwise
  | other halone _ => exact absurd rfl (halone bar members)

theorem part {a part : TypeExpr} (h : IsMerged a) (hmem : part ∈ a.parts) : IsMerged part := by
  cases h with
  | union _ _ hmembers => exact hmembers part hmem
  | other _ hparts => exact hparts part hmem

end IsMerged

@[simp]
theorem asArgument_asArgument (a : TypeExpr) : a.asArgument.asArgument = a.asArgument := by
  cases a <;> rfl

theorem builtEach_eq_map (types : List TypeExpr) : builtEach types = types.map built := by
  induction types with
  | nil => rfl
  | cons a more ih => rw [builtEach, ih, List.map_cons]

theorem builtEntries_eq_map (members : List (Text × TypeExpr)) :
    builtEntries members = members.map fun member => (member.1, member.2.built) := by
  induction members with
  | nil => rfl
  | cons member more ih => rw [builtEntries, ih, List.map_cons]

/-- What some types give to a union, each of equal types once. -/
def merged (types : List TypeExpr) : List TypeExpr :=
  (types.flatMap alternatives).eraseDupsBy fun a b => alike a b

/-- A type that an expression makes as an argument. -/
structure IsMember (a : TypeExpr) : Prop where
  merged : IsMerged a
  argument : a.asArgument = a

theorem IsMember.of_mem_alternatives {a b : TypeExpr} (h : IsMember a) (hmem : b ∈ a.alternatives) :
    IsMember b ∧ b.alternatives = [b] := by
  cases h.merged with
  | union _ hflat hmerged => exact ⟨⟨hmerged b hmem, (hflat b hmem).2⟩, (hflat b hmem).1⟩
  | other halone _ =>
    have halone := alternatives_eq_singleton halone
    rw [halone] at hmem
    obtain rfl := List.mem_singleton.mp hmem
    exact ⟨h, halone⟩

/-- A union takes in what its members give. -/
theorem alternatives_unite {bar : Bool} {types : List TypeExpr} (h : ∀ a ∈ types, IsMember a) :
    IsMember (unite bar types) ∧ (unite bar types).alternatives = merged types := by
  have hmembers : ∀ a ∈ merged types, IsMember a ∧ a.alternatives = [a] := by
    intro a ha
    obtain ⟨type, htype, ha⟩ := List.mem_flatMap.mp ((eraseDupsBy_sublist _).subset ha)
    exact (h type htype).of_mem_alternatives ha
  unfold unite
  split
  next a heq =>
    have heq : merged types = [a] := heq
    obtain ⟨hmember, halone⟩ := hmembers a (heq ▸ List.mem_singleton_self a)
    exact ⟨hmember, halone.trans heq.symm⟩
  next hne =>
    refine ⟨⟨.union (pairwise_eraseDupsBy _) (fun a ha => ?_) fun a ha => ?_, rfl⟩, rfl⟩
    · exact ⟨(hmembers a ha).2, (hmembers a ha).1.argument⟩
    · exact (hmembers a ha).1.merged

theorem exists_annotate_eq (a : TypeExpr) (tags : List Text) :
    ∃ type all, a.annotate tags = .annotated type all := by
  unfold annotate
  split <;> exact ⟨_, _, rfl⟩

theorem IsMerged.annotate {a : TypeExpr} (h : IsMerged a) (tags : List Text) :
    IsMerged (a.annotate tags) := by
  unfold TypeExpr.annotate
  split
  next type inner =>
    cases h with
    | other _ hparts => exact .other nofun hparts
  next => exact .other nofun (by simpa [parts] using h)

/-- The unions in a type that an expression makes are merged. -/
theorem isMerged_built (a : TypeExpr) : IsMerged a.built := by
  induction a using parts_induction with
  | step a ih =>
    cases a with
    | generic typing origin types =>
      refine .other (by simp [built]) fun part hpart => ?_
      simp only [built, parts, builtEach_eq_map] at hpart
      split at hpart
      · simp only [List.map_map, List.mem_map, Function.comp] at hpart
        obtain ⟨a, ha, rfl⟩ := hpart
        exact (ih a ha).asArgument
      · obtain ⟨a, ha, rfl⟩ := List.mem_map.mp hpart
        exact ih a ha
    | collection kind items =>
      refine .other (by simp [built]) fun part hpart => ?_
      simp only [built, parts, builtEach_eq_map] at hpart
      obtain ⟨a, ha, rfl⟩ := List.mem_map.mp hpart
      exact ih a ha
    | entries members =>
      refine .other (by simp [built]) fun part hpart => ?_
      simp only [built, parts, builtEntries_eq_map, List.map_map] at hpart
      obtain ⟨member, hmem, rfl⟩ := List.mem_map.mp hpart
      exact ih _ (List.mem_map_of_mem hmem)
    | tupleOf a | classOf a =>
      exact .other (by simp [built]) (by simpa [built, parts] using ih a List.mem_cons_self)
    | callable a =>
      have hpart := (ih a List.mem_cons_self).asArgument
      exact .other (by simp [built]) (by simpa [built, parts] using hpart)
    | annotated a tags => exact ((ih a List.mem_cons_self).asArgument).annotate tags
    | union bar members =>
      rw [built, builtEach_eq_map, List.map_map]
      refine (alternatives_unite fun a ha => ?_).1.merged
      obtain ⟨member, hmem, rfl⟩ := List.mem_map.mp ha
      exact ⟨(ih member hmem).asArgument, asArgument_asArgument _⟩
    | _ => exact .other (by simp [built]) (by simp [built, parts])

section Form

variable {catalog : Catalog}

theorem descriptor_union_of_telling {bar : Bool} {members : List TypeExpr} {a : TypeExpr}
    (h : telling members = [a]) :
    (TypeExpr.union bar members).descriptor catalog = a.descriptor catalog := by
  simp [descriptor, memberDescriptors_eq, h]

theorem mem_of_telling {members : List TypeExpr} {a : TypeExpr} (h : telling members = [a]) :
    a ∈ members :=
  List.mem_of_mem_filter (h ▸ List.mem_singleton_self a : a ∈ telling members)

theorem descriptor_union_of_ne {bar : Bool} {members : List TypeExpr}
    (h : ∀ a, telling members ≠ [a]) :
    (TypeExpr.union bar members).descriptor catalog = .unclassified := by
  rw [descriptor, memberDescriptors_eq]
  split
  next form hform =>
    obtain ⟨a, ha, -⟩ := List.map_eq_singleton_iff.mp hform
    exact absurd ha (h a)
  next => rfl

theorem firstDescriptor_congr_alike {types others : List TypeExpr}
    (h : List.Forall₂ (fun a b => a.alike b = true) types others)
    (hparts : ∀ a ∈ types, ∀ b ∈ others, a.alike b = true →
      a.descriptor catalog = b.descriptor catalog) :
    firstDescriptor catalog types = firstDescriptor catalog others := by
  cases h with
  | nil => rfl
  | cons hab _ =>
    rw [firstDescriptor, firstDescriptor, hparts _ List.mem_cons_self _ List.mem_cons_self hab]

/-- A merged union that has equal members to those of one with a single telling member has a single
one too. -/
theorem exists_telling_eq_singleton {members others : List TypeExpr} {a : TypeExpr}
    (hpairwise : others.Pairwise fun a b => b.alike a = false)
    (hwithin : ∀ a ∈ members, ∃ b ∈ others, a.alike b = true)
    (hcover : ∀ b ∈ others, ∃ a ∈ members, a.alike b = true) (h : telling members = [a]) :
    ∃ b, telling others = [b] ∧ a.alike b = true := by
  have hmem : a ∈ telling members := h ▸ List.mem_singleton_self a
  obtain ⟨ha, htells⟩ := List.mem_filter.mp hmem
  obtain ⟨b, hb, hab⟩ := hwithin a ha
  have hbtells : b ∈ telling others :=
    List.mem_filter.mpr ⟨hb, by rwa [← isNothingClass_eq_of_alike hab]⟩
  refine ⟨b, eq_singleton_of_pairwise (hpairwise.sublist List.filter_sublist) hbtells ?_, hab⟩
  intro c hc
  obtain ⟨hc, hctells⟩ := List.mem_filter.mp hc
  obtain ⟨d, hd, hdc⟩ := hcover c hc
  have hdtells : d ∈ telling members :=
    List.mem_filter.mpr ⟨hd, by rwa [isNothingClass_eq_of_alike hdc]⟩
  obtain rfl : d = a := List.mem_singleton.mp (h ▸ hdtells)
  exact alike_trans (alike_symm hab) hdc

/-- Equal types have one form. -/
theorem descriptor_eq_of_alike {a b : TypeExpr} (ha : IsMerged a) (hb : IsMerged b)
    (h : a.alike b = true) : a.descriptor catalog = b.descriptor catalog := by
  induction a using parts_induction generalizing b with
  | step a ih =>
    have hparts : ∀ part ∈ a.parts, ∀ other ∈ b.parts, part.alike other = true →
        part.descriptor catalog = other.descriptor catalog :=
      fun part hpart other hother => ih part hpart (ha.part hpart) (hb.part hother)
    cases alike_eq_true_iff.mp h with
    | same | callable | classOf | literal | entries => rfl
    | generic heach => rw [descriptor, descriptor, firstDescriptor_congr_alike heach hparts]
    | collection heach => rw [descriptor, descriptor, firstDescriptor_congr_alike heach hparts]
    | tupleOf hpart | annotated hpart =>
      rw [descriptor, descriptor, hparts _ List.mem_cons_self _ List.mem_cons_self hpart]
    | @union bar bar' members others hwithin hcover =>
      by_cases hsingle : ∃ a, telling members = [a]
      · obtain ⟨a, htelling⟩ := hsingle
        obtain ⟨b, htelling', hab⟩ :=
          exists_telling_eq_singleton hb.pairwise hwithin hcover htelling
        rw [descriptor_union_of_telling htelling, descriptor_union_of_telling htelling']
        exact hparts a (mem_of_telling htelling) b (mem_of_telling htelling') hab
      · have hwithin' : ∀ b ∈ others, ∃ a ∈ members, b.alike a = true := fun b hb =>
          (hcover b hb).imp fun a ha => ⟨ha.1, alike_symm ha.2⟩
        have hcover' : ∀ a ∈ members, ∃ b ∈ others, b.alike a = true := fun a ha =>
          (hwithin a ha).imp fun b hb => ⟨hb.1, alike_symm hb.2⟩
        have hother : ∀ b, telling others ≠ [b] := fun b htelling => hsingle <| by
          obtain ⟨a, htelling', -⟩ :=
            exists_telling_eq_singleton ha.pairwise hwithin' hcover' htelling
          exact ⟨a, htelling'⟩
        rw [descriptor_union_of_ne fun a htelling => hsingle ⟨a, htelling⟩,
          descriptor_union_of_ne hother]

end Form

end RouteDoc.TypeExpr
