import Mathlib.Data.List.Chain
import Mathlib.Data.List.TakeWhile
import RouteDoc.Proofs.Tag.Constraint

/-! The options of a `validate` tag are cut into groups and each group is put in one: an option that
lists values takes all that follow it without an equals sign, and every other stands alone. No text
is lost on the way, and the result has nothing left to put together. -/

namespace RouteDoc.Tag

open Text

/-- A group of options and what follows it. There are values behind the first option exactly when
it lists values and the next option has no equals sign; then they go on as far as that holds. -/
structure IsGroup (first : Text) (values rest : List Text) : Prop where
  longer : values ≠ [] ↔ startsWith enumMark first = true ∧
    ∃ next ∈ (values ++ rest).head?, '=' ∉ next
  maximal : values ≠ [] → (∀ value ∈ values, '=' ∉ value) ∧ ∀ next ∈ rest.head?, '=' ∈ next

/-- Options cut into consecutive groups. -/
inductive Cuts : List Text → List (List Text) → Prop
  | nil : Cuts [] []
  | group {first : Text} {values rest : List Text} {groups : List (List Text)} :
    IsGroup first values rest → Cuts rest groups →
    Cuts (first :: (values ++ rest)) ((first :: values) :: groups)

/-- Two neighbours stay apart: behind an option that lists values, the next has an equals sign. -/
def Parts (option next : Text) : Prop := startsWith enumMark option = true → '=' ∈ next

/-! ### One group -/

theorem regroupFrom_of_parts {current next : Text} (h : Parts current next) (rest : List Text) :
    regroupFrom current (next :: rest) = current :: regroupFrom next rest := by
  rw [regroupFrom, if_neg]
  simpa [Parts, List.contains_eq_mem] using h

namespace IsGroup

variable {first : Text} {values rest : List Text}

theorem values_plain (h : IsGroup first values rest) : ∀ value ∈ values, '=' ∉ value := by
  intro value hvalue
  exact (h.maximal (List.ne_nil_of_mem hvalue)).1 value hvalue

theorem parts (h : IsGroup first values rest) :
    ∀ next ∈ rest.head?, Parts (join [','] (first :: values)) next := by
  intro next hnext hstart
  by_cases hvalues : values = []
  · subst hvalues
    by_contra hequals
    have hfirst : startsWith enumMark first = true := by simpa [join] using hstart
    exact h.longer.mpr ⟨hfirst, next, hnext, hequals⟩ rfl
  · exact (h.maximal hvalues).2 next hnext

/-- A group is put in one, and what follows it is put together by itself. -/
theorem regroupFrom_eq (h : IsGroup first values rest) :
    regroupFrom first (values ++ rest) = join [','] (first :: values) :: regroup rest := by
  rw [regroupFrom_append h.values_plain fun hne => (h.longer.mp hne).1]
  cases rest with
  | nil => rfl
  | cons next rest => exact regroupFrom_of_parts (h.parts next rfl) rest

/-- How far a group goes is settled by the options alone. -/
theorem values_eq (h : IsGroup first values rest) : values =
    if startsWith enumMark first = true then
      (values ++ rest).takeWhile fun option => decide ('=' ∉ option)
    else [] := by
  by_cases hstart : startsWith enumMark first = true
  · rw [if_pos hstart, List.takeWhile_append_of_pos fun value hvalue => by
      simpa using h.values_plain value hvalue]
    cases rest with
    | nil => simp
    | cons next rest =>
      by_cases hvalues : values = []
      · subst hvalues
        have hequals : '=' ∈ next := h.parts next rfl (by simpa [join] using hstart)
        simp [hequals]
      · have hequals : '=' ∈ next := (h.maximal hvalues).2 next rfl
        simp [hequals]
  · rw [if_neg hstart]
    by_contra hvalues
    exact hstart (h.longer.mp hvalues).1

end IsGroup

theorem exists_isGroup (first : Text) (options : List Text) :
    ∃ values rest, options = values ++ rest ∧ IsGroup first values rest := by
  by_cases hstart : startsWith enumMark first = true
  · refine ⟨options.takeWhile fun option => decide ('=' ∉ option),
      options.dropWhile fun option => decide ('=' ∉ option),
      List.takeWhile_append_dropWhile.symm, ⟨?_, fun _ => ⟨fun value hvalue => ?_, ?_⟩⟩⟩
    · rw [List.takeWhile_append_dropWhile]
      cases options with
      | nil => simp
      | cons next options => by_cases hnext : '=' ∈ next <;> simp [hnext, hstart]
    · simpa using List.mem_takeWhile_imp hvalue
    · intro next hnext
      have hstop := List.head?_dropWhile_not (fun option => decide ('=' ∉ option)) options
      rw [Option.mem_def.mp hnext] at hstop
      simpa using hstop
  · exact ⟨[], options, rfl, by simp [hstart], fun hne => absurd rfl hne⟩

theorem exists_regroupFrom_eq_cons (current : Text) (options : List Text) :
    ∃ option rest, regroupFrom current options = option :: rest := by
  obtain ⟨values, rest, rfl, hgroup⟩ := exists_isGroup current options
  exact ⟨_, _, hgroup.regroupFrom_eq⟩

/-! ### All groups -/

theorem exists_cuts (options : List Text) : ∃ groups, Cuts options groups := by
  induction hlength : options.length using Nat.strong_induction_on generalizing options with
  | _ n ih =>
    cases options with
    | nil => exact ⟨[], .nil⟩
    | cons first options =>
      obtain ⟨values, rest, rfl, hgroup⟩ := exists_isGroup first options
      have hshorter : rest.length < n := by
        rw [← hlength, List.length_cons, List.length_append]
        omega
      obtain ⟨groups, hgroups⟩ := ih _ hshorter rest rfl
      exact ⟨_, .group hgroup hgroups⟩

namespace Cuts

variable {options : List Text} {groups : List (List Text)}

theorem flatten (h : Cuts options groups) : groups.flatten = options := by
  induction h with
  | nil => rfl
  | group _ _ ih => rw [List.flatten_cons, ih, List.cons_append]

theorem unique (h : Cuts options groups) {others : List (List Text)}
    (hothers : Cuts options others) : others = groups := by
  induction h generalizing others with
  | nil =>
    cases hothers
    rfl
  | @group first values rest groups hgroup _ ih =>
    generalize hoptions : first :: (values ++ rest) = options at hothers
    cases hothers with
    | nil => exact absurd hoptions (List.cons_ne_nil _ _)
    | @group first' values' rest' groups' hgroup' hrest' =>
      obtain ⟨rfl, happend⟩ := List.cons.inj hoptions
      have hvalues : values' = values := by
        rw [hgroup'.values_eq, hgroup.values_eq, ← happend]
      subst hvalues
      obtain rfl := List.append_cancel_left happend
      rw [ih hrest']

theorem regroup (h : Cuts options groups) : Tag.regroup options = groups.map (join [',']) := by
  induction h with
  | nil => rfl
  | group hgroup _ ih => rw [Tag.regroup, hgroup.regroupFrom_eq, ih, List.map_cons]

/-- The options that groups are put in stay apart. -/
theorem isChain (h : Cuts options groups) : (groups.map (join [','])).IsChain Parts := by
  induction h with
  | nil => exact .nil
  | @group first values rest groups hgroup hrest ih =>
    rw [List.map_cons, List.isChain_cons]
    refine ⟨fun option hoption hstart => ?_, ih⟩
    cases hrest with
    | nil => exact absurd hoption (by simp)
    | @group next values' rest' groups' _ _ =>
      obtain rfl : join [','] (next :: values') = option := Option.some.inj hoption
      -- What is put behind the first option of a group leaves it its equals sign.
      have hnext : '=' ∈ next := hgroup.parts next rfl hstart
      have hjoin := join_append_head [','] next [] values'
      rw [List.append_nil] at hjoin
      rw [hjoin]
      exact List.mem_append_left _ hnext

end Cuts

/-! ### Nothing is lost, and nothing is left to do -/

theorem join_regroupFrom (current : Text) (options : List Text) :
    join [','] (regroupFrom current options) = join [','] (current :: options) := by
  induction options generalizing current with
  | nil => rfl
  | cons option options ih =>
    rw [regroupFrom]
    split
    · have hhead : current ++ ',' :: option = current ++ [','] ++ option := by simp
      rw [ih, hhead, join_append_head, join_cons_cons]
    · obtain ⟨next, more, hmore⟩ := exists_regroupFrom_eq_cons option options
      rw [join_cons_cons, ← ih, hmore, join_cons_cons]

theorem join_regroup (options : List Text) :
    join [','] (regroup options) = join [','] options := by
  cases options with
  | nil => rfl
  | cons option options => exact join_regroupFrom option options

theorem regroup_of_isChain {options : List Text} (h : options.IsChain Parts) :
    regroup options = options := by
  cases options with
  | nil => rfl
  | cons current options =>
    show regroupFrom current options = current :: options
    induction options generalizing current with
    | nil => rfl
    | cons next options ih =>
      obtain ⟨hparts, hrest⟩ := List.isChain_cons_cons.mp h
      rw [regroupFrom_of_parts hparts, ih next hrest]

/-- The constraints of a `validate` tag are its options, group by group: there is one way to cut the
options, and each group is put in one option. The commas between options are in the constraints as
they were, no value is left behind an option that takes it, and a tag with the constraints for its
options has the same constraints. -/
theorem constraints_by_groups (tag : Tag) :
    join [','] tag.constraints = join [','] tag.options ∧
    (∃ groups, (∀ others, Cuts tag.options others ↔ others = groups) ∧
      groups.flatten = tag.options ∧ tag.constraints = groups.map (join [','])) ∧
    tag.constraints.IsChain (fun option next => startsWith enumMark option = true → '=' ∈ next) ∧
    ∀ key name, constraints ⟨key, name, tag.constraints⟩ = tag.constraints := by
  obtain ⟨groups, hcuts⟩ := exists_cuts tag.options
  have hgroups : tag.constraints = groups.map (join [',']) := hcuts.regroup
  have hchain : tag.constraints.IsChain Parts := hgroups ▸ hcuts.isChain
  refine ⟨join_regroup tag.options, ⟨groups, fun others => ?_, hcuts.flatten, hgroups⟩, hchain,
    fun key name => regroup_of_isChain hchain⟩
  exact ⟨fun h => hcuts.unique h, fun h => h ▸ hcuts⟩

end RouteDoc.Tag
