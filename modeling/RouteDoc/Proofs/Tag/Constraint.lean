import RouteDoc.Tag.Constraint

/-! The options of a `validate` tag are those that were written, although the values of an `enum=`
option are cut apart with the rest of the tag. -/

namespace RouteDoc.Tag

open Text

/-- An option that is put together again: it has an equals sign before its first comma, and none
behind it; only one that lists values has commas. -/
def IsOption (option : Text) : Prop :=
  ∃ first rest, splitOn ',' option = first :: rest ∧ '=' ∈ first ∧ (∀ piece ∈ rest, '=' ∉ piece) ∧
    (rest ≠ [] → startsWith enumMark first = true)

theorem startsWith_append {start t : Text} (h : startsWith start t = true) (rest : Text) :
    startsWith start (t ++ rest) = true :=
  startsWith_iff.mpr ((startsWith_iff.mp h).trans (List.prefix_append t rest))

/-- Values are put back behind the option that lists them. -/
theorem regroupFrom_append {current : Text} {pieces : List Text}
    (values : ∀ piece ∈ pieces, '=' ∉ piece)
    (lists : pieces ≠ [] → startsWith enumMark current = true) (more : List Text) :
    regroupFrom current (pieces ++ more) = regroupFrom (join [','] (current :: pieces)) more := by
  induction pieces generalizing current with
  | nil => simp [join]
  | cons piece pieces ih =>
    obtain ⟨hpiece, hpieces⟩ := List.forall_mem_cons.mp values
    have hstart := lists (List.cons_ne_nil piece pieces)
    have hjoin : join [','] (current :: piece :: pieces) =
        join [','] ((current ++ ',' :: piece) :: pieces) := by
      have hhead : current ++ ',' :: piece = current ++ [','] ++ piece := by simp
      rw [hhead, join_append_head, join_cons_cons]
    rw [List.cons_append, regroupFrom, hstart]
    simp only [Bool.true_and, Bool.not_eq_true', List.contains_eq_mem, decide_eq_false_iff_not,
      hpiece, not_false_eq_true, if_true]
    rw [ih hpieces fun _ => startsWith_append hstart _, hjoin]

/-- Each option that follows begins anew. -/
theorem regroupFrom_flatMap_splitOn (current : Text) {options : List Text}
    (h : ∀ option ∈ options, IsOption option) :
    regroupFrom current (options.flatMap (splitOn ',')) = current :: options := by
  induction options generalizing current with
  | nil => rfl
  | cons option options ih =>
    obtain ⟨⟨first, rest, hsplit, hfirst, hrest, hlists⟩, hoptions⟩ := List.forall_mem_cons.mp h
    have hoption : join [','] (first :: rest) = option := by rw [← hsplit, join_splitOn]
    rw [List.flatMap_cons, hsplit, List.cons_append, regroupFrom]
    simp only [List.contains_eq_mem, hfirst, decide_true, Bool.not_true, Bool.and_false,
      Bool.false_eq_true, if_false]
    rw [regroupFrom_append hrest hlists, hoption, ih option hoptions]

theorem regroup_flatMap_splitOn {options : List Text} (h : ∀ option ∈ options, IsOption option) :
    regroup (options.flatMap (splitOn ',')) = options := by
  cases options with
  | nil => rfl
  | cons option options =>
    obtain ⟨⟨first, rest, hsplit, -, hrest, hlists⟩, hoptions⟩ := List.forall_mem_cons.mp h
    have hoption : join [','] (first :: rest) = option := by rw [← hsplit, join_splitOn]
    rw [List.flatMap_cons, hsplit, List.cons_append, regroup, regroupFrom_append hrest hlists,
      hoption, regroupFrom_flatMap_splitOn option hoptions]

/-- A value that is joined from a name and options is cut at every comma. -/
theorem ofValue_join {name : Text} (hname : ',' ∉ name) (key : Text) (options : List Text) :
    ofValue key (join [','] (name :: options)) =
      ⟨key, name, options.flatMap (splitOn ',')⟩ := by
  have hcut : splitOn ',' (join [','] (name :: options)) =
      name :: options.flatMap (splitOn ',') := by
    rw [splitOn_join_eq_flatMap, List.flatMap_cons, splitOn_of_not_mem hname]
    rfl
  obtain ⟨hhead, htail⟩ := List.cons.inj hcut
  simp only [ofValue, hhead, htail]

end RouteDoc.Tag
