import RouteDoc.Proofs.Source.Run
import RouteDoc.Source.Basic

/-! The groups of a source text: the comments are cut into maximal runs, and the groups of these are
put between those of the documentation by the lines on which they begin. -/

namespace RouteDoc.Source

namespace Group

/-- Comments cut into runs: those of a run of several fill lines one below the other, and two
neighbours that do so are in one run. -/
structure IsCut (comments : List Comment) (cut : List (List Comment)) : Prop where
  flatten : cut.flatten = comments
  joined : ∀ run ∈ cut, 2 ≤ run.length →
    (∀ c ∈ run, c.ownLine = true) ∧ run.IsChain fun a b => b.row = a.row + 1
  whole : ∀ before a b after, comments = before ++ a :: b :: after → a.ownLine = true →
    b.ownLine = true → b.row = a.row + 1 → ∃ earlier front back later,
      cut = earlier ++ (front ++ a :: b :: back) :: later ∧ earlier.flatten ++ front = before ∧
        back ++ later.flatten = after

/-- A group is that of a run: it begins on the line of the first comment and has the texts of all.
-/
def IsOf (group : Group) (run : List Comment) : Prop :=
  run.head?.map (·.row) = some group.row ∧ group.lines = run.map (·.text)

theorem ownLine_of_isChain {a b : Comment} {more : List Comment}
    (h : (a :: b :: more).IsChain fun a b => joins a b = true) :
    ∀ c ∈ a :: b :: more, c.ownLine = true := by
  induction more generalizing a b with
  | nil =>
    obtain ⟨ha, hb, -⟩ := joins_eq_true_iff.mp (List.isChain_cons_cons.mp h).1
    simp [ha, hb]
  | cons c more ih =>
    obtain ⟨hab, hrest⟩ := List.isChain_cons_cons.mp h
    exact List.forall_mem_cons.mpr ⟨(joins_eq_true_iff.mp hab).1, ih hrest⟩

theorem isCut_runs (comments : List Comment) : IsCut comments (runs comments) where
  flatten := List.flatten_splitBy _ _
  joined run hrun several := by
    have hchain := List.isChain_of_mem_splitBy hrun
    refine ⟨?_, hchain.imp fun a b h => (joins_eq_true_iff.mp h).2.2⟩
    match run, several, hchain with
    | a :: b :: more, _, hchain => exact ownLine_of_isChain hchain
  whole before a b after hsplit ha hb hrow := by
    rw [hsplit]
    exact exists_run_of_joins (joins_eq_true_iff.mpr ⟨ha, hb, hrow⟩) before after

theorem isOf_ofRun {run : List Comment} (h : run ≠ []) : (ofRun run).IsOf run := by
  cases run with
  | nil => exact absurd rfl h
  | cons c rest => exact ⟨rfl, rfl⟩

theorem forall₂_isOf_runs (comments : List Comment) :
    List.Forall₂ IsOf (ofComments comments) (runs comments) := by
  rw [ofComments_eq, List.forall₂_map_left_iff, List.forall₂_same]
  exact fun run hrun => isOf_ofRun (ne_nil_of_mem_runs hrun)

end Group

theorem row_le_trans (a b c : Group) (hab : decide (a.row ≤ b.row) = true)
    (hbc : decide (b.row ≤ c.row) = true) : decide (a.row ≤ c.row) = true := by
  simp only [decide_eq_true_eq] at hab hbc ⊢
  omega

theorem row_le_total (a b : Group) :
    (decide (a.row ≤ b.row) || decide (b.row ≤ a.row)) = true := by
  simp only [Bool.or_eq_true, decide_eq_true_eq]
  omega

theorem perm_inOrder (groups : List Group) : (inOrder groups).Perm groups :=
  List.mergeSort_perm groups _

theorem pairwise_inOrder (groups : List Group) :
    (inOrder groups).Pairwise fun a b => a.row ≤ b.row :=
  (List.pairwise_mergeSort row_le_trans row_le_total groups).imp of_decide_eq_true

/-- Groups that begin on one line stay as they were to each other. -/
theorem filter_inOrder (row : Nat) (groups : List Group) :
    (inOrder groups).filter (·.row = row) = groups.filter (·.row = row) := by
  have hequal : (groups.filter (·.row = row)).Pairwise
      fun a b => decide (a.row ≤ b.row) = true := by
    refine List.pairwise_iff_forall_sublist.mpr fun {a b} hsub => ?_
    have ha := List.of_mem_filter (hsub.subset (by simp : a ∈ [a, b]))
    have hb := List.of_mem_filter (hsub.subset (by simp : b ∈ [a, b]))
    simp only [decide_eq_true_eq] at ha hb ⊢
    omega
  have hsub : (groups.filter (·.row = row)).Sublist (inOrder groups) :=
    List.sublist_mergeSort row_le_trans row_le_total hequal List.filter_sublist
  have hsub : (groups.filter (·.row = row)).Sublist ((inOrder groups).filter (·.row = row)) := by
    simpa using hsub.filter (·.row = row)
  exact (hsub.eq_of_length ((perm_inOrder groups).filter _).length_eq.symm).symm

/-- Every comment is in exactly one group, and every group of comments or of the documentation is in
its place. The comments are cut into runs, as long as they can be, and each group is that of its
run. Together with the documentation they stand in the order of the lines on which they begin; of
those that begin on one line the groups of comments come first, and all else stays as it was. -/
theorem groups_in_order (comments : List Comment) (documented : List Group) :
    (∃ cut, Group.IsCut comments cut ∧
      List.Forall₂ Group.IsOf (Group.ofComments comments) cut) ∧
    (Group.ofComments comments).flatMap (·.lines) = comments.map (·.text) ∧
    (inOrder (Group.ofComments comments ++ documented)).Perm
      (Group.ofComments comments ++ documented) ∧
    (inOrder (Group.ofComments comments ++ documented)).Pairwise (fun a b => a.row ≤ b.row) ∧
    ∀ row, (inOrder (Group.ofComments comments ++ documented)).filter (·.row = row) =
      (Group.ofComments comments).filter (·.row = row) ++ documented.filter (·.row = row) := by
  have hgroups := Group.forall₂_isOf_runs comments
  refine ⟨⟨_, Group.isCut_runs comments, hgroups⟩, ?_, perm_inOrder _, pairwise_inOrder _,
    fun row => ?_⟩
  · have hlines : (Group.ofComments comments).map (·.lines) =
        (Group.runs comments).map (List.map (·.text)) := by
      rw [← List.forall₂_eq_eq_eq, List.forall₂_map_left_iff, List.forall₂_map_right_iff]
      exact hgroups.imp fun _ _ h => h.2
    rw [List.flatMap_def, hlines, ← List.map_flatten, (Group.isCut_runs comments).flatten]
  · rw [filter_inOrder, List.filter_append]

end RouteDoc.Source
