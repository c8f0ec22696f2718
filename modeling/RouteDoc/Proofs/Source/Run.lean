import RouteDoc.Source.Group
import Mathlib.Data.List.SplitBy

/-! Comment groups are the maximal runs of comments that join: those on consecutive lines of their
own. -/

namespace RouteDoc.Source.Group

/-- Whether a comment goes on with the group of the comment before it. -/
def joins (a b : Comment) : Bool := a.ownLine && b.ownLine && b.row == a.row + 1

/-- The maximal runs of comments that join. -/
def runs (comments : List Comment) : List (List Comment) := comments.splitBy joins

/-- The group of a run of comments. -/
def ofRun : List Comment → Group
  | [] => ⟨0, []⟩
  | c :: rest => ⟨c.row, c.text :: rest.map (·.text)⟩

theorem joins_eq_true_iff {a b : Comment} :
    joins a b = true ↔ a.ownLine = true ∧ b.ownLine = true ∧ b.row = a.row + 1 := by
  simp [joins, and_assoc]

/-- A comment that the last one joins goes on with its run. -/
theorem runs_append_of_joins {done run : List Comment} {c d : Comment}
    {earlier : List (List Comment)} (h : runs done = earlier ++ [run]) (hlast : c ∈ run.getLast?)
    (hjoins : joins c d = true) : runs (done ++ [d]) = earlier ++ [run ++ [d]] := by
  obtain ⟨hflatten, hnonempty, hchain, hborder⟩ := List.splitBy_eq_iff.mp h
  refine List.splitBy_eq_iff.mpr ⟨?_, ?_, ?_, ?_⟩
  · simp [hflatten]
  · simp only [List.mem_append, List.mem_singleton, not_or] at hnonempty ⊢
    exact ⟨hnonempty.1, (List.append_ne_nil_of_right_ne_nil run (List.cons_ne_nil d [])).symm⟩
  · simp only [List.forall_mem_append, List.forall_mem_singleton] at hchain ⊢
    refine ⟨hchain.1, List.isChain_append.mpr ⟨hchain.2, .singleton d, fun a ha b hb => ?_⟩⟩
    cases hb
    obtain rfl := Option.mem_unique ha hlast
    exact hjoins
  · rw [List.isChain_append] at hborder ⊢
    refine ⟨hborder.1, .singleton _, fun before hbefore next hnext => ?_⟩
    obtain ⟨hne, hrun, hfalse⟩ := hborder.2.2 before hbefore run rfl
    cases hnext
    exact ⟨hne, List.append_ne_nil_of_left_ne_nil hrun _, by rwa [List.head_append_left hrun]⟩

/-- A comment that the last one does not join begins a run. -/
theorem runs_append_of_not_joins {done : List Comment} {d : Comment}
    (h : ∀ c ∈ done.getLast?, joins c d = false) : runs (done ++ [d]) = runs done ++ [[d]] :=
  List.splitBy_append_cons [] h

theorem ofRun_append {run : List Comment} (nonempty : run ≠ []) (d : Comment) :
    ofRun (run ++ [d]) = ⟨(ofRun run).row, (ofRun run).lines ++ [d.text]⟩ := by
  obtain ⟨c, run, rfl⟩ := List.exists_cons_of_ne_nil nonempty
  simp [ofRun]

end RouteDoc.Source.Group

namespace RouteDoc.Source.Grouping

open RouteDoc.Source.Group

/-- What the pass keeps behind the comments `done`: the groups are those of their runs, where the
last one is open if its last comment is on a line of its own. -/
inductive Invariant (done : List Comment) (s : Grouping) : Prop
  | closed : s.current = [] → s.blocks = (runs done).map ofRun →
    (∀ c ∈ done.getLast?, c.ownLine = false) → Invariant done s
  | opened {earlier : List (List Comment)} {run : List Comment} {c : Comment} :
    runs done = earlier ++ [run] → c ∈ run.getLast? → c ∈ done.getLast? → c.ownLine = true →
    s.blocks = earlier.map ofRun → s.current ≠ [] → ofRun run = ⟨s.start.toNat, s.current⟩ →
    s.last = c.row → Invariant done s

namespace Invariant

variable {done : List Comment} {s : Grouping}

theorem initial : Invariant [] {} := .closed rfl rfl nofun

theorem published_eq (h : Invariant done s) : s.published = (runs done).map ofRun := by
  unfold published
  cases h with
  | closed hcurrent hblocks _ => rw [if_pos (by simp [hcurrent]), hblocks]
  | opened hruns _ _ _ hblocks hcurrent hrun _ =>
    rw [if_neg (by simp [hcurrent]), hruns, List.map_append, hblocks, List.map_singleton, hrun]

/-- A comment is taken into the open group if the last comment joins it. -/
theorem goesOn_iff (h : Invariant done s) (d : Comment) :
    (d.ownLine = true ∧ s.current ≠ [] ∧ (d.row : Int) = s.last + 1) ↔
      ∃ c ∈ done.getLast?, joins c d = true := by
  cases h with
  | closed hcurrent _ hlast =>
    refine ⟨fun goesOn => absurd hcurrent goesOn.2.1, fun ⟨c, hc, hjoins⟩ => ?_⟩
    exact nomatch (hlast c hc).symm.trans (joins_eq_true_iff.mp hjoins).1
  | @opened _ _ c _ _ hlast hown _ hcurrent _ hrow =>
    have hrows : (d.row : Int) = c.row + 1 ↔ d.row = c.row + 1 := by omega
    rw [hrow, hrows]
    constructor
    · rintro ⟨hd, -, hnext⟩
      exact ⟨c, hlast, joins_eq_true_iff.mpr ⟨hown, hd, hnext⟩⟩
    · rintro ⟨other, hother, hjoins⟩
      obtain rfl := Option.mem_unique hother hlast
      obtain ⟨-, hd, hnext⟩ := joins_eq_true_iff.mp hjoins
      exact ⟨hd, hcurrent, hnext⟩

theorem step (h : Invariant done s) (d : Comment) : Invariant (done ++ [d]) (s.step d) := by
  unfold Grouping.step
  split
  · next goesOn =>
    obtain ⟨c, hc, hjoins⟩ := (h.goesOn_iff d).mp goesOn
    cases h with
    | closed hcurrent _ _ => exact absurd hcurrent goesOn.2.1
    | opened hruns hrunLast hlast hown hblocks hcurrent hrun _ =>
      obtain rfl := Option.mem_unique hc hlast
      have nonempty := List.ne_nil_of_mem (List.mem_of_getLast? hrunLast)
      refine .opened (runs_append_of_joins hruns hrunLast hjoins) (by simp) (by simp) goesOn.1
        hblocks (by simp) ?_ rfl
      rw [ofRun_append nonempty, hrun]
  · next goesNotOn =>
    have hjoins : ∀ c ∈ done.getLast?, joins c d = false := fun c hc =>
      eq_false_of_ne_true fun hjoins => goesNotOn ((h.goesOn_iff d).mpr ⟨c, hc, hjoins⟩)
    have hruns := runs_append_of_not_joins hjoins
    split
    · next hown =>
      exact .opened hruns rfl (by simp) hown h.published_eq (List.cons_ne_nil _ _) rfl rfl
    · next hown =>
      refine .closed rfl ?_ (by simpa using hown)
      rw [hruns, List.map_append, ← h.published_eq]
      rfl

end Invariant

theorem invariant_foldl (comments : List Comment) :
    Invariant comments (comments.foldl step {}) := by
  induction comments using List.reverseRecOn with
  | nil => exact .initial
  | append_singleton done d ih =>
    rw [List.foldl_append]
    exact ih.step d

end RouteDoc.Source.Grouping

namespace RouteDoc.Source.Group

/-- The groups of comments are those of their runs. -/
theorem ofComments_eq (comments : List Comment) :
    ofComments comments = (runs comments).map ofRun :=
  (Grouping.invariant_foldl comments).published_eq

theorem ne_nil_of_mem_runs {comments run : List Comment} (h : run ∈ runs comments) : run ≠ [] :=
  List.ne_nil_of_mem_splitBy h

/-- The last comment of a run and the first one of the next do not join. -/
theorem joins_eq_false {comments run : List Comment} {earlier later : List (List Comment)}
    {a b : Comment} (h : runs comments = earlier ++ run :: later)
    (ha : a ∈ earlier.flatten.getLast?) (hb : b ∈ run.head?) : joins a b = false := by
  obtain ⟨-, -, -, hborder⟩ := List.splitBy_eq_iff.mp h
  obtain rfl | ⟨init, last, rfl⟩ := List.eq_nil_or_concat' earlier
  · cases ha
  · obtain ⟨-, -, hneighbours⟩ := List.isChain_append.mp hborder
    obtain ⟨hlast, hrun, hfalse⟩ := hneighbours last (by simp) run (by simp)
    have hlast : last.getLast hlast = a := by
      simpa [List.getLast?_append_of_ne_nil, hlast, List.getLast?_eq_some_getLast] using ha
    have hrun : run.head hrun = b := by simpa [List.head?_eq_some_head hrun] using hb
    rwa [hlast, hrun] at hfalse

/-- Two neighbours that join are neighbours in one run. -/
theorem exists_run_of_joins {a b : Comment} (hjoins : joins a b = true)
    (before after : List Comment) : ∃ earlier front back later,
      runs (before ++ a :: b :: after) = earlier ++ (front ++ a :: b :: back) :: later ∧
        earlier.flatten ++ front = before ∧ back ++ later.flatten = after := by
  have hflatten : (runs (before ++ a :: b :: after)).flatten = (before ++ [a]) ++ b :: after := by
    rw [runs, List.flatten_splitBy, List.append_assoc, List.singleton_append]
  -- The cut between the two is either a border of runs, which it cannot be, or inside a run.
  rcases List.flatten_eq_append_iff.mp hflatten with
    ⟨earlier, later, hruns, hbefore, hafter⟩ |
      ⟨earlier, front, c, back, later, hruns, hbefore, hafter⟩
  · cases later with
    | nil => cases hafter
    | cons run later =>
      have hmem : run ∈ runs (before ++ a :: b :: after) := by simp [hruns]
      obtain ⟨c, run, rfl⟩ := List.exists_cons_of_ne_nil (ne_nil_of_mem_runs hmem)
      obtain ⟨rfl, -⟩ := List.cons.inj hafter
      exact nomatch hjoins.symm.trans (joins_eq_false hruns (by simp [← hbefore]) (by simp))
  · obtain ⟨rfl, rfl⟩ := List.cons.inj hafter
    obtain rfl | ⟨front, d, rfl⟩ := List.eq_nil_or_concat' front
    · rw [List.append_nil] at hbefore
      exact nomatch hjoins.symm.trans (joins_eq_false hruns (by simp [← hbefore]) (by simp))
    · rw [← List.append_assoc] at hbefore
      obtain ⟨rfl, hlast⟩ := List.append_inj' hbefore rfl
      obtain rfl := List.singleton_inj.mp hlast
      exact ⟨earlier, front, back, later, by simpa using hruns, rfl, rfl⟩

/-- A comment between others is a run of its own. -/
def IsAlone (front : List Comment) (c : Comment) (back : List Comment) : Prop :=
  ∃ earlier later, runs (front ++ c :: back) = earlier ++ [c] :: later ∧
    earlier.flatten = front ∧ later.flatten = back

/-- A comment is a run of its own if it joins neither the comment before it nor the one behind it.
-/
theorem isAlone_iff {front back : List Comment} {c : Comment} :
    IsAlone front c back ↔
      (∀ a ∈ front.getLast?, joins a c = false) ∧ ∀ b ∈ back.head?, joins c b = false := by
  constructor
  · rintro ⟨earlier, later, hruns, rfl, rfl⟩
    refine ⟨fun a ha => joins_eq_false hruns ha (by simp), fun b hb => ?_⟩
    cases later with
    | nil => cases hb
    | cons run later =>
      have hmem : run ∈ runs (earlier.flatten ++ c :: (run :: later).flatten) := by
        rw [hruns]
        simp
      obtain ⟨d, run, rfl⟩ := List.exists_cons_of_ne_nil (ne_nil_of_mem_runs hmem)
      rw [List.append_cons earlier] at hruns
      exact joins_eq_false hruns (by simp) hb
  · rintro ⟨hbefore, hafter⟩
    refine ⟨runs front, runs back, ?_, List.flatten_splitBy _ _, List.flatten_splitBy _ _⟩
    have hback : runs (c :: back) = [c] :: runs back :=
      List.splitBy_append (l := [c]) (by simpa using hafter)
    have hfront : runs (front ++ c :: back) = runs front ++ runs (c :: back) :=
      List.splitBy_append_cons back hbefore
    rw [hfront, hback]

end RouteDoc.Source.Group
