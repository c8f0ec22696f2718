import RouteDoc.Proofs.Outcome
import RouteDoc.Yaml.Value

/-! Where the faults of YAML data come from. Once the nodes of a document have been read, a fault is
that of a collection of the wrong form, or of one scalar whose text is not what its tag says. -/

namespace RouteDoc.Yaml

namespace Node

/-! ### The nodes in a node -/

theorem allOfItems_eq (items : List Node) : allOfItems items = items.flatMap all := by
  induction items with
  | nil => rfl
  | cons item items ih => rw [allOfItems, ih, List.flatMap_cons]

theorem allOfEntries_eq (entries : List (Node × Node)) :
    allOfEntries entries = entries.flatMap fun entry => entry.1.all ++ entry.2.all := by
  induction entries with
  | nil => rfl
  | cons entry entries ih => rw [allOfEntries, ih, List.flatMap_cons]

theorem mem_all_self (node : Node) : node ∈ node.all := by
  cases node <;> simp [all]

theorem all_subset_of_parts {root node : Node} {parts : List Node} (hall : root.all = root :: parts)
    (h : node ∈ root.all) (hparts : node ∈ parts → node.all ⊆ parts) : node.all ⊆ root.all := by
  rw [hall] at h ⊢
  rcases List.mem_cons.mp h with rfl | h
  · rw [hall]
    exact List.Subset.refl _
  · exact List.subset_cons_of_subset _ (hparts h)

-- The recursion is that of `all`: a node in a node is itself, or a node in one of its parts.
mutual

theorem all_subset : ∀ (root : Node) {node : Node}, node ∈ root.all → node.all ⊆ root.all
  | .scalar _ _, _, h | .alias _, _, h => all_subset_of_parts rfl h (by simp)
  | .sequence _ items, _, h => all_subset_of_parts rfl h (all_subset_allOfItems items)
  | .mapping _ entries, _, h => all_subset_of_parts rfl h (all_subset_allOfEntries entries)
  | .anchored _ inner, _, h => all_subset_of_parts rfl h (all_subset inner)
termination_by structural root => root

theorem all_subset_allOfItems : ∀ (items : List Node) {node : Node}, node ∈ allOfItems items →
    node.all ⊆ allOfItems items
  | [], _, h => nomatch h
  | item :: items, node, h => by
    rw [allOfItems] at h ⊢
    rcases List.mem_append.mp h with h | h
    · exact List.subset_append_of_subset_left _ (all_subset item h)
    · exact List.subset_append_of_subset_right _ (all_subset_allOfItems items h)
termination_by structural items => items

theorem all_subset_allOfEntries : ∀ (entries : List (Node × Node)) {node : Node},
    node ∈ allOfEntries entries → node.all ⊆ allOfEntries entries
  | [], _, h => nomatch h
  | (key, value) :: entries, node, h => by
    rw [allOfEntries] at h ⊢
    rcases List.mem_append.mp h with h | h
    · refine List.subset_append_of_subset_left _ ?_
      rcases List.mem_append.mp h with h | h
      · exact List.subset_append_of_subset_left _ (all_subset key h)
      · exact List.subset_append_of_subset_right _ (all_subset value h)
    · exact List.subset_append_of_subset_right _ (all_subset_allOfEntries entries h)
termination_by structural entries => entries

end

variable {root node : Node}

theorem mem_all_of_item {tag : NodeTag} {items : List Node} {item : Node}
    (h : .sequence tag items ∈ root.all) (hitem : item ∈ items) : item ∈ root.all := by
  refine all_subset root h (List.mem_cons_of_mem _ ?_)
  rw [allOfItems_eq]
  exact List.mem_flatMap.mpr ⟨item, hitem, mem_all_self item⟩

theorem mem_all_of_entry {tag : NodeTag} {entries : List (Node × Node)} {entry : Node × Node}
    (h : .mapping tag entries ∈ root.all) (hentry : entry ∈ entries) :
    entry.1 ∈ root.all ∧ entry.2 ∈ root.all := by
  have hall : entry.1.all ++ entry.2.all ⊆ root.all := by
    refine List.Subset.trans ?_ (all_subset root h)
    rw [all, allOfEntries_eq]
    exact List.subset_cons_of_subset _ fun node hnode =>
      List.mem_flatMap.mpr ⟨entry, hentry, hnode⟩
  exact ⟨hall (List.mem_append_left _ (mem_all_self _)),
    hall (List.mem_append_right _ (mem_all_self _))⟩

theorem mem_all_of_anchored {name : Text} (h : .anchored name node ∈ root.all) :
    node ∈ root.all :=
  all_subset root h (List.mem_cons_of_mem _ (mem_all_self node))

/-- The node behind a name is one of the document, or else it is left out. -/
theorem target_mem_all (h : node ∈ root.all) :
    (Graph.ofNode root).target node ∈ root.all ∨ (Graph.ofNode root).target node = empty := by
  unfold Graph.target
  split
  next name =>
    cases hname : (Graph.ofNode root).anchors.lookup name with
    | none => exact .inr rfl
    | some found =>
      obtain ⟨_, _, hanchors, -⟩ := List.lookup_eq_some_iff.mp hname
      have hmem : (name, found) ∈ (Graph.ofNode root).anchors := by simp [hanchors]
      obtain ⟨node, hnode, hfound⟩ := List.mem_filterMap.mp hmem
      split at hfound
      · cases hfound
        exact .inl (mem_all_of_anchored hnode)
      · cases hfound
  · exact .inl (mem_all_of_anchored h)
  · exact .inl h

theorem flatten_subset {lists : List (List Node)} (h : ∀ some ∈ lists, some ⊆ root.all) :
    lists.flatten ⊆ root.all := by
  intro node hnode
  obtain ⟨some, hsome, hnode⟩ := List.mem_flatten.mp hnode
  exact h some hsome hnode

/-- Entries whose keys and values are nodes of a document. -/
def HasEntries (root : Node) (found : List (Node × Node)) : Prop :=
  ∀ entry ∈ found, entry.1 ∈ root.all ∧ entry.2 ∈ root.all

/-- A scalar of a document is at fault: its text is not what its tag says. -/
def HasFault (root : Node) (fault : Fault) : Prop :=
  ∃ node ∈ root.all, ∃ kind text, (Graph.ofNode root).tag node = .scalar kind ∧
    (Graph.ofNode root).text node = .ok text ∧ Atom.ofScalar kind text = .error fault

end Node

/-- What a computation on the nodes of a document fails for: a collection of the wrong form, or a
scalar. -/
inductive Node.Explains (root : Node) : Fault → Prop
  | malformed : Explains root .malformed
  | scalar {fault : Fault} : root.HasFault fault → Explains root fault

namespace Graph

variable {root node : Node}

/-! ### Nodes by themselves -/

theorem ends_text : Ends root.Explains (fun t => (ofNode root).text node = .ok t)
    ((ofNode root).text node) := by
  cases h : (ofNode root).text node with
  | ok t => exact .ok rfl
  | error fault =>
    unfold text at h
    split at h <;> cases h
    exact .error .malformed

theorem ends_atom? (h : node ∈ root.all) :
    Ends root.Explains (fun _ => True) ((ofNode root).atom? node) := by
  unfold atom?
  split
  next kind htag =>
    refine ends_text.bind fun t ht => ?_
    cases hatom : Atom.ofScalar kind t with
    | ok atom => exact .ok trivial
    | error fault => exact .error (.scalar ⟨node, h, kind, t, htag, ht, hatom⟩)
  · refine ends_text.bind fun t _ => ?_
    unfold Atom.ofBinary
    split
    · exact .ok trivial
    · exact .error .malformed
  all_goals first | exact .ok trivial | exact .error .malformed

theorem ends_key (h : node ∈ root.all) :
    Ends root.Explains (fun _ => True) ((ofNode root).key node) := by
  unfold key
  split
  · exact ends_text.bind fun _ _ => .ok trivial
  · refine (ends_atom? h).bind fun atom _ => ?_
    cases atom with
    | some atom => exact .ok trivial
    | none => exact .error .malformed

theorem ends_look (h : node ∈ root.all) :
    Ends root.Explains (· ⊆ root.all) ((ofNode root).look node) := by
  refine (ends_atom? h).bind fun atom _ => ?_
  cases atom with
  | some atom => exact .ok (by simp)
  | none => exact .ok (by simpa using h)

/-! ### Collections -/

theorem hasEntries_of_target {tag : NodeTag} {found : List (Node × Node)} (h : node ∈ root.all)
    (htarget : (ofNode root).target node = .mapping tag found) : root.HasEntries found := by
  rcases Node.target_mem_all h with hmem | hempty
  · rw [htarget] at hmem
    exact fun entry hentry => Node.mem_all_of_entry hmem hentry
  · rw [htarget] at hempty
    cases hempty

theorem subset_of_target {tag : NodeTag} {items : List Node} (h : node ∈ root.all)
    (htarget : (ofNode root).target node = .sequence tag items) : items ⊆ root.all := by
  rcases Node.target_mem_all h with hmem | hempty
  · rw [htarget] at hmem
    exact fun item hitem => Node.mem_all_of_item hmem hitem
  · rw [htarget] at hempty
    cases hempty

theorem ends_itemsOf (h : node ∈ root.all) :
    Ends root.Explains (· ⊆ root.all) ((ofNode root).itemsOf node) := by
  unfold itemsOf
  split
  next htarget => exact .ok (subset_of_target h htarget)
  · exact .error .malformed

theorem ends_pairOf (h : node ∈ root.all) :
    Ends root.Explains (fun entry => entry.1 ∈ root.all ∧ entry.2 ∈ root.all)
      ((ofNode root).pairOf node) := by
  unfold pairOf
  split
  next htarget => exact .ok (hasEntries_of_target h htarget _ List.mem_cons_self)
  · exact .error .malformed

-- What is merged in stands in the document too, so the invariant is about nodes of the document
-- alone, and not about those around.
theorem ends_entries (fuel : Nat) : ∀ {around : List Text} {node : Node}, node ∈ root.all →
    Ends root.Explains root.HasEntries ((ofNode root).entries fuel around node) := by
  induction fuel with
  | zero => exact fun _ => .error .malformed
  | succ fuel ih =>
    intro around node h
    unfold entries
    split
    next found htarget =>
      have hfound := hasEntries_of_target h htarget
      dsimp only
      split
      · exact .ok fun entry hentry => hfound entry (List.mem_of_mem_filter hentry)
      · refine (Ends.mapM (Q := root.HasEntries) fun entry hentry => ?_).bind
          fun merged hmerged => .ok ?_
        · have hvalue := (hfound entry (List.mem_of_mem_filter hentry)).2
          split
          next items htarget =>
            split
            · exact .ok fun _ hmem => nomatch hmem
            · refine (Ends.mapM fun item hitem => ih (subset_of_target hvalue htarget hitem)).bind
                fun all hall => .ok fun entry hentry => ?_
              obtain ⟨some, hsome, hentry⟩ := List.mem_flatten.mp hentry
              exact hall some (List.mem_reverse.mp hsome) entry hentry
          · exact ih hvalue
        · intro entry hentry
          rcases List.mem_append.mp hentry with hentry | hentry
          · obtain ⟨some, hsome, hentry⟩ := List.mem_flatten.mp hentry
            exact hmerged some hsome entry hentry
          · exact hfound entry (List.mem_of_mem_filter hentry)
    · exact .error .malformed

theorem ends_lookAll {α : Type} {items : List α} {look : α → Except Fault (List Node)}
    (h : ∀ item ∈ items, Ends root.Explains (· ⊆ root.all) (look item)) :
    Ends root.Explains (· ⊆ root.all) (do return (← items.mapM look).flatten) :=
  (Ends.mapM h).bind fun _ hall => .ok (Node.flatten_subset hall)

theorem ends_lookInto (h : node ∈ root.all) :
    Ends root.Explains (· ⊆ root.all) ((ofNode root).lookInto node) := by
  unfold lookInto
  split
  · exact (ends_itemsOf h).bind fun items hitems => ends_lookAll fun item hitem =>
      ends_look (hitems hitem)
  · refine (ends_itemsOf h).bind fun items hitems => ends_lookAll fun item hitem => ?_
    refine (ends_pairOf (hitems hitem)).bind fun entry hentry => ?_
    refine (ends_look hentry.1).bind fun keys hkeys => (ends_look hentry.2).bind
      fun values hvalues => .ok ?_
    exact List.append_subset.mpr ⟨hkeys, hvalues⟩
  · exact (ends_entries _ h).bind fun found hfound => ends_lookAll fun entry hentry =>
      (ends_key (hfound entry hentry).1).bind fun _ _ => ends_look (hfound entry hentry).2

/-! ### Documents -/

theorem fresh_subset (nodes : List Node) : ∀ seen : List Text, (fresh seen nodes).1 ⊆ nodes := by
  induction nodes with
  | nil => exact fun _ => List.Subset.refl _
  | cons node nodes ih =>
    intro seen
    unfold fresh
    split
    · exact List.cons_subset_cons _ (ih seen)
    next name _ =>
      split
      · exact List.subset_cons_of_subset _ (ih seen)
      · exact List.cons_subset_cons _ (ih (name :: seen))

theorem ends_check (fuel : Nat) : ∀ {seen : List Text} {nodes : List Node}, nodes ⊆ root.all →
    Ends root.Explains (fun _ => True) ((ofNode root).check fuel seen nodes) := by
  induction fuel with
  | zero => exact fun _ => .ok trivial
  | succ fuel ih =>
    intro seen nodes h
    unfold check
    split
    · exact .ok trivial
    · exact (Ends.mapM fun node hnode => ends_lookInto (h hnode)).bind fun found hfound =>
        ih (List.Subset.trans (fresh_subset _ _) (Node.flatten_subset hfound))

end Graph

/-- A fault in the data of a text, other than that something is malformed, is met while the nodes
are read, or it is the fault of a scalar of the document. -/
theorem hasFault_of_load {depth : Nat} {t : Text} {fault : Fault}
    (hload : load depth t = .error fault) (hne : fault ≠ .malformed) :
    Node.ofText t = .error fault ∨
      ∃ root, Node.ofText t = .ok (some root) ∧ root.HasFault fault := by
  rcases bind_eq_error_iff.mp hload with htext | ⟨_ | root, htext, h⟩
  · exact .inl htext
  · cases h
  · have hends : Ends root.Explains (fun _ => True) (load depth t) := by
      rw [load, htext]
      refine (Graph.ends_look (Node.mem_all_self root)).bind fun nodes hnodes => ?_
      have hfresh := List.Subset.trans (Graph.fresh_subset nodes []) hnodes
      exact (Graph.ends_check _ hfresh).bind fun _ _ => .ok trivial
    cases hends.of_eq_error hload with
    | malformed => exact absurd rfl hne
    | scalar hfault => exact .inr ⟨root, htext, hfault⟩

end RouteDoc.Yaml
