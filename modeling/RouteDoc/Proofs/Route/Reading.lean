import RouteDoc.Proofs.Route.Annotation

/-! Comment groups read line by line. What a line says about a route, or whether it is at fault, is
decided by the line alone; a group is at fault with the first of its lines that is, and else its
route is what its lines say together. So a route has a place exactly when the first word of one of
the lines announces it. -/

namespace RouteDoc

open Text Directive

namespace Directive

/-- A line is read as one that says where a route is found. -/
def Locates (line : Text) : Prop := ∃ payload, ofLine? line = some (.router, payload)

/-- A line is at fault: it gives the place of a route in other than two words, or a response in
fewer than two pieces between spaces. -/
inductive Breaks (line : Text) : DirectiveFault → Prop
  | router {payload : Text} : ofLine? line = some (.router, payload) →
    (words payload).length ≠ 2 → Breaks line (.router payload)
  | response {payload : Text} : ofLine? line = some (.response, payload) →
    (splitOn ' ' payload).length < 2 → Breaks line (.response payload)

end Directive

namespace Annotation

/-- What a directive says with its payload. -/
def ofDirective (payload : Text) : Directive → Except DirectiveFault Annotation
  | .summary => .ok (.summary payload)
  | .description => .ok (.description payload)
  | .response => (Route.readResponse payload).map fun fields => .response fields.1 fields.2
  | .router =>
    match words payload with
    | [path, method] => .ok (.router path (Route.readMethod method))
    | _ => .error (.router payload)

/-- What a line says, if it says anything. -/
def ofLine (line : Text) : Except DirectiveFault (Option Annotation) :=
  match ofLine? line with
  | some (directive, payload) => (ofDirective payload directive).map some
  | none => .ok none

/-! ### Lines at fault -/

theorem readResponse_eq_error_iff {payload : Text} {fault : DirectiveFault} :
    Route.readResponse payload = .error fault ↔
      (splitOn ' ' payload).length < 2 ∧ fault = .response payload := by
  rw [length_splitOn_lt_two_iff]
  by_cases h : ' ' ∈ payload
  · obtain ⟨status, rest, rfl, hstatus⟩ := List.eq_append_cons_of_mem h
    rw [Route.readResponse, splitAtMost_append hstatus]
    by_cases hrest : ' ' ∈ rest
    · obtain ⟨placeholder, description, rfl, hplaceholder⟩ := List.eq_append_cons_of_mem hrest
      rw [splitAtMost_append hplaceholder]
      simp [splitAtMost]
    · simp [splitAtMost_of_not_mem hrest]
  · rw [Route.readResponse, splitAtMost_of_not_mem h]
    simp [h, eq_comm]

theorem ofDirective_router_eq_error_iff {payload : Text} {fault : DirectiveFault} :
    ofDirective payload .router = .error fault ↔
      (words payload).length ≠ 2 ∧ fault = .router payload := by
  rw [ofDirective]
  split
  · next path method h => simp [h]
  · next h =>
    have hlength : (words payload).length ≠ 2 := fun htwo => by
      obtain ⟨path, method, hwords⟩ := List.length_eq_two.mp htwo
      exact h path method hwords
    simp [hlength, eq_comm]

theorem ofLine_eq_error_iff {line : Text} {fault : DirectiveFault} :
    ofLine line = .error fault ↔ Breaks line fault := by
  constructor
  · intro h
    unfold ofLine at h
    split at h
    · next directive payload hline =>
      rw [map_eq_error_iff] at h
      cases directive with
      | summary | description => exact nomatch h
      | router =>
        obtain ⟨hwords, rfl⟩ := ofDirective_router_eq_error_iff.mp h
        exact .router hline hwords
      | response =>
        obtain ⟨hpieces, rfl⟩ := readResponse_eq_error_iff.mp (map_eq_error_iff.mp h)
        exact .response hline hpieces
    · exact nomatch h
  · rintro (⟨hline, hwords⟩ | ⟨hline, hpieces⟩)
    · rw [ofLine, hline]
      exact map_eq_error_iff.mpr (ofDirective_router_eq_error_iff.mpr ⟨hwords, rfl⟩)
    · rw [ofLine, hline]
      exact map_eq_error_iff.mpr (map_eq_error_iff.mpr
        (readResponse_eq_error_iff.mpr ⟨hpieces, rfl⟩))

theorem exists_ofLine_iff {line : Text} :
    (∃ a, ofLine line = .ok a) ↔ ∀ fault, ¬Breaks line fault := by
  simp only [← ofLine_eq_error_iff]
  constructor
  · rintro ⟨a, ha⟩ fault hfault
    rw [ha] at hfault
    cases hfault
  · exact exists_ok_of_ne_error

/-- A line that is read without fault announces a place exactly when it says one, whose path is then
a word. -/
theorem router?_of_ofLine {line : Text} {a : Option Annotation} (h : ofLine line = .ok a) :
    (∃ path method, a = some (.router path method) ∧ path.IsWord ∧ Locates line) ∨
      a.bind router? = none ∧ ¬Locates line := by
  unfold ofLine at h
  split at h
  · next directive payload hline =>
    have other : directive ≠ .router → ¬Locates line := by
      rintro hne ⟨_, hrouter⟩
      rw [hline, Option.some.injEq, Prod.mk.injEq] at hrouter
      exact hne hrouter.1
    obtain ⟨found, hfound, rfl⟩ := map_eq_ok_iff.mp h
    cases directive with
    | router =>
      rw [ofDirective.eq_def] at hfound
      dsimp only at hfound
      split at hfound
      · next path word hwords =>
        have hpath : path ∈ words payload := hwords ▸ List.mem_cons_self
        cases hfound
        exact .inl ⟨path, _, rfl, isWord_of_mem_words hpath, payload, hline⟩
      · exact nomatch hfound
    | summary | description =>
      cases hfound
      exact .inr ⟨rfl, other (by simp)⟩
    | response =>
      obtain ⟨_, -, rfl⟩ := map_eq_ok_iff.mp hfound
      exact .inr ⟨rfl, other (by simp)⟩
  · next hline =>
    cases h
    refine .inr ⟨rfl, ?_⟩
    rintro ⟨payload, hrouter⟩
    exact nomatch hline.symm.trans hrouter

end Annotation

namespace Route

open Annotation

/-! ### Groups -/

theorem addLine_eq_map (route : Route) (line : Text) :
    addLine route line =
      (ofLine line).map fun a => a.elim route route.annotate := by
  unfold addLine ofLine
  cases ofLine? line with
  | none => rfl
  | some found =>
    obtain ⟨directive, payload⟩ := found
    cases directive with
    | summary | description => rfl
    | router =>
      simp only [addDirective, ofDirective]
      rcases words payload with _ | ⟨_, _ | ⟨_, _ | _⟩⟩ <;> rfl
    | response =>
      simp only [addDirective, ofDirective]
      cases readResponse payload <;> rfl

/-- A group is read line by line, and its route is what the lines say in their order. -/
theorem ofComment_eq_map (lines : List Text) :
    ofComment lines = (lines.mapM ofLine).map fun found =>
      found.foldl (fun route a => a.elim route route.annotate) {} :=
  foldlM_eq_map_mapM addLine_eq_map lines {}

theorem ofComment_eq_error_iff {lines : List Text} {fault : DirectiveFault} :
    ofComment lines = .error fault ↔ ∃ before line after, lines = before ++ line :: after ∧
      (∀ l ∈ before, ∃ a, ofLine l = .ok a) ∧ Breaks line fault := by
  rw [ofComment_eq_map, map_eq_error_iff, mapM_eq_error_iff]
  simp only [ofLine_eq_error_iff]

theorem exists_ofComment_iff {lines : List Text} :
    (∃ route, ofComment lines = .ok route) ↔ ∀ line ∈ lines, ∀ fault, ¬Breaks line fault := by
  have hread : (∃ route, ofComment lines = .ok route) ↔
      ∀ line ∈ lines, ∃ a, ofLine line = .ok a := by
    simp only [ofComment_eq_map, map_eq_ok_iff, mapM_eq_ok_iff, ← exists_forall₂_iff]
    exact ⟨fun ⟨_, found, hfound, _⟩ => ⟨found, hfound⟩,
      fun ⟨found, hfound⟩ => ⟨_, found, hfound, rfl⟩⟩
  rw [hread]
  exact forall₂_congr fun line _ => exists_ofLine_iff

theorem place_of_addLine {route next : Route} {line : Text} (h : addLine route line = .ok next) :
    Locates line ∧ next.path.IsWord ∨
      ¬Locates line ∧ next.path = route.path ∧ next.method = route.method := by
  rw [addLine_eq_map] at h
  obtain ⟨a, ha, rfl⟩ := map_eq_ok_iff.mp h
  rcases router?_of_ofLine ha with ⟨path, method, rfl, hpath, hline⟩ | ⟨hnone, hline⟩
  · exact .inl ⟨hline, hpath⟩
  · refine .inr ⟨hline, ?_⟩
    rcases a with _ | (_ | _ | _ | _)
    · exact ⟨rfl, rfl⟩
    · exact ⟨rfl, rfl⟩
    · exact ⟨rfl, rfl⟩
    · exact ⟨rfl, rfl⟩
    · exact nomatch hnone

theorem place_of_foldlM {lines : List Text} {route last : Route}
    (h : lines.foldlM addLine route = .ok last) :
    (∃ line ∈ lines, Locates line) ∧ last.path.IsWord ∨
      (∀ line ∈ lines, ¬Locates line) ∧ last.path = route.path ∧ last.method = route.method := by
  -- The last line with a place decides, so the rest is asked first.
  induction lines generalizing route with
  | nil =>
    cases h
    exact .inr ⟨List.forall_mem_nil _, rfl, rfl⟩
  | cons line lines ih =>
    rw [List.foldlM_cons] at h
    obtain ⟨next, hnext, hlast⟩ := bind_eq_ok_iff.mp h
    rcases ih hlast with ⟨⟨l, hl, hlocates⟩, hword⟩ | ⟨hnone, hpath, hmethod⟩
    · exact .inl ⟨⟨l, List.mem_cons_of_mem line hl, hlocates⟩, hword⟩
    · rw [hpath, hmethod]
      rcases place_of_addLine hnext with ⟨hlocates, hword⟩ | ⟨hline, hplace⟩
      · exact .inl ⟨⟨line, List.mem_cons_self, hlocates⟩, hword⟩
      · exact .inr ⟨List.forall_mem_cons.mpr ⟨hline, hnone⟩, hplace⟩

theorem isDeclaredBy_eq_true_iff {lines : List Text} :
    isDeclaredBy lines = true ↔ ∃ line ∈ lines, Locates line := by
  rw [isDeclaredBy, List.any_eq_true]
  refine exists_congr fun line => and_congr_right fun _ => ?_
  rw [decide_eq_true_eq, ofFirstWord?_eq_map_ofLine?, Locates]
  simp [Option.map_eq_some_iff]

/-- The route of a group has a path exactly when the filter finds the group, and else it has no
method either. -/
theorem place_of_ofComment {lines : List Text} {route : Route} (h : ofComment lines = .ok route) :
    isDeclaredBy lines = true ∧ route.path.IsWord ∨
      isDeclaredBy lines = false ∧ route.path = [] ∧ route.method = [] := by
  rw [← Bool.not_eq_true, isDeclaredBy_eq_true_iff]
  rcases place_of_foldlM h with hplace | ⟨hnone, hplace⟩
  · exact .inl hplace
  · exact .inr ⟨fun ⟨line, hline, hlocates⟩ => hnone line hline hlocates, hplace⟩

end Route

end RouteDoc
