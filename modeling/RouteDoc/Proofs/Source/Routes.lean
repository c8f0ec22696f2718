import RouteDoc.Proofs.Route.Reading
import RouteDoc.Source.Discovery

/-! The routes of a source text. Every comment group is read, and those that declare a route give
one, in their order; a line at fault stops the reading wherever it stands. -/

namespace RouteDoc.Source

open Directive

/-- What a group gives: its route if one of its lines is read as the place of one, or nothing. In
either case all its lines are read. -/
inductive Gives (group : Group) : List Route → Prop
  | route {route : Route} : Route.ofComment group.lines = .ok route →
    (∃ line ∈ group.lines, Locates line) → Gives group [route]
  | nothing {route : Route} : Route.ofComment group.lines = .ok route →
    (∀ line ∈ group.lines, ¬Locates line) → Gives group []

/-- A line of one of the groups is at fault, whether its group declares a route or not. -/
def IsAtFault (groups : List Group) (fault : DirectiveFault) : Prop :=
  ∃ group ∈ groups, ∃ line ∈ group.lines, Breaks line fault

theorem gives_of_ofComment {group : Group} {route : Route}
    (h : Route.ofComment group.lines = .ok route) :
    Gives group (if Route.isDeclaredBy group.lines then [route] else []) := by
  split
  · next hdeclared => exact .route h (Route.isDeclaredBy_eq_true_iff.mp hdeclared)
  · next hdeclared =>
    refine .nothing h fun line hline hlocates => hdeclared ?_
    exact Route.isDeclaredBy_eq_true_iff.mpr ⟨line, hline, hlocates⟩

theorem Gives.isWord {group : Group} {part : List Route} (h : Gives group part) :
    ∀ route ∈ part, route.path.IsWord := by
  cases h with
  | nothing _ _ => exact List.forall_mem_nil _
  | route hroute hlocates =>
    refine List.forall_mem_singleton.mpr ?_
    rcases Route.place_of_ofComment hroute with ⟨-, hword⟩ | ⟨hnone, -⟩
    · exact hword
    · exact nomatch hnone.symm.trans (Route.isDeclaredBy_eq_true_iff.mpr hlocates)

theorem routesOf_cons (group : Group) (groups : List Group) :
    routesOf (group :: groups) = Route.ofComment group.lines >>= fun route =>
      (routesOf groups).map
        ((if Route.isDeclaredBy group.lines then [route] else []) ++ ·) := by
  unfold routesOf
  rw [List.mapM_cons]
  cases Route.ofComment group.lines with
  | error fault => rfl
  | ok route =>
    cases groups.mapM fun g => (Route.ofComment g.lines).map (Route.isDeclaredBy g.lines, ·) with
    | error fault => rfl
    | ok found =>
      simp only [Except.map, bind, Except.bind, pure, Except.pure, List.filter_cons]
      split <;> rfl

theorem routesOf_eq_ok {groups : List Group} {found : List Route}
    (h : routesOf groups = .ok found) :
    ∃ parts, List.Forall₂ Gives groups parts ∧ found = parts.flatten := by
  induction groups generalizing found with
  | nil =>
    cases h
    exact ⟨[], .nil, rfl⟩
  | cons group groups ih =>
    rw [routesOf_cons, bind_eq_ok_iff] at h
    obtain ⟨route, hroute, h⟩ := h
    obtain ⟨rest, hrest, rfl⟩ := map_eq_ok_iff.mp h
    obtain ⟨parts, hparts, rfl⟩ := ih hrest
    exact ⟨_ :: parts, .cons (gives_of_ofComment hroute) hparts, rfl⟩

theorem routesOf_eq_error {groups : List Group} {fault : DirectiveFault}
    (h : routesOf groups = .error fault) : IsAtFault groups fault := by
  induction groups with
  | nil => exact nomatch h
  | cons group groups ih =>
    rw [routesOf_cons, bind_eq_error_iff] at h
    rcases h with h | ⟨route, -, h⟩
    · obtain ⟨before, line, after, hlines, -, hbreaks⟩ := Route.ofComment_eq_error_iff.mp h
      exact ⟨group, List.mem_cons_self, line, by simp [hlines], hbreaks⟩
    · obtain ⟨g, hg, hfault⟩ := ih (map_eq_error_iff.mp h)
      exact ⟨g, List.mem_cons_of_mem group hg, hfault⟩

theorem not_isAtFault_of_routesOf {groups : List Group} {found : List Route}
    (h : routesOf groups = .ok found) (fault : DirectiveFault) : ¬IsAtFault groups fault := by
  rintro ⟨group, hgroup, line, hline, hbreaks⟩
  obtain ⟨parts, hparts, -⟩ := routesOf_eq_ok h
  obtain ⟨part, hpart⟩ := exists_forall₂_iff.mp ⟨parts, hparts⟩ group hgroup
  have hread : ∃ route, Route.ofComment group.lines = .ok route := by
    cases hpart with
    | route hroute _ | nothing hroute _ => exact ⟨_, hroute⟩
  exact Route.exists_ofComment_iff.mp hread line hline fault hbreaks

theorem routesNamed_eq {t : Text} {groups : List Group} (h : groups? t = some groups)
    (name : Text) :
    routesNamed name t =
      (routesOf groups).mapError fun fault => ⟨name, .source (.directive fault)⟩ := by
  simp only [routesNamed, routes, h]
  cases routesOf groups <;> rfl

/-- The filter of comment groups agrees with their reader, although each finds the directive of a
line by itself. Where a group is read, the filter takes it exactly when the route has a path, and a
route without one has no method either. So a route of a source text has a word as its path, each
group gives one route exactly when one of its lines is read as a place, and the routes stand in the
order of their groups; and a line at fault in any group, with a place or without one, makes the
whole source fail under its name, which nothing else does once the groups are found. -/
theorem routesNamed_of_filter :
    (∀ lines route, Route.ofComment lines = .ok route →
      (Route.isDeclaredBy lines = true ↔ route.path ≠ []) ∧
      (Route.isDeclaredBy lines = false → route.path = [] ∧ route.method = [])) ∧
    (∀ name t found, routesNamed name t = .ok found →
      (∀ route ∈ found, route.path.IsWord) ∧
      ∃ groups parts, groups? t = some groups ∧ List.Forall₂ Gives groups parts ∧
        found = parts.flatten) ∧
    ∀ name t groups, groups? t = some groups →
      (∀ fault, IsAtFault groups fault → ∃ first, IsAtFault groups first ∧
        routesNamed name t = .error ⟨name, .source (.directive first)⟩) ∧
      ((∀ fault, ¬IsAtFault groups fault) → ∃ found, routesNamed name t = .ok found) := by
  refine ⟨fun lines route h => ?_, fun name t found h => ?_, fun name t groups hgroups => ?_⟩
  · rcases Route.place_of_ofComment h with ⟨htrue, hword⟩ | ⟨hfalse, hplace⟩
    · simp [htrue, hword.nonempty]
    · simp [hfalse, hplace]
  · cases hgroups : groups? t with
    | none => simp [routesNamed, routes, hgroups, Except.mapError] at h
    | some groups =>
      rw [routesNamed_eq hgroups] at h
      cases hroutes : routesOf groups with
      | error fault => simp [hroutes, Except.mapError] at h
      | ok routes =>
        obtain rfl : routes = found := by simpa [hroutes, Except.mapError] using h
        obtain ⟨parts, hparts, rfl⟩ := routesOf_eq_ok hroutes
        refine ⟨fun route hmem => ?_, groups, parts, rfl, hparts, rfl⟩
        obtain ⟨part, hpart, hmem⟩ := List.mem_flatten.mp hmem
        obtain ⟨group, -, hgives⟩ := exists_mem_of_forall₂ hparts hpart
        exact hgives.isWord route hmem
  · rw [routesNamed_eq hgroups]
    cases hroutes : routesOf groups with
    | error first =>
      have hfirst := routesOf_eq_error hroutes
      exact ⟨fun _ _ => ⟨first, hfirst, rfl⟩, fun hnone => absurd hfirst (hnone first)⟩
    | ok found =>
      have hnone := not_isAtFault_of_routesOf hroutes
      exact ⟨fun fault hfault => absurd hfault (hnone fault), fun _ => ⟨found, rfl⟩⟩

/-- A route, and behind it a comment with half a response. -/
def handlers : Text := "## @ROUTER /a  [get]\n\n# @response 200\n".toList

theorem groups?_handlers : groups? handlers =
    some [⟨1, ["## @ROUTER /a  [get]".toList]⟩, ⟨3, ["# @response 200".toList]⟩] := by
  have hcomments : comments? handlers = some [⟨1, "## @ROUTER /a  [get]".toList, true⟩,
      ⟨3, "# @response 200".toList, true⟩] := by rfl
  have hstatements : Grammar.statements? handlers = some [] := by rfl
  have hblocks : ∀ first second : Text, Group.ofComments [⟨1, first, true⟩, ⟨3, second, true⟩] =
      [⟨1, [first]⟩, ⟨3, [second]⟩] := fun _ _ => rfl
  have hsorted : ∀ first second : List Text, inOrder [⟨1, first⟩, ⟨3, second⟩] =
      [⟨1, first⟩, ⟨3, second⟩] := fun _ _ => List.mergeSort_of_pairwise (by simp)
  have hdocumented : Docstring.ofModule [] = [] := rfl
  rw [groups?, hcomments, hstatements]
  show some (inOrder (Group.ofComments _ ++ Docstring.ofModule [])) = _
  rw [hblocks, hdocumented, List.append_nil, hsorted]

theorem routesNamed_handlers :
    Route.isDeclaredBy ["## @ROUTER /a  [get]".toList] = true ∧
    ∃ first, routesNamed "a.py".toList handlers =
      .error ⟨"a.py".toList, .source (.directive first)⟩ := by
  obtain ⟨filter, -, faults⟩ := routesNamed_of_filter
  have hroute : Route.ofComment ["## @ROUTER /a  [get]".toList] =
      .ok { path := "/a".toList, method := "GET".toList } := by rfl
  have hbreaks : Breaks "# @response 200".toList (.response "200".toList) :=
    .response (by decide) (by decide)
  obtain ⟨first, -, herror⟩ := (faults "a.py".toList _ _ groups?_handlers).1 _
    ⟨⟨3, ["# @response 200".toList]⟩, by simp, _, List.mem_singleton_self _, hbreaks⟩
  exact ⟨(filter _ _ hroute).1.mpr (by decide), first, herror⟩

end RouteDoc.Source
