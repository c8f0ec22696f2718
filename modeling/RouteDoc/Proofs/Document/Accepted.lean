import RouteDoc.Proofs.Document.Assembly
import RouteDoc.Proofs.Entries

/-! What a document holds is decided by the routes that are accepted, in their order: assembly is a
fold over them, paths and methods stand where they are first accepted, and under each pair of them
stands the operation of the last route that has it. -/

namespace RouteDoc

/-- A document takes a route up: its method has operations, and its models have no fault. -/
def Route.IsAccepted (catalog : Catalog) (route : Route) : Prop :=
  route.IsSupported ∧ ∀ fault, Operation.ofRoute catalog Rule.standard route ≠
    .error (.schema fault)

instance {α : Type} : (x : Except Failure α) → Decidable (∀ fault, x ≠ .error (.schema fault))
  | .ok _ => isTrue fun _ h => nomatch h
  | .error (.oversized _) => isTrue fun _ h => nomatch h
  | .error (.schema fault) => isFalse fun h => h fault rfl

instance (catalog : Catalog) (route : Route) : Decidable (route.IsAccepted catalog) :=
  inferInstanceAs (Decidable (_ ∧ _))

/-- The path under which a document has a route. -/
def Route.target (route : Route) : Text := Path.sanitize route.path

namespace Assembly

variable (catalog : Catalog)

/-- The routes that a document takes up. -/
def accepted (routes : List Route) : List Route := routes.filter (·.IsAccepted catalog)

/-- Paths with the operation of a route in its place. -/
def place (paths : Entries Text PathItem) (route : Route) : Entries Text PathItem :=
  match Operation.ofRoute catalog Rule.standard route with
  | .ok operation =>
    paths.put route.target (((paths.get? route.target).getD []).put route.verb operation)
  | .error _ => paths

/-- The methods that have an operation under a path. -/
def methods (paths : Entries Text PathItem) (path : Text) : List Text :=
  Entries.keys ((paths.get? path).getD [])

variable {catalog} {assembly next : Assembly} {route : Route} {routes : List Route}

/-- An accepted route puts its operation in its place, and no other route changes the paths. -/
theorem Adds.paths_eq (h : Adds catalog assembly route next) : next.paths =
    if route.IsAccepted catalog then place catalog assembly.paths route else assembly.paths := by
  cases h with
  | unsupported hs => rw [if_neg fun ha => hs ha.1, warn]
  | skipped hs hfault => rw [if_neg fun ha => ha.2 _ hfault, warn]
  | put hs hop =>
    have accepted : route.IsAccepted catalog := ⟨hs, fun _ => by simp [hop]⟩
    rw [if_pos accepted, put_paths, place, hop]
    rfl

/-- Assembly that returns is a fold over the accepted routes. -/
theorem paths_addAll (returns : (addAll catalog assembly routes).2 = none) :
    (addAll catalog assembly routes).1.paths =
      (accepted catalog routes).foldl (place catalog) assembly.paths := by
  refine addAll_induction (fun _ => rfl) ?_ assembly routes returns
  intro assembly route next routes h ih
  rw [addAll_cons h, ih, (add_eq_ok_iff.mp h).paths_eq, accepted, accepted]
  by_cases ha : route.IsAccepted catalog <;> simp [ha]

theorem mem_accepted : route ∈ accepted catalog routes ↔
    route ∈ routes ∧ route.IsAccepted catalog := by
  simp [accepted]

/-- Where assembly returns, every accepted route has an operation. -/
theorem exists_operation (returns : (addAll catalog assembly routes).2 = none)
    (h : route ∈ accepted catalog routes) :
    ∃ operation, Operation.ofRoute catalog Rule.standard route = .ok operation := by
  obtain ⟨hmem, hs, hfault⟩ := mem_accepted.mp h
  refine exists_ok_of_ne_error fun failure hfailure => ?_
  cases failure with
  | schema fault => exact hfault fault hfailure
  | oversized digits =>
    exact addAll_returns_iff.mp returns route hmem hs digits
      (Operation.ofRoute_eq_oversized_iff.mp hfailure)

/-- Whether assembly returns is decided by the accepted routes. -/
theorem addAll_returns_accepted :
    (addAll catalog assembly routes).2 = none ↔
      (addAll catalog assembly (accepted catalog routes)).2 = none := by
  rw [addAll_returns_iff, addAll_returns_iff]
  refine ⟨fun h route hmem => h route (mem_accepted.mp hmem).1, fun h route hmem hs digits ho => ?_⟩
  -- A route at which assembly stops has no fault in its models, so it is among the accepted.
  have hfailure := Operation.ofRoute_eq_oversized_iff.mpr ho
  refine h route (mem_accepted.mpr ⟨hmem, hs, fun fault hfault => ?_⟩) hs digits ho
  exact nomatch hfailure.symm.trans hfault

theorem keys_place {operation : Operation} (paths : Entries Text PathItem)
    (hop : Operation.ofRoute catalog Rule.standard route = .ok operation) :
    Entries.keys (place catalog paths route) = addNew route.target (Entries.keys paths) := by
  rw [place, hop]
  exact Entries.keys_put _ _ _

theorem methods_place {operation : Operation} (paths : Entries Text PathItem) (path : Text)
    (hop : Operation.ofRoute catalog Rule.standard route = .ok operation) :
    methods (place catalog paths route) path =
      if route.target = path then addNew route.verb (methods paths path)
      else methods paths path := by
  rw [methods, place, hop, Entries.get?_put]
  split
  · next h => rw [Option.getD_some, Entries.keys_put, h, methods]
  · rfl

/-- Paths stand in the order in which routes first have them. -/
theorem keys_foldl_place (paths : Entries Text PathItem)
    (hop : ∀ route ∈ routes, ∃ operation,
      Operation.ofRoute catalog Rule.standard route = .ok operation) :
    Entries.keys (routes.foldl (place catalog) paths) =
      (routes.map Route.target).foldl (fun keys key => addNew key keys) (Entries.keys paths) := by
  induction routes generalizing paths with
  | nil => rfl
  | cons route routes ih =>
    obtain ⟨⟨operation, hroute⟩, hrest⟩ := List.forall_mem_cons.mp hop
    rw [List.foldl_cons, ih _ hrest, keys_place paths hroute]
    rfl

/-- Methods of a path stand in the order in which routes to it first have them. -/
theorem methods_foldl_place (paths : Entries Text PathItem) (path : Text)
    (hop : ∀ route ∈ routes, ∃ operation,
      Operation.ofRoute catalog Rule.standard route = .ok operation) :
    methods (routes.foldl (place catalog) paths) path =
      ((routes.filter (·.target = path)).map Route.verb).foldl (fun keys key => addNew key keys)
        (methods paths path) := by
  induction routes generalizing paths with
  | nil => rfl
  | cons route routes ih =>
    obtain ⟨⟨operation, hroute⟩, hrest⟩ := List.forall_mem_cons.mp hop
    rw [List.foldl_cons, ih _ hrest, methods_place paths path hroute, List.filter_cons]
    by_cases h : route.target = path <;> simp [h]

/-- A route gives an operation to a path and a method when these are its own. -/
theorem given?_eq_some_iff {path method : Text} {operation : Operation} :
    given? catalog path method route = some operation ↔
      route.IsSupported ∧ route.target = path ∧ route.verb = method ∧
        Operation.ofRoute catalog Rule.standard route = .ok operation := by
  unfold given?
  cases hop : Operation.ofRoute catalog Rule.standard route with
  | error failure => simp [Except.toOption]
  | ok made =>
    simp only [Except.toOption, Option.ite_none_right_eq_some, Option.some.injEq, Except.ok.injEq,
      Route.target, and_assoc]

theorem given?_eq_none_iff {path method : Text}
    (returns : (addAll catalog assembly routes).2 = none) (h : route ∈ accepted catalog routes) :
    given? catalog path method route = none ↔ ¬(route.target = path ∧ route.verb = method) := by
  obtain ⟨operation, hop⟩ := exists_operation returns h
  rw [Option.eq_none_iff_forall_ne_some]
  simp only [ne_eq, given?_eq_some_iff, hop, (mem_accepted.mp h).2.1, true_and, Except.ok.injEq,
    not_and]
  exact ⟨fun h htarget hverb => h operation htarget hverb rfl,
    fun h _ htarget hverb _ => h htarget hverb⟩

theorem ofRoutes_paths (returns : (ofRoutes catalog routes).2 = none) :
    (ofRoutes catalog routes).1.paths = (accepted catalog routes).foldl (place catalog) [] :=
  paths_addAll returns

theorem accepted_accepted : accepted catalog (accepted catalog routes) =
    accepted catalog routes := by
  simp [accepted, List.filter_filter]

/-- Under a path and a method stands the operation of the last accepted route that has both. -/
theorem operation?_ofRoutes_eq_some_iff {path method : Text} {operation : Operation}
    (returns : (ofRoutes catalog routes).2 = none) :
    (ofRoutes catalog routes).1.operation? path method = some operation ↔
      ∃ before route after, accepted catalog routes = before ++ route :: after ∧
        route.target = path ∧ route.verb = method ∧
        Operation.ofRoute catalog Rule.standard route = .ok operation ∧
        ∀ later ∈ after, ¬(later.target = path ∧ later.verb = method) := by
  have returns' : (ofRoutes catalog (accepted catalog routes)).2 = none :=
    addAll_returns_accepted.mp returns
  have hpaths : (ofRoutes catalog routes).1.paths =
      (ofRoutes catalog (accepted catalog routes)).1.paths := by
    rw [ofRoutes_paths returns, ofRoutes_paths returns', accepted_accepted]
  rw [operation?, hpaths, ← operation?, ofRoutes, operation?_addAll path method returns',
    show operation? {} path method = none from rfl, Option.or_none, findSome?_reverse_eq_some_iff]
  constructor
  · rintro ⟨before, route, after, hsplit, hgiven, hafter⟩
    obtain ⟨-, htarget, hverb, hop⟩ := given?_eq_some_iff.mp hgiven
    refine ⟨before, route, after, hsplit, htarget, hverb, hop, fun later hlater => ?_⟩
    exact (given?_eq_none_iff returns (by simp [hsplit, hlater])).mp (hafter later hlater)
  · rintro ⟨before, route, after, hsplit, htarget, hverb, hop, hafter⟩
    have hmem : route ∈ accepted catalog routes := by simp [hsplit]
    have hgiven := given?_eq_some_iff.mpr ⟨(mem_accepted.mp hmem).2.1, htarget, hverb, hop⟩
    refine ⟨before, route, after, hsplit, hgiven, fun later hlater => ?_⟩
    exact (given?_eq_none_iff returns (by simp [hsplit, hlater])).mpr (hafter later hlater)

theorem keys_ofRoutes (returns : (ofRoutes catalog routes).2 = none) :
    Entries.keys (ofRoutes catalog routes).1.paths =
      ((accepted catalog routes).map Route.target).eraseDups := by
  rw [ofRoutes_paths returns, keys_foldl_place [] fun _ => exists_operation returns]
  exact foldl_addNew_nil _

theorem nodup_keys_ofRoutes (returns : (ofRoutes catalog routes).2 = none) :
    (Entries.keys (ofRoutes catalog routes).1.paths).Nodup := by
  rw [keys_ofRoutes returns]
  exact @nodup_eraseDups Text _ _ _ _

section

variable {path : Text} {item : PathItem} (returns : (ofRoutes catalog routes).2 = none)
  (hitem : (path, item) ∈ (ofRoutes catalog routes).1.paths)
include returns hitem

theorem keys_item : Entries.keys item =
    (((accepted catalog routes).filter (·.target = path)).map Route.verb).eraseDups := by
  have hfound := (Entries.get?_eq_some_iff (nodup_keys_ofRoutes returns)).mpr hitem
  have hmethods : Entries.keys item = methods (ofRoutes catalog routes).1.paths path := by
    rw [methods, hfound, Option.getD_some]
  rw [hmethods, ofRoutes_paths returns,
    methods_foldl_place [] path fun _ => exists_operation returns]
  exact foldl_addNew_nil _

/-- A path is there because an accepted route has it, and then the verb of this route is there. -/
theorem item_ne_nil : item ≠ [] := by
  rintro rfl
  have hpath : path ∈ (accepted catalog routes).map Route.target := by
    rw [← List.mem_eraseDups, ← keys_ofRoutes returns]
    exact List.mem_map_of_mem hitem
  obtain ⟨route, hroute, htarget⟩ := List.mem_map.mp hpath
  have hverb : route.verb ∈ Entries.keys ([] : PathItem) := by
    rw [keys_item returns hitem, List.mem_eraseDups]
    exact List.mem_map_of_mem (List.mem_filter.mpr ⟨hroute, by simp [htarget]⟩)
  exact nomatch hverb

theorem mem_item_iff {method : Text} {operation : Operation} :
    (method, operation) ∈ item ↔
      (ofRoutes catalog routes).1.operation? path method = some operation := by
  have hdistinct : (Entries.keys item).Nodup := by
    rw [keys_item returns hitem]
    exact @nodup_eraseDups Text _ _ _ _
  have hfound := (Entries.get?_eq_some_iff (nodup_keys_ofRoutes returns)).mpr hitem
  rw [operation?, hfound, Option.bind_some, Entries.get?_eq_some_iff hdistinct]

/-- Every operation of a document is that of a route, under its method. -/
theorem exists_route_of_mem {method : Text} {operation : Operation}
    (hentry : (method, operation) ∈ item) :
    ∃ route ∈ routes, route.IsSupported ∧ route.verb = method ∧
      Operation.ofRoute catalog Rule.standard route = .ok operation := by
  obtain ⟨before, route, after, hsplit, -, hverb, hoperation, -⟩ :=
    (operation?_ofRoutes_eq_some_iff returns).mp ((mem_item_iff returns hitem).mp hentry)
  have hroute : route ∈ accepted catalog routes := by simp [hsplit]
  obtain ⟨hmem, hsupported, -⟩ := mem_accepted.mp hroute
  exact ⟨route, hmem, hsupported, hverb, hoperation⟩

end

/-- A document holds exactly what the accepted routes say: their paths in the order of first
acceptance, under each path their methods in that order, and under a path and a method the operation
of the last one that has both. Routes that are not accepted may come and go anywhere. -/
theorem ofRoutes_lastAccepted (catalog : Catalog) (routes : List Route)
    (returns : (ofRoutes catalog routes).2 = none) :
    Entries.keys (ofRoutes catalog routes).1.paths =
      ((accepted catalog routes).map Route.target).eraseDups ∧
    (∀ path item, (path, item) ∈ (ofRoutes catalog routes).1.paths →
      Entries.keys item =
        (((accepted catalog routes).filter (·.target = path)).map Route.verb).eraseDups ∧
      item ≠ [] ∧
      ∀ method operation, (method, operation) ∈ item ↔
        ∃ before route after, accepted catalog routes = before ++ route :: after ∧
          route.target = path ∧ route.verb = method ∧
          Operation.ofRoute catalog Rule.standard route = .ok operation ∧
          ∀ later ∈ after, ¬(later.target = path ∧ later.verb = method)) ∧
    ∀ others, accepted catalog others = accepted catalog routes →
      (ofRoutes catalog others).2 = none ∧
      (ofRoutes catalog others).1.paths = (ofRoutes catalog routes).1.paths := by
  refine ⟨keys_ofRoutes returns, fun path item hitem => ⟨keys_item returns hitem,
    item_ne_nil returns hitem, fun method operation => ?_⟩, fun others hothers => ?_⟩
  · rw [mem_item_iff returns hitem]
    exact operation?_ofRoutes_eq_some_iff returns
  · have returns' : (ofRoutes catalog others).2 = none := by
      rw [ofRoutes, addAll_returns_accepted, hothers]
      exact addAll_returns_accepted.mp returns
    rw [ofRoutes_paths returns', ofRoutes_paths returns, hothers]
    exact ⟨returns', rfl⟩

/-- Two spellings of one path and method, a route to another method, one with no known method, and
one whose model has no name for its field. -/
def itemRoutes : List Route :=
  [{ path := "/items/:id".toList, method := "get".toList, summary := "first".toList },
    { path := "/items/{id}".toList, method := "DELETE".toList },
    { path := "/items".toList, method := "FETCH".toList },
    { path := "/items/{id}".toList, method := "GET".toList, summary := "second".toList },
    { path := "/items/:id".toList, method := "GET".toList,
      responses := [("200".toList, { body := .ref "Item".toList })] }]

/-- A model with a field that has no name. -/
def unnamedItem : Catalog := [⟨"Item".toList, .plain, [⟨"id".toList, .ofClass .int, []⟩], []⟩]

theorem ofRoutes_itemRoutes : (ofRoutes unnamedItem itemRoutes).2 = none ∧
    Entries.keys (ofRoutes unnamedItem itemRoutes).1.paths = ["/items/{id}".toList] ∧
    (ofRoutes unnamedItem itemRoutes).1.paths =
      (ofRoutes unnamedItem (accepted unnamedItem itemRoutes)).1.paths := by
  have returns : (ofRoutes unnamedItem itemRoutes).2 = none := by rfl
  obtain ⟨hkeys, -, hothers⟩ := ofRoutes_lastAccepted unnamedItem itemRoutes returns
  refine ⟨returns, hkeys.trans ?_, (hothers _ accepted_accepted).2.symm⟩
  decide

end Assembly

end RouteDoc
