import Mathlib.Data.List.ReduceOption
import RouteDoc.Proofs.Document.Accepted

/-! No route disappears without a warning. Every route of a list adds one operation or one warning
to what the routes before it have made, so that operations and warnings together are as many as the
routes, and each warning is that of one route. -/

namespace RouteDoc

/-- Counted as a whole, entries lose what stood under a key and gain what is put there. -/
theorem Entries.length_flatMap_put {κ β γ : Type} [DecidableEq κ] (parts : β → List γ) (key : κ)
    (value : β) (entries : Entries κ β) :
    ((put key value entries).flatMap fun e => parts e.2).length +
        ((get? key entries).map fun old => (parts old).length).getD 0 =
      (entries.flatMap fun e => parts e.2).length + (parts value).length := by
  induction entries with
  | nil => simp [put, get?]
  | cons e rest ih =>
    by_cases h : e.1 = key
    · simp only [put, get?, h, if_true, List.flatMap_cons, List.length_append, Option.map_some,
        Option.getD_some]
      omega
    · simp only [put, get?, h, if_false, List.flatMap_cons, List.length_append]
      omega

theorem Entries.length_put {κ β : Type} [DecidableEq κ] (key : κ) (value : β)
    (entries : Entries κ β) :
    (put key value entries).length + (get? key entries).toList.length = entries.length + 1 := by
  have hcount := length_flatMap_put (fun old : β => [old]) key value entries
  have hlength : ∀ entries : Entries κ β,
      (entries.flatMap fun e => [e.2]).length = entries.length := fun entries => by simp
  rw [hlength, hlength] at hcount
  cases hfound : get? key entries <;> simpa [hfound] using hcount

namespace Assembly

/-- How many operations stand under all paths together. -/
def operationCount (assembly : Assembly) : Nat := (assembly.paths.flatMap fun e => e.2).length

variable (catalog : Catalog)

/-- What a route leaves in the log when it is read behind others: that it is left out, and why; that
it takes the place of an accepted one before it; or nothing, where its place was free. -/
inductive Logs (before : List Route) (route : Route) : Option Warning → Prop
  | unsupported : ¬route.IsSupported →
    Logs before route (some (.unsupported route.method route.path))
  | skipped {fault : SchemaFault} : route.IsSupported →
    Operation.ofRoute catalog Rule.standard route = .error (.schema fault) →
    Logs before route (some (.skipped route.verb route.path fault))
  | replaced {earlier : Route} : route.IsAccepted catalog → earlier ∈ accepted catalog before →
    earlier.target = route.target → earlier.verb = route.verb →
    Logs before route (some (.replaced route.verb route.target))
  | placed : route.IsAccepted catalog →
    (∀ earlier ∈ accepted catalog before,
      ¬(earlier.target = route.target ∧ earlier.verb = route.verb)) → Logs before route none

variable {catalog} {assembly next : Assembly} {route : Route} {before after routes : List Route}

/-- An operation that takes the place of another leaves a warning. -/
theorem put_warnings (path method : Text) (operation : Operation) :
    (assembly.put path method operation).warnings = assembly.warnings ++
      ((assembly.operation? path method).map fun _ => Warning.replaced method path).toList := by
  have hplace : ((assembly.paths.get? path).getD []).has method =
      (assembly.operation? path method).isSome := by
    unfold operation?
    cases assembly.paths.get? path <;> rfl
  unfold put
  dsimp only
  rw [hplace]
  cases assembly.operation? path method
  · simp
  · rfl

/-- An operation that takes the place of another does not add to their number. -/
theorem operationCount_put (path method : Text) (operation : Operation) :
    (assembly.put path method operation).operationCount +
      (assembly.operation? path method).toList.length = assembly.operationCount + 1 := by
  have hsum := Entries.length_flatMap_put (fun item : PathItem => item) path
    (((assembly.paths.get? path).getD []).put method operation) assembly.paths
  have hitem := Entries.length_put method operation ((assembly.paths.get? path).getD [])
  rw [operationCount, operationCount, put_paths, operation?]
  cases hpath : assembly.paths.get? path with
  | none =>
    simp only [hpath, Option.getD_none, Option.map_none] at hsum hitem
    simp only [Option.getD_none, Option.bind_none, Option.toList_none, List.length_nil]
    simp only [Entries.get?, Option.toList_none, List.length_nil] at hitem
    omega
  | some item =>
    simp only [hpath, Option.getD_some, Option.map_some] at hsum hitem
    simp only [Option.getD_some, Option.bind_some]
    omega

/-- A place is taken when an accepted route before has it. -/
theorem isSome_operation?_iff {path method : Text}
    (returns : (ofRoutes catalog before).2 = none) :
    ((ofRoutes catalog before).1.operation? path method).isSome = true ↔
      ∃ earlier ∈ accepted catalog before, earlier.target = path ∧ earlier.verb = method := by
  rw [Option.isSome_iff_exists]
  constructor
  · rintro ⟨operation, h⟩
    obtain ⟨front, earlier, back, hsplit, htarget, hverb, -, -⟩ :=
      (operation?_ofRoutes_eq_some_iff returns).mp h
    exact ⟨earlier, by simp [hsplit], htarget, hverb⟩
  · rintro ⟨earlier, hmem, htarget, hverb⟩
    rw [ofRoutes, operation?_addAll path method returns, ← Option.isSome_iff_exists,
      Option.isSome_or, List.findSome?_isSome_iff.mpr, Bool.true_or]
    obtain ⟨operation, hop⟩ := exists_operation returns hmem
    obtain ⟨hearlier, hsupported, -⟩ := mem_accepted.mp hmem
    refine ⟨earlier, List.mem_reverse.mpr hearlier, ?_⟩
    rw [given?_eq_some_iff.mpr ⟨hsupported, htarget, hverb, hop⟩]
    rfl

/-- One more route is one more operation or one more warning, and the warning is its own. -/
theorem Adds.logs (returns : (ofRoutes catalog before).2 = none)
    (h : Adds catalog (ofRoutes catalog before).1 route next) :
    ∃ log, Logs catalog before route log ∧
      next.warnings = (ofRoutes catalog before).1.warnings ++ log.toList ∧
      next.operationCount + log.toList.length =
        (ofRoutes catalog before).1.operationCount + 1 := by
  cases h with
  | unsupported hs => exact ⟨_, .unsupported hs, rfl, rfl⟩
  | skipped hs hfault => exact ⟨_, .skipped hs hfault, rfl, rfl⟩
  | @put operation hs hop =>
    have haccepted : route.IsAccepted catalog := ⟨hs, fun _ => by simp [hop]⟩
    rw [put_warnings]
    have hcount := @operationCount_put (ofRoutes catalog before).1 (Path.sanitize route.path)
      route.verb operation
    have hplace := @isSome_operation?_iff _ _ (Path.sanitize route.path) route.verb returns
    cases htaken : (ofRoutes catalog before).1.operation? (Path.sanitize route.path) route.verb with
    | none =>
      rw [htaken] at hcount hplace
      refine ⟨none, .placed haccepted fun earlier hmem hsame => ?_, rfl, hcount⟩
      exact nomatch hplace.mpr ⟨earlier, hmem, hsame⟩
    | some taken =>
      rw [htaken] at hcount hplace
      obtain ⟨earlier, hmem, htarget, hverb⟩ := hplace.mp rfl
      exact ⟨_, .replaced haccepted hmem htarget hverb, rfl, hcount⟩

theorem ofRoutes_returns_of_append (returns : (ofRoutes catalog (before ++ after)).2 = none) :
    (ofRoutes catalog before).2 = none :=
  addAll_returns_iff.mpr fun route hmem =>
    addAll_returns_iff.mp returns route (List.mem_append_left after hmem)

/-- Assembly that returns has added its last route to what the others have made. -/
theorem adds_of_ofRoutes_append_singleton
    (returns : (ofRoutes catalog (before ++ [route])).2 = none) :
    Adds catalog (ofRoutes catalog before).1 route (ofRoutes catalog (before ++ [route])).1 := by
  have hrun : ofRoutes catalog (before ++ [route]) =
      addAll catalog (ofRoutes catalog before).1 [route] :=
    addAll_append (ofRoutes_returns_of_append returns)
  rw [hrun] at returns ⊢
  cases hadd : (ofRoutes catalog before).1.add catalog route with
  | error failure => simp [addAll, hadd] at returns
  | ok next =>
    rw [addAll_cons hadd]
    exact add_eq_ok_iff.mp hadd

/-- The log of a list of routes: one item for each route, that of the route behind those before. -/
structure LogsAll (catalog : Catalog) (routes : List Route) (logs : List (Option Warning)) :
    Prop where
  length : logs.length = routes.length
  each : ∀ before route after, routes = before ++ route :: after →
    ∃ log, logs[before.length]? = some log ∧ Logs catalog before route log

theorem LogsAll.append_singleton {logs : List (Option Warning)} {log : Option Warning}
    (h : LogsAll catalog routes logs) (hlog : Logs catalog routes route log) :
    LogsAll catalog (routes ++ [route]) (logs ++ [log]) := by
  obtain ⟨hlength, hlogs⟩ := h
  refine ⟨by simp [hlength], fun before other after hsplit => ?_⟩
  rcases List.eq_nil_or_concat after with rfl | ⟨after, last, rfl⟩
  · obtain ⟨rfl, hroute⟩ := List.append_inj' hsplit rfl
    obtain rfl := List.singleton_inj.mp hroute
    exact ⟨log, by simp [← hlength], hlog⟩
  · rw [List.concat_eq_append, ← List.cons_append, ← List.append_assoc] at hsplit
    obtain ⟨rfl, -⟩ := List.append_inj' hsplit rfl
    obtain ⟨found, hfound, hother⟩ := hlogs before other after rfl
    have hlt := (List.getElem?_eq_some_iff.mp hfound).1
    exact ⟨found, by rw [List.getElem?_append_left hlt, hfound], hother⟩

/-- No route disappears without a warning. Where assembly returns, it returns for every list that
the routes begin with, and the routes of the list are as many as the operations and the warnings it
makes together. The warnings are those of the routes in order, at most one for each: that the route
is left out, or that it takes the place of an accepted one before it with its path and method. -/
theorem ofRoutes_conserves (catalog : Catalog) (routes : List Route)
    (returns : (ofRoutes catalog routes).2 = none) :
    ∃ logs, LogsAll catalog routes logs ∧ ∀ before, before <+: routes →
      (ofRoutes catalog before).2 = none ∧
      (ofRoutes catalog before).1.warnings = (logs.take before.length).reduceOption ∧
      before.length = (ofRoutes catalog before).1.operationCount +
        (ofRoutes catalog before).1.warnings.length := by
  induction routes using List.reverseRecOn with
  | nil =>
    refine ⟨[], ⟨rfl, by simp⟩, fun before hprefix => ?_⟩
    obtain rfl := List.prefix_nil.mp hprefix
    exact ⟨rfl, rfl, rfl⟩
  | append_singleton routes route ih =>
    have returns' := ofRoutes_returns_of_append returns
    obtain ⟨logs, hlogs, hbefore⟩ := ih returns'
    obtain ⟨log, hlog, hwarnings, hcount⟩ :=
      (adds_of_ofRoutes_append_singleton returns).logs returns'
    refine ⟨logs ++ [log], hlogs.append_singleton hlog, fun before hprefix => ?_⟩
    obtain ⟨-, hwarnings', hcount'⟩ := hbefore routes (List.prefix_refl routes)
    rw [← hlogs.length, List.take_length] at hwarnings'
    rcases List.prefix_concat_iff.mp hprefix with rfl | hprefix
    · refine ⟨returns, ?_, ?_⟩
      · rw [← (hlogs.append_singleton hlog).length, List.take_length, List.reduceOption_append,
          List.reduceOption_singleton, hwarnings, hwarnings']
      · rw [hwarnings, List.length_append, List.length_append, List.length_singleton]
        omega
    · obtain ⟨hreturns, hwarned, hlength⟩ := hbefore before hprefix
      have hle : before.length ≤ logs.length := hlogs.length ▸ hprefix.length_le
      exact ⟨hreturns, by rw [List.take_append_of_le_length hle]; exact hwarned, hlength⟩

/-- Of five routes two have operations, one replaces one of these, and two are left out. -/
theorem itemRoutes_conserved : (ofRoutes unnamedItem itemRoutes).2 = none ∧
    (ofRoutes unnamedItem itemRoutes).1.operationCount = 2 ∧
    (ofRoutes unnamedItem itemRoutes).1.warnings.length = 3 ∧
    ∃ logs, LogsAll unnamedItem itemRoutes logs := by
  have returns : (ofRoutes unnamedItem itemRoutes).2 = none := by rfl
  obtain ⟨logs, hlogs, hbefore⟩ := ofRoutes_conserves unnamedItem itemRoutes returns
  obtain ⟨-, -, hlength⟩ := hbefore itemRoutes (List.prefix_refl itemRoutes)
  have hcount : (ofRoutes unnamedItem itemRoutes).1.operationCount = 2 := by rfl
  refine ⟨returns, hcount, ?_, logs, hlogs⟩
  rw [hcount] at hlength
  exact (Nat.add_left_cancel hlength).symm

end Assembly

end RouteDoc
