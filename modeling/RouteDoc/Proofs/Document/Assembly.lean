import RouteDoc.Document.Assembly
import RouteDoc.Proofs.Document.Operation
import RouteDoc.Proofs.Json.Encoding
import RouteDoc.Proofs.Tag.Reader

/-! Assembly goes on behind a route whose models have a fault, as if the route were not there but
for its warning. It stops only at an exact length with too many digits. -/

namespace RouteDoc

namespace Route

/-- The method of a route as documents name it. -/
def verb (route : Route) : Text := Text.toUpper route.method

/-- The method of a route has operations. -/
def IsSupported (route : Route) : Prop := route.verb ∈ httpMethods

instance (route : Route) : Decidable route.IsSupported :=
  inferInstanceAs (Decidable (route.verb ∈ httpMethods))

end Route

namespace Assembly

/-- The operation under a path and a method. -/
def operation? (assembly : Assembly) (path method : Text) : Option Operation :=
  (assembly.paths.get? path).bind (Entries.get? method)

/-- The operation that a route gives to a path and a method, when they are its own. -/
def given? (catalog : Catalog) (path method : Text) (route : Route) : Option Operation :=
  if route.IsSupported ∧ Path.sanitize route.path = path ∧ route.verb = method then
    (Operation.ofRoute catalog Rule.standard route).toOption
  else none

/-- What one more route makes of an assembly: a warning, or an operation in its place. -/
inductive Adds (catalog : Catalog) (assembly : Assembly) (route : Route) : Assembly → Prop
  | unsupported : ¬route.IsSupported →
    Adds catalog assembly route (assembly.warn (.unsupported route.method route.path))
  | skipped {fault : SchemaFault} : route.IsSupported →
    Operation.ofRoute catalog Rule.standard route = .error (.schema fault) →
    Adds catalog assembly route (assembly.warn (.skipped route.verb route.path fault))
  | put {operation : Operation} : route.IsSupported →
    Operation.ofRoute catalog Rule.standard route = .ok operation →
    Adds catalog assembly route (assembly.put (Path.sanitize route.path) route.verb operation)

variable {catalog : Catalog} {assembly next : Assembly} {route : Route}

theorem add_of_isSupported (h : route.IsSupported) : assembly.add catalog route =
    match Operation.ofRoute catalog Rule.standard route with
    | .ok operation => .ok (assembly.put (Path.sanitize route.path) route.verb operation)
    | .error (.schema fault) => .ok (assembly.warn (.skipped route.verb route.path fault))
    | .error failure => .error failure := by
  have hmem : httpMethods.contains (Text.toUpper route.method) = true :=
    List.contains_iff_mem.mpr h
  unfold add
  dsimp only
  rw [if_pos hmem]
  rfl

theorem add_of_not_isSupported (h : ¬route.IsSupported) : assembly.add catalog route =
    .ok (assembly.warn (.unsupported route.method route.path)) := by
  have hmem : ¬httpMethods.contains (Text.toUpper route.method) = true :=
    fun hmem => h (List.contains_iff_mem.mp hmem)
  unfold add
  dsimp only
  rw [if_neg hmem]

theorem add_eq_ok_iff :
    assembly.add catalog route = .ok next ↔ Adds catalog assembly route next := by
  constructor
  · intro h
    by_cases hs : route.IsSupported
    · rw [add_of_isSupported hs] at h
      split at h
      · next operation hop =>
        cases h
        exact .put hs hop
      · next fault hfault =>
        cases h
        exact .skipped hs hfault
      · exact nomatch h
    · rw [add_of_not_isSupported hs] at h
      cases h
      exact .unsupported hs
  · rintro (hs | ⟨hs, hfault⟩ | ⟨hs, hop⟩)
    · exact add_of_not_isSupported hs
    · rw [add_of_isSupported hs, hfault]
    · rw [add_of_isSupported hs, hop]

/-- Adding a route fails only with an overlong number in it. -/
theorem exists_add_eq_error_iff :
    (∃ failure, assembly.add catalog route = .error failure) ↔
      route.IsSupported ∧ ∃ digits, route.Overruns catalog Rule.standard digits := by
  simp only [← Operation.ofRoute_eq_oversized_iff]
  constructor
  · rintro ⟨failure, h⟩
    by_cases hs : route.IsSupported
    · rw [add_of_isSupported hs] at h
      refine ⟨hs, ?_⟩
      split at h
      · exact nomatch h
      · exact nomatch h
      · next e notFault he =>
        cases e with
        | schema fault => exact absurd rfl (notFault fault)
        | oversized digits => exact ⟨digits, he⟩
    · rw [add_of_not_isSupported hs] at h
      exact nomatch h
  · rintro ⟨hs, digits, h⟩
    refine ⟨.oversized digits, ?_⟩
    rw [add_of_isSupported hs, h]

theorem addAll_cons (h : assembly.add catalog route = .ok next) (routes : List Route) :
    addAll catalog assembly (route :: routes) = addAll catalog next routes := by
  rw [addAll, h]

/-- What one route keeps holds of every run that returns. -/
@[elab_as_elim]
theorem addAll_induction {motive : Assembly → List Route → Prop}
    (nil : ∀ assembly, motive assembly [])
    (cons : ∀ assembly route next routes, assembly.add catalog route = .ok next →
      motive next routes → motive assembly (route :: routes))
    (assembly : Assembly) (routes : List Route)
    (returns : (addAll catalog assembly routes).2 = none) : motive assembly routes := by
  induction routes generalizing assembly with
  | nil => exact nil assembly
  | cons route routes ih =>
    cases h : assembly.add catalog route with
    | error failure => simp [addAll, h] at returns
    | ok next =>
      rw [addAll_cons h] at returns
      exact cons assembly route next routes h (ih next returns)

/-- Assembly returns exactly when no route that is supported meets an overlong number. -/
theorem addAll_returns_iff {routes : List Route} :
    (addAll catalog assembly routes).2 = none ↔ ∀ route ∈ routes, route.IsSupported →
      ∀ digits, ¬route.Overruns catalog Rule.standard digits := by
  induction routes generalizing assembly with
  | nil => simp [addAll]
  | cons route routes ih =>
    rw [List.forall_mem_cons]
    cases h : assembly.add catalog route with
    | error failure =>
      have hroute := exists_add_eq_error_iff.mp ⟨failure, h⟩
      obtain ⟨hs, digits, hoverruns⟩ := hroute
      simp only [addAll, h, reduceCtorEq, false_iff]
      exact fun hall => hall.1 hs digits hoverruns
    | ok next =>
      rw [addAll_cons h, ih]
      refine ⟨fun hrest => ⟨fun hs digits hoverruns => ?_, hrest⟩, fun hall => hall.2⟩
      obtain ⟨failure, herror⟩ := exists_add_eq_error_iff.mpr ⟨hs, digits, hoverruns⟩
      exact nomatch h.symm.trans herror

theorem addAll_append {before after : List Route}
    (returns : (addAll catalog assembly before).2 = none) :
    addAll catalog assembly (before ++ after) =
      addAll catalog (addAll catalog assembly before).1 after := by
  refine addAll_induction (fun _ => rfl) ?_ assembly before returns
  intro assembly route next before h ih
  rw [List.cons_append, addAll_cons h, addAll_cons h, ih]

theorem put_paths (path method : Text) (operation : Operation) :
    (assembly.put path method operation).paths =
      assembly.paths.put path (((assembly.paths.get? path).getD []).put method operation) := by
  unfold put
  dsimp only
  split <;> rfl

theorem operation?_put (path method path' method' : Text) (operation : Operation) :
    (assembly.put path method operation).operation? path' method' =
      if path = path' ∧ method = method' then some operation
      else assembly.operation? path' method' := by
  unfold operation?
  rw [put_paths, Entries.get?_put]
  by_cases hp : path = path'
  · subst hp
    simp only [if_true, Option.bind_some, Entries.get?_put, true_and]
    cases assembly.paths.get? path <;> rfl
  · simp [hp]

/-- Under a path and a method stands what the added route gives to them, or else what was there. -/
theorem Adds.operation?_eq (h : Adds catalog assembly route next) (path method : Text) :
    next.operation? path method =
      (given? catalog path method route).or (assembly.operation? path method) := by
  unfold given?
  cases h with
  | unsupported hs => simp [hs, warn, operation?]
  | skipped hs hfault => simp [hfault, Except.toOption, warn, operation?]
  | put hs hop =>
    rw [operation?_put]
    simp only [hs, hop, true_and, Except.toOption]
    split <;> rfl

theorem operation?_addAll {routes : List Route} (path method : Text)
    (returns : (addAll catalog assembly routes).2 = none) :
    (addAll catalog assembly routes).1.operation? path method =
      (routes.reverse.findSome? (given? catalog path method)).or
        (assembly.operation? path method) := by
  refine addAll_induction (fun _ => rfl) ?_ assembly routes returns
  intro assembly route next routes h ih
  rw [addAll_cons h, ih, (add_eq_ok_iff.mp h).operation?_eq path method, List.reverse_cons,
    List.findSome?_append, Option.or_assoc]
  simp

/-- The same paths behind earlier warnings. -/
def behind (earlier : List Warning) (assembly : Assembly) : Assembly :=
  { assembly with warnings := earlier ++ assembly.warnings }

theorem eq_behind (assembly : Assembly) :
    assembly = behind assembly.warnings { paths := assembly.paths } := by
  simp [behind]

theorem warn_behind (earlier : List Warning) (assembly : Assembly) (warning : Warning) :
    (assembly.behind earlier).warn warning = (assembly.warn warning).behind earlier := by
  simp [behind, warn]

theorem put_behind (earlier : List Warning) (assembly : Assembly) (path method : Text)
    (operation : Operation) :
    (assembly.behind earlier).put path method operation =
      (assembly.put path method operation).behind earlier := by
  unfold put
  rw [warn_behind]
  dsimp only [behind]
  split <;> rfl

/-- No route looks at the warnings before it. -/
theorem add_behind (earlier : List Warning) (assembly : Assembly) (route : Route) :
    (assembly.behind earlier).add catalog route =
      (assembly.add catalog route).map (behind earlier) := by
  by_cases hs : route.IsSupported
  · rw [add_of_isSupported hs, add_of_isSupported hs]
    split
    · rw [put_behind]
      rfl
    · rw [warn_behind]
      rfl
    · rfl
  · rw [add_of_not_isSupported hs, add_of_not_isSupported hs, warn_behind]
    rfl

theorem addAll_behind (earlier : List Warning) (assembly : Assembly) (routes : List Route) :
    addAll catalog (assembly.behind earlier) routes =
      ((addAll catalog assembly routes).1.behind earlier, (addAll catalog assembly routes).2) := by
  induction routes generalizing assembly with
  | nil => rfl
  | cons route routes ih =>
    cases h : assembly.add catalog route with
    | error failure => simp [addAll, add_behind, h, Except.map]
    | ok next =>
      have hbehind : (assembly.behind earlier).add catalog route = .ok (next.behind earlier) := by
        rw [add_behind, h]
        rfl
      rw [addAll_cons h, addAll_cons hbehind, ih]

/-- A route with a fault in its models leaves the paths as they are without it, and its warning
among the others. -/
theorem addAll_skipped {before after : List Route} {fault : SchemaFault}
    (returns : (addAll catalog assembly before).2 = none) (supported : route.IsSupported)
    (skipped : Operation.ofRoute catalog Rule.standard route = .error (.schema fault)) :
    (addAll catalog assembly (before ++ route :: after)).1.paths =
      (addAll catalog assembly (before ++ after)).1.paths ∧
    ∃ later, (addAll catalog assembly (before ++ after)).1.warnings =
        (addAll catalog assembly before).1.warnings ++ later ∧
      (addAll catalog assembly (before ++ route :: after)).1.warnings =
        (addAll catalog assembly before).1.warnings ++
          .skipped route.verb route.path fault :: later := by
  rw [addAll_append returns, addAll_append returns,
    addAll_cons (add_eq_ok_iff.mpr (.skipped supported skipped))]
  -- Both runs go on from the same paths, with other warnings before them.
  generalize (addAll catalog assembly before).1 = reached
  obtain ⟨paths, warnings⟩ := reached
  have hwithout : addAll catalog ⟨paths, warnings⟩ after =
      addAll catalog (behind warnings ⟨paths, []⟩) after := by rw [← eq_behind ⟨paths, warnings⟩]
  have hwith : addAll catalog (warn ⟨paths, warnings⟩ (.skipped route.verb route.path fault))
      after = addAll catalog
        (behind (warnings ++ [.skipped route.verb route.path fault]) ⟨paths, []⟩) after := by
    simp [warn, behind]
  rw [hwithout, hwith, addAll_behind, addAll_behind]
  refine ⟨rfl, _, rfl, ?_⟩
  simp [behind]

/-- Assembly returns exactly when no route with a supported method meets an exact length with too
many digits. Then the operation under each path and method is that of the last route that gives one
to them, and a route whose models have a fault is left out: the paths are those without it, and so
are the warnings, but for its own. -/
theorem ofRoutes_returns_iff (catalog : Catalog) (routes : List Route) :
    ((ofRoutes catalog routes).2 = none ↔ ∀ route ∈ routes, route.IsSupported →
      ∀ digits, ¬route.Overruns catalog Rule.standard digits) ∧
    ((ofRoutes catalog routes).2 = none →
      (∀ path method, (ofRoutes catalog routes).1.operation? path method =
        routes.reverse.findSome? (given? catalog path method)) ∧
      ∀ before route after fault, routes = before ++ route :: after → route.IsSupported →
        Operation.ofRoute catalog Rule.standard route = .error (.schema fault) →
        (ofRoutes catalog routes).1.paths = (ofRoutes catalog (before ++ after)).1.paths ∧
        ∃ later, (ofRoutes catalog (before ++ after)).1.warnings =
            (ofRoutes catalog before).1.warnings ++ later ∧
          (ofRoutes catalog routes).1.warnings = (ofRoutes catalog before).1.warnings ++
            .skipped route.verb route.path fault :: later) := by
  refine ⟨addAll_returns_iff, fun returns => ⟨fun path method => ?_, ?_⟩⟩
  · rw [ofRoutes, operation?_addAll path method returns]
    exact Option.or_none
  · rintro before route after fault rfl supported skipped
    have hall := addAll_returns_iff.mp returns
    have hbefore : (ofRoutes catalog before).2 = none :=
      addAll_returns_iff.mpr fun r hr => hall r (List.mem_append_left _ hr)
    exact addAll_skipped hbefore supported skipped

/-- The tags of a name whose exact length has `n` digits. -/
def labelPairs (n : Nat) : List Tag.Written :=
  [⟨0, "json".toList, Json.Literal.encode "name".toList, "name".toList, by simp,
      List.all_eq_true.mp rfl, Json.Literal.decode?_encode _⟩,
    ⟨1, "validate".toList, Json.Literal.encode ("required,len=".toList ++ List.replicate n '1'),
      "required,len=".toList ++ List.replicate n '1', by simp, List.all_eq_true.mp rfl,
      Json.Literal.decode?_encode _⟩]

/-- A model with one name whose exact length has `n` digits. -/
def labels (n : Nat) : Catalog :=
  [⟨"Label".toList, .plain,
    [⟨"name".toList, .ofClass .str, Tag.Written.textOf (labelPairs n) 0⟩], []⟩]

/-- A route that answers with a label. -/
def labelRoute : Route :=
  { path := "/label".toList, method := "GET".toList,
    responses := [("200".toList, { body := .ref "Label".toList })] }

/-- A route that asks for nothing and answers nothing. -/
def plainRoute : Route := { path := "/plain".toList, method := "GET".toList }

theorem labelPairs_tags (n : Nat) : (labelPairs n).map Tag.Written.tag =
    [⟨"json".toList, "name".toList, []⟩,
      ⟨"validate".toList, "required".toList, ["len=".toList ++ List.replicate n '1']⟩] := by
  have hfree : ∀ m, Text.cutWhen (· == ',') (List.replicate m '1') = (List.replicate m '1', []) :=
    fun m => by
      induction m with
      | zero => rfl
      | succ m ih => simp [List.replicate_succ, Text.cutWhen, ih]
  have hvalue : Text.cutWhen (· == ',') ("required,len=".toList ++ List.replicate n '1') =
      ("required".toList, ["len=".toList ++ List.replicate n '1']) := by
    have hcut := hfree n
    simp [Text.cutWhen, hcut]
  simp only [labelPairs, List.map_cons, List.map_nil, Tag.Written.tag, Tag.ofValue, hvalue]
  rfl

theorem isOverlong_ones {n : Nat} (h : Failure.digitLimit < n) :
    Rule.IsOverlong ("len=".toList ++ List.replicate n '1') n := by
  have hdigits : ∀ m, (List.replicate m '1').mapM Text.digitValue? = some (List.replicate m 1) :=
    fun m => by
      induction m with
      | zero => rfl
      | succ m ih =>
        rw [List.replicate_succ, List.mapM_cons, ih]
        rfl
  obtain ⟨m, rfl⟩ : ∃ m, n = m + 1 := ⟨n - 1, by omega⟩
  refine ⟨_, false, List.replicate (m + 1) 1, rfl, ?_, List.length_replicate, h⟩
  have hall := hdigits (m + 1)
  rw [List.replicate_succ] at hall ⊢
  have hsign : Numeral.cutSign ('1' :: List.replicate m '1') =
      (false, '1' :: List.replicate m '1') := rfl
  rw [Numeral.integer?, hsign]
  dsimp only
  rw [hall]
  rfl

theorem labelRoute_overruns {n : Nat} (h : Failure.digitLimit < n) :
    labelRoute.Overruns (labels n) Rule.standard n := by
  have htags : FieldTags.ofField ⟨"name".toList, .ofClass .str, Tag.Written.textOf (labelPairs n) 0⟩
      = .ok ((labelPairs n).map Tag.Written.tag) := by
    rw [FieldTags.ofField, Tag.Written.parse_textOf]
  rw [labelPairs_tags] at htags
  refine .inr ⟨⟨[], rfl⟩, [], _, _, [], rfl, by simp, "Label".toList, rfl, ?_⟩
  refine @Synthesis.Overruns.constraint _ _ _ _ [] [] _ _ _ rfl (by simp) htags rfl rfl rfl
    ⟨by decide, [], _, [], rfl, by simp, isOverlong_ones h⟩

/-- A length of 4301 digits in one route keeps every other out of the document. -/
theorem ofRoutes_stops :
    (∃ operation, Operation.ofRoute (labels 4301) Rule.standard plainRoute = .ok operation) ∧
      ofRoutes (labels 4301) [labelRoute, plainRoute] = ({}, some (.oversized 4301)) := by
  have hlabel : Operation.ofRoute (labels 4301) Rule.standard labelRoute =
      .error (.oversized 4301) :=
    Operation.ofRoute_eq_oversized_iff.mpr (labelRoute_overruns (by decide))
  have hadd : add (labels 4301) {} labelRoute = .error (.oversized 4301) := by
    rw [add_of_isSupported (by decide), hlabel]
  refine ⟨⟨_, rfl⟩, ?_⟩
  rw [ofRoutes, addAll, hadd]

end Assembly

end RouteDoc
