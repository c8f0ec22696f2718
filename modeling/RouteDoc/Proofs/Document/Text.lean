import RouteDoc.Proofs.Document.Value
import RouteDoc.Proofs.Json.Finite
import RouteDoc.Proofs.Number.Overflow
import RouteDoc.Proofs.Parameter.WellFormed
import RouteDoc.Proofs.Schema.Bound

/-! The text of a document. It is read back as the document whatever numbers the schemas have, but
it is JSON only when they are finite. -/

namespace RouteDoc

open Json

variable {catalog : Catalog} {rules : List Rule}

theorem Bound.ComesFrom.isData {b : Bound} (h : b.ComesFrom catalog) : IsData b.toJson := by
  cases h with
  | unsigned => trivial
  | field _ _ hwrites =>
    obtain ⟨rule, text, -, -, hx⟩ := hwrites
    exact Numeral.canonical_of_float? hx

/-- What a route says about its responses is data: the statuses differ, documents have a form for
all headers, and these are objects in which names differ and numbers are finite. -/
structure Route.IsData (route : Route) : Prop where
  statuses : (Entries.keys route.responses).Nodup
  written : ∀ e ∈ route.responses, e.2.foreign = []
  headers : ∀ e ∈ route.responses,
    Json.WellFormed (.object e.2.headers) ∧ Json.Finite (.object e.2.headers)

namespace Operation

variable {route : Route} {operation : Operation}

theorem distinct_of_ofRoute (h : ofRoute catalog rules route = .ok operation)
    (data : route.IsData) : operation.Distinct := by
  obtain ⟨hkeys, hresponses⟩ := responses_of_ofRoute h
  refine ⟨hkeys ▸ data.statuses, fun e he => ?_⟩
  obtain ⟨given, hgiven, schema, -, hentry⟩ := hresponses e he
  rw [← hentry]
  exact ⟨by simp [data.written given hgiven, Entries.keys], List.nodup_singleton _⟩

theorem headers_of_ofRoute (h : ofRoute catalog rules route = .ok operation)
    (data : route.IsData) : ∀ headers ∈ operation.headers, headers.WellFormed ∧ headers.Finite := by
  refine List.forall_mem_map.mpr fun e he => ?_
  obtain ⟨given, hgiven, schema, -, hentry⟩ := (responses_of_ofRoute h).2 e he
  rw [← hentry]
  exact data.headers given hgiven

/-- What synthesis keeps holds at every node of the schemas of an operation. -/
theorem throughout_of_ofRoute {P : Schema → Prop} (keeps : Synthesis.Keeps catalog rules P)
    (h : ofRoute catalog rules route = .ok operation) :
    ∀ s ∈ operation.schemas, s.Throughout P := by
  refine List.forall_mem_append.mpr ⟨List.forall_mem_map.mpr ?_, ?_⟩
  · obtain ⟨parameters, hparameters, h⟩ := bind_eq_ok_iff.mp h
    obtain ⟨responses, -, h⟩ := bind_eq_ok_iff.mp h
    cases h
    exact Extraction.throughout_of_parametersOf keeps hparameters
  · refine List.forall_mem_flatMap.mpr fun e he => List.forall_mem_map.mpr ?_
    obtain ⟨given, -, schema, hschema, hentry⟩ := (responses_of_ofRoute h).2 e he
    rw [← hentry]
    exact List.forall_mem_singleton.mpr (keeps.throughout_of_schemaOf hschema)

end Operation

namespace Document

variable {config : Config} {routes : List Route}

/-- The document of a configuration and routes. -/
def ofRoutes (config : Config) (catalog : Catalog) (routes : List Route) : Document :=
  ⟨config, (Assembly.ofRoutes catalog routes).1.paths⟩

theorem exists_route_of_mem {operation : Operation}
    (returns : (Assembly.ofRoutes catalog routes).2 = none)
    (h : operation ∈ (ofRoutes config catalog routes).operations) :
    ∃ route ∈ routes, Operation.ofRoute catalog Rule.standard route = .ok operation := by
  obtain ⟨⟨path, item⟩, hitem, h⟩ := List.mem_flatMap.mp h
  obtain ⟨⟨method, operation⟩, hentry, rfl⟩ := List.mem_map.mp h
  obtain ⟨route, hroute, -, -, hoperation⟩ := Assembly.exists_route_of_mem returns hitem hentry
  exact ⟨route, hroute, hoperation⟩

theorem distinct_ofRoutes (returns : (Assembly.ofRoutes catalog routes).2 = none)
    (data : ∀ route ∈ routes, route.IsData) : (ofRoutes config catalog routes).Distinct := by
  refine ⟨Assembly.nodup_keys_ofRoutes returns, fun ⟨path, item⟩ hitem => ⟨?_, ?_⟩⟩
  · have hkeys : Entries.keys (item.map fun e => (Text.toLowerAscii e.1, e.2)) =
        (Entries.keys item).map Text.toLowerAscii := by simp [Entries.keys]
    have hnodup : (Entries.keys item).Nodup := by
      rw [Assembly.keys_item returns hitem]
      exact nodup_eraseDups _
    have hmethods : ∀ method ∈ Entries.keys item, method ∈ httpMethods :=
      List.forall_mem_map.mpr fun e he => (Assembly.isAssembled_of_mem returns hitem e he).1
    rw [hkeys]
    exact hnodup.map_on fun x hx y hy =>
      toLowerAscii_injective_of_httpMethods x (hmethods x hx) y (hmethods y hy)
  · rintro ⟨method, operation⟩ hentry
    obtain ⟨route, hroute, -, -, hoperation⟩ := Assembly.exists_route_of_mem returns hitem hentry
    exact Operation.distinct_of_ofRoute hoperation (data route hroute)

theorem headers_ofRoutes (returns : (Assembly.ofRoutes catalog routes).2 = none)
    (data : ∀ route ∈ routes, route.IsData) :
    ∀ headers ∈ (ofRoutes config catalog routes).headers, headers.WellFormed ∧ headers.Finite := by
  refine List.forall_mem_flatMap.mpr fun operation hmem => ?_
  obtain ⟨route, hroute, hoperation⟩ := exists_route_of_mem returns hmem
  exact Operation.headers_of_ofRoute hoperation (data route hroute)

theorem bounded_ofRoutes (returns : (Assembly.ofRoutes catalog routes).2 = none) :
    ∀ s ∈ (ofRoutes config catalog routes).schemas, s.Throughout (Schema.Bounded catalog) := by
  refine List.forall_mem_flatMap.mpr fun operation hmem => ?_
  obtain ⟨route, -, hoperation⟩ := exists_route_of_mem returns hmem
  exact Operation.throughout_of_ofRoute Synthesis.keeps_bounded hoperation

/-- A property holds throughout the value of a document of routes when it holds of the bounds. -/
theorem every_ofRoutes_iff {P : Json → Prop} (plain : Plain P)
    (returns : (Assembly.ofRoutes catalog routes).2 = none)
    (data : ∀ route ∈ routes, route.IsData)
    (hheaders : ∀ h ∈ (ofRoutes config catalog routes).headers, Every P h) :
    Every P (ofRoutes config catalog routes).toJson ↔
      ∀ s ∈ (ofRoutes config catalog routes).schemas,
        s.Throughout fun node => ∀ b ∈ node.bounds, P b.toJson := by
  rw [every_toJson_iff plain (distinct_ofRoutes returns data), and_iff_right hheaders]
  refine forall₂_congr fun s hs => Schema.every_toJson_iff plain fun node hnode => ?_
  exact (bounded_ofRoutes returns s hs node hnode).distinct

theorem wellFormed_ofRoutes (returns : (Assembly.ofRoutes catalog routes).2 = none)
    (data : ∀ route ∈ routes, route.IsData) :
    (ofRoutes config catalog routes).toJson.WellFormed := by
  refine (every_ofRoutes_iff plain_isData returns data fun h hh => ?_).mpr ?_
  · exact (headers_ofRoutes returns data h hh).1
  · intro s hs node hnode b hb
    exact ((bounded_ofRoutes returns s hs node hnode).bounds b hb).isData

theorem isText_ofRoutes_iff (layout : Layout)
    (returns : (Assembly.ofRoutes catalog routes).2 = none)
    (data : ∀ route ∈ routes, route.IsData) :
    IsText ((ofRoutes config catalog routes).toJson.render layout) ↔
      ∀ s ∈ (ofRoutes config catalog routes).schemas,
        s.Throughout fun node => ∀ b ∈ node.bounds, b.toJson.IsFinite := by
  rw [isText_render_iff layout (wellFormed_ofRoutes returns data)]
  exact every_ofRoutes_iff plain_isFinite returns data fun h hh =>
    (headers_ofRoutes returns data h hh).2

/-- The text of a document is read back as the document, and it is JSON exactly when every bound in
its schemas is finite. The bounds that are no whole numbers are written by options of fields, and an
option whose text is read as a number writes one that is not finite exactly when the text names
infinity, no number, or a decimal from the overflow on. -/
theorem isText_toJson_iff (config : Config) (catalog : Catalog) (routes : List Route)
    (layout : Layout) (returns : (Assembly.ofRoutes catalog routes).2 = none)
    (data : ∀ route ∈ routes, route.IsData) :
    let document := ofRoutes config catalog routes
    (IsText (document.toJson.render layout) ↔ ∀ s ∈ document.schemas, s.Throughout fun node =>
      ∀ b ∈ node.bounds, b.toJson.IsFinite) ∧
    parse? (document.toJson.render layout) = some document.toJson ∧
    (∀ s ∈ document.schemas, s.Throughout fun node => ∀ b ∈ node.bounds, b.ComesFrom catalog) ∧
    ∀ text x, Numeral.float? text = some x → (x.isFinite = false ↔ Numeral.IsBoundless text) := by
  refine ⟨isText_ofRoutes_iff layout returns data,
    parse?_render layout (wellFormed_ofRoutes returns data), fun s hs node hnode => ?_,
    fun text x hx => Numeral.isFinite_eq_false_iff hx⟩
  exact (bounded_ofRoutes returns s hs node hnode).bounds

/-- A model of an amount whose value goes up to what a text names. -/
def amounts (most : String) : Catalog :=
  [⟨"Amount".toList, .plain, [⟨"value".toList, .ofClass .float,
    "json:\"value\" validate:\"required,max=".toList ++ most.toList ++ ['"']⟩], []⟩]

/-- A route that answers with an amount. -/
def amountRoute : Route :=
  { path := "/amount".toList, method := "GET".toList,
    responses := [("200".toList, { body := .ref "Amount".toList })] }

/-- The schema of amounts up to a number. -/
def amountSchema (most : Binary64) : Schema :=
  { type := .object
    properties := [("value".toList, { type := .number, maximum := some (.real most) })]
    required := ["value".toList] }

theorem isData_amountRoute : ∀ route ∈ [amountRoute], route.IsData :=
  List.forall_mem_singleton.mpr
    ⟨List.nodup_singleton _, List.forall_mem_singleton.mpr rfl, List.forall_mem_singleton.mpr
      ⟨plain_isData.every_empty, plain_isFinite.every_empty⟩⟩

theorem throughout_amountSchema {Q : Bound → Prop} {most : Binary64} :
    ((amountSchema most).Throughout fun node => ∀ b ∈ node.bounds, Q b) ↔ Q (.real most) := by
  constructor
  · intro h
    have hchild : (amountSchema most).Child { type := .number, maximum := some (.real most) } :=
      .property List.mem_cons_self
    exact ((Schema.throughout_iff.mp h).2 _ hchild _ .refl) (.real most) List.mem_cons_self
  · intro h
    refine Schema.throughout_iff.mpr ⟨List.forall_mem_nil _, ?_⟩
    rintro child (hchild | hchild)
    · exact nomatch hchild
    · obtain ⟨-, rfl⟩ := Prod.mk.inj (List.mem_singleton.mp hchild)
      exact Schema.throughout_of_bare (List.forall_mem_singleton.mpr h) rfl rfl

theorem isText_of_hundred :
    (Assembly.ofRoutes (amounts "100") [amountRoute]).2 = none ∧
      (∀ route ∈ [amountRoute], route.IsData) ∧
      IsText ((ofRoutes {} (amounts "100") [amountRoute]).toJson.render (some 2)) := by
  have returns : (Assembly.ofRoutes (amounts "100") [amountRoute]).2 = none := by rfl
  have hschemas : (ofRoutes {} (amounts "100") [amountRoute]).schemas =
      [amountSchema (.ofDecimal false 100 0)] := by rfl
  refine ⟨returns, isData_amountRoute, ?_⟩
  have htext := (isText_toJson_iff {} (amounts "100") [amountRoute] (some 2) returns
    isData_amountRoute).1
  rw [htext, hschemas, List.forall_mem_singleton, throughout_amountSchema]
  have hbelow : 100 < Binary64.overflow := by decide +kernel
  refine (Binary64.isFinite_ofDecimal_iff false 100 0).mpr ?_
  rw [Binary64.decimalValue, zpow_zero, mul_one]
  exact_mod_cast hbelow

/-- The word for infinity is taken for a bound, and the text of the document is no JSON. -/
theorem not_isText_of_infinity :
    (Assembly.ofRoutes (amounts "inf") [amountRoute]).2 = none ∧
      (∀ route ∈ [amountRoute], route.IsData) ∧
      ¬IsText ((ofRoutes {} (amounts "inf") [amountRoute]).toJson.render (some 2)) := by
  have returns : (Assembly.ofRoutes (amounts "inf") [amountRoute]).2 = none := by rfl
  have hschemas : (ofRoutes {} (amounts "inf") [amountRoute]).schemas =
      [amountSchema (.infinite false)] := by rfl
  refine ⟨returns, isData_amountRoute, ?_⟩
  rw [isText_ofRoutes_iff (some 2) returns isData_amountRoute, hschemas,
    List.forall_mem_singleton, throughout_amountSchema]
  exact Bool.false_ne_true

end Document

end RouteDoc
