import RouteDoc.Proofs.Document.Accepted
import RouteDoc.Proofs.Schema.Composition
import RouteDoc.Proofs.Schema.Rendering

/-! The paths of a document are rendered without loss. The default value of a parameter is written
in its schema only, and extraction puts it there; methods are written in lower case, and assembly
has only those whose lower cases differ. -/

namespace RouteDoc

open Json

/-- A function that tells apart the items with a property tells apart lists of such items. -/
theorem eq_of_map_eq_map {α β : Type} {f : α → β} {P : α → Prop}
    (inj : ∀ x y, P x → P y → f x = f y → x = y) {xs ys : List α} (hxs : ∀ x ∈ xs, P x)
    (hys : ∀ y ∈ ys, P y) (h : xs.map f = ys.map f) : xs = ys := by
  induction xs generalizing ys with
  | nil => exact (List.map_eq_nil_iff.mp h.symm).symm
  | cons x xs ih =>
    cases ys with
    | nil => exact nomatch h
    | cons y ys =>
      obtain ⟨hx, hxs⟩ := List.forall_mem_cons.mp hxs
      obtain ⟨hy, hys⟩ := List.forall_mem_cons.mp hys
      obtain ⟨hhead, htail⟩ := List.cons.inj h
      rw [inj x y hx hy hhead, ih hxs hys htail]

/-- Objects in which the entries of lists stand under their names are the same for one list only. -/
theorem eq_of_entries_eq_entries {β : Type} {f : β → Json} (inj : ∀ a b, f a = f b → a = b)
    {entries others : Entries Text β}
    (h : object (entries.map fun (name, b) => (name, f b)) =
      object (others.map fun (name, b) => (name, f b))) : entries = others := by
  refine List.map_injective_iff.mpr (fun x y hxy => ?_) (object.inj h)
  obtain ⟨hname, hvalue⟩ := Prod.mk.inj hxy
  exact Prod.ext hname (inj _ _ hvalue)

theorem Location.word_injective {a b : Location} (h : a.word = b.word) : a = b := by
  cases a <;> cases b <;> first | rfl | exact absurd h (by decide)

namespace Parameter

/-- The default value of a parameter is that of its schema. -/
def Mirrors (p : Parameter) : Prop := p.fallback = p.schema.fallback

/-- The names of the members of a parameter. -/
def memberNames : List Text :=
  ["name", "in", "description", "required", "example", "schema"].map String.toList

/-- The values of the members of a parameter. -/
def memberValues (p : Parameter) : List (Option Json) :=
  [some (.string p.name), some (.string p.location.word), unlessEmpty .string p.description,
    flag p.required, p.sample.map .string, some p.schema.toJson]

theorem toJson_eq_present (p : Parameter) :
    p.toJson = .object (present memberNames p.memberValues) := by
  unfold toJson
  cases hrequired : p.required <;>
    simp [memberNames, memberValues, present, Schema.textMember_eq, Schema.optionalMember_eq,
      flag, member, hrequired]

theorem toJson_injective {p q : Parameter} (hp : p.Mirrors) (hq : q.Mirrors)
    (h : p.toJson = q.toJson) : p = q := by
  rw [toJson_eq_present, toJson_eq_present] at h
  have hvalues := present_injective (by decide) rfl rfl (object.inj h)
  simp only [memberValues, List.cons.injEq, Option.some.injEq, and_true] at hvalues
  obtain ⟨hname, hlocation, hdescription, hrequired, hsample, hschema⟩ := hvalues
  have hschema := Schema.toJson_injective _ _ hschema
  have hfallback : p.fallback = q.fallback := by rw [hp, hq, hschema]
  cases p
  cases q
  congr
  · exact string.inj hname
  · exact Location.word_injective (string.inj hlocation)
  · exact flag_injective hrequired
  · exact string.inj (render_eq_of_unlessEmpty_eq hdescription)
  · exact Option.map_injective (fun _ _ h => string.inj h) hsample

end Parameter

/-! ### The default value of a parameter -/

namespace Synthesis

variable {catalog : Catalog} {rules : List Rule}

theorem fallback_of_schemaOfModel {name : Text} {schema : Schema}
    (h : schemaOfModel catalog rules name = .ok schema) : schema.fallback = none := by
  obtain ⟨fields, shares, -, -, rfl⟩ := schemaOfModel_eq_ok_iff.mp h
  rw [Share.collect_eq]
  rfl

theorem fallback_of_schemaOf {type : TypeExpr} {schema : Schema}
    (h : schemaOf catalog rules type = .ok schema) : schema.fallback = none := by
  rw [schemaOf_eq] at h
  cases hform : type.describe catalog with
  | primitive p =>
    rw [hform] at h
    cases h
    unfold Primitive.schema
    split <;> rfl
  | composite name =>
    rw [hform] at h
    exact fallback_of_schemaOfModel h
  | sequence element =>
    rw [hform] at h
    obtain ⟨items, -, h⟩ := bind_eq_ok_iff.mp h
    cases h
    rfl
  | mapping | unclassified =>
    rw [hform] at h
    cases h
    rfl

end Synthesis

namespace Extraction

variable {catalog : Catalog} {rules : List Rule}

/-- The schema of a type has no default value of its own, so that of a parameter is only what its
tags say. -/
theorem mirrors_of_parameter {field : Field} {tags : FieldTags} {location : Location}
    {name : Text} {p : Parameter} (h : parameter catalog rules field tags location name = .ok p) :
    p.Mirrors := by
  obtain ⟨schema, hschema, rfl⟩ := parameter_eq_ok_iff.mp h
  obtain ⟨plain, hplain, hrules⟩ := bind_eq_ok_iff.mp hschema
  have hnone : schema.fallback = none := by
    rw [Rule.constrains_of_applyAll hrules]
    show plain.fallback = none
    exact Synthesis.fallback_of_schemaOf hplain
  show tags.name? Tag.Key.default = (tags.name? Tag.Key.default).or schema.fallback
  rw [hnone, Option.or_none]

theorem mirrors_of_parametersOf {type : TypeExpr} {parameters : List Parameter}
    (h : parametersOf catalog rules type = .ok parameters) : ∀ p ∈ parameters, p.Mirrors := by
  intro p hp
  rcases parametersOf_eq_ok h with rfl | ⟨name, -, h⟩
  · exact nomatch hp
  · obtain ⟨field, tags, location, name, -, hparameter⟩ := exists_field_of_mem h hp
    exact mirrors_of_parameter hparameter

end Extraction

/-! ### Responses and operations -/

theorem Foreign.toJson_injective {value other : Foreign} (h : value.toJson = other.toJson) :
    value = other := by
  cases value
  cases other
  simpa [toJson] using h

namespace ResponseEntry

/-- The JSON object of the headers whose values documents have no form for. -/
def foreignJson (foreign : List (Text × Foreign)) : Json :=
  .object (foreign.map fun (name, value) => (name, value.toJson))

theorem foreignJson_injective {foreign other : List (Text × Foreign)}
    (h : foreignJson foreign = foreignJson other) : foreign = other :=
  eq_of_entries_eq_entries (fun _ _ => Foreign.toJson_injective) h

/-- The JSON object of content. -/
def contentJson (content : Entries Text Schema) : Json :=
  .object (content.map fun (type, schema) => (type, .object [member "schema" schema.toJson]))

theorem contentJson_injective {content other : Entries Text Schema}
    (h : contentJson content = contentJson other) : content = other := by
  have hsingle : ∀ s t : Schema, object [member "schema" s.toJson] =
      object [member "schema" t.toJson] → s = t := fun s t hobject =>
    Schema.toJson_injective s t (Prod.mk.inj (List.cons.inj (object.inj hobject)).1).2
  exact eq_of_entries_eq_entries hsingle h

/-- The names of the members of a response. -/
def memberNames : List Text :=
  ["description", "headers", "foreign", "content"].map String.toList

/-- The values of the members of a response. -/
def memberValues (r : ResponseEntry) : List (Option Json) :=
  [some (.string r.description), unlessEmpty .object r.headers, unlessEmpty foreignJson r.foreign,
    unlessEmpty contentJson r.content]

theorem toJson_eq_present (r : ResponseEntry) :
    r.toJson = .object (present memberNames r.memberValues) := by
  unfold toJson
  cases hheaders : r.headers <;> cases hforeign : r.foreign <;> cases hcontent : r.content <;>
    simp [memberNames, memberValues, present, unlessEmpty, foreignJson, contentJson, member,
      hheaders, hforeign, hcontent]

theorem toJson_injective {r s : ResponseEntry} (h : r.toJson = s.toJson) : r = s := by
  rw [toJson_eq_present, toJson_eq_present] at h
  have hvalues := present_injective (by decide) rfl rfl (object.inj h)
  simp only [memberValues, List.cons.injEq, Option.some.injEq, and_true] at hvalues
  obtain ⟨hdescription, hheaders, hforeign, hcontent⟩ := hvalues
  cases r
  cases s
  congr
  · exact string.inj hdescription
  · exact object.inj (render_eq_of_unlessEmpty_eq hheaders)
  · exact foreignJson_injective (render_eq_of_unlessEmpty_eq hforeign)
  · exact contentJson_injective (render_eq_of_unlessEmpty_eq hcontent)

end ResponseEntry

namespace Operation

/-- The default value of every parameter is that of its schema. -/
def Mirrors (o : Operation) : Prop := ∀ p ∈ o.parameters, p.Mirrors

/-- The JSON object of responses. -/
def responsesJson (responses : Entries Text ResponseEntry) : Json :=
  .object (responses.map fun (status, response) => (status, response.toJson))

theorem responsesJson_injective {responses others : Entries Text ResponseEntry}
    (h : responsesJson responses = responsesJson others) : responses = others :=
  eq_of_entries_eq_entries (fun _ _ => ResponseEntry.toJson_injective) h

/-- The names of the members of an operation. -/
def memberNames : List Text :=
  ["tags", "summary", "description", "operationId", "parameters", "responses", "deprecated"].map
    String.toList

/-- The values of the members of an operation. -/
def memberValues (o : Operation) : List (Option Json) :=
  [unlessEmpty strings o.tags, unlessEmpty .string o.summary, unlessEmpty .string o.description,
    unlessEmpty .string o.operationId,
    unlessEmpty (fun ps => .array (ps.map Parameter.toJson)) o.parameters,
    some (responsesJson o.responses), flag o.deprecated]

theorem toJson_eq_present (o : Operation) :
    o.toJson = .object (present memberNames o.memberValues) := by
  unfold toJson
  cases hparameters : o.parameters <;> cases hdeprecated : o.deprecated <;>
    simp [memberNames, memberValues, present, Schema.textMember_eq, Schema.listMember_eq,
      unlessEmpty, responsesJson, flag, member, hparameters, hdeprecated]

theorem toJson_injective {o u : Operation} (ho : o.Mirrors) (hu : u.Mirrors)
    (h : o.toJson = u.toJson) : o = u := by
  rw [toJson_eq_present, toJson_eq_present] at h
  have hvalues := present_injective (by decide) rfl rfl (object.inj h)
  simp only [memberValues, List.cons.injEq, Option.some.injEq, and_true] at hvalues
  obtain ⟨htags, hsummary, hdescription, hid, hparameters, hresponses, hdeprecated⟩ := hvalues
  have hrendered := render_eq_of_unlessEmpty_eq hparameters
  cases o
  cases u
  congr
  · exact strings_injective (render_eq_of_unlessEmpty_eq htags)
  · exact string.inj (render_eq_of_unlessEmpty_eq hid)
  · exact string.inj (render_eq_of_unlessEmpty_eq hsummary)
  · exact string.inj (render_eq_of_unlessEmpty_eq hdescription)
  · exact flag_injective hdeprecated
  · exact eq_of_map_eq_map (fun _ _ => Parameter.toJson_injective) ho hu (array.inj hrendered)
  · exact responsesJson_injective hresponses

theorem mirrors_of_ofRoute {catalog : Catalog} {rules : List Rule} {route : Route}
    {operation : Operation} (h : ofRoute catalog rules route = .ok operation) :
    operation.Mirrors := by
  obtain ⟨parameters, hparameters, h⟩ := bind_eq_ok_iff.mp h
  obtain ⟨responses, -, h⟩ := bind_eq_ok_iff.mp h
  cases h
  exact Extraction.mirrors_of_parametersOf hparameters

end Operation

/-! ### Paths -/

theorem toLowerAscii_injective_of_httpMethods : ∀ method ∈ httpMethods, ∀ other ∈ httpMethods,
    Text.toLowerAscii method = Text.toLowerAscii other → method = other := by
  decide

/-- The operations of a path stand under methods that have operations, and mirror default values. -/
def PathItem.IsAssembled (item : PathItem) : Prop :=
  ∀ entry ∈ item, entry.1 ∈ httpMethods ∧ entry.2.Mirrors

theorem PathItem.toJson_injective {item other : PathItem} (hitem : item.IsAssembled)
    (hother : other.IsAssembled) (h : item.toJson = other.toJson) : item = other := by
  refine eq_of_map_eq_map (fun x y hx hy hxy => ?_) hitem hother (object.inj h)
  obtain ⟨hmethod, hoperation⟩ := Prod.mk.inj hxy
  exact Prod.ext (toLowerAscii_injective_of_httpMethods _ hx.1 _ hy.1 hmethod)
    (Operation.toJson_injective hx.2 hy.2 hoperation)

namespace Assembly

theorem isAssembled_of_mem {catalog : Catalog} {routes : List Route} {path : Text}
    {item : PathItem} (returns : (ofRoutes catalog routes).2 = none)
    (hitem : (path, item) ∈ (ofRoutes catalog routes).1.paths) : item.IsAssembled := by
  rintro ⟨method, operation⟩ hentry
  obtain ⟨route, -, hsupported, rfl, hoperation⟩ := exists_route_of_mem returns hitem hentry
  exact ⟨hsupported, Operation.mirrors_of_ofRoute hoperation⟩

/-- Rendering loses nothing. Schemas with one JSON object are one schema; and where the paths that
two lists of routes give have one JSON object, whatever models the routes refer to, they are the
same paths with the same operations, down to the default values of parameters, which are not
written. -/
theorem ofRoutes_rendering_injective :
    (∀ s t : Schema, s.toJson = t.toJson → s = t) ∧
    ∀ (catalog other : Catalog) (routes others : List Route),
      (ofRoutes catalog routes).2 = none → (ofRoutes other others).2 = none →
      (ofRoutes catalog routes).1.toJson = (ofRoutes other others).1.toJson →
      (ofRoutes catalog routes).1.paths = (ofRoutes other others).1.paths := by
  refine ⟨Schema.toJson_injective, fun catalog other routes others hroutes hothers h => ?_⟩
  refine eq_of_map_eq_map (P := fun entry => entry.2.IsAssembled) (fun x y hx hy hxy => ?_)
    (fun _ => isAssembled_of_mem hroutes) (fun _ => isAssembled_of_mem hothers) (object.inj h)
  obtain ⟨hpath, hitem⟩ := Prod.mk.inj hxy
  exact Prod.ext hpath (PathItem.toJson_injective hx hy hitem)

/-- A filter whose word has this tag text. -/
def filters (tag : String) : Catalog :=
  [⟨"Filter".toList, .plain, [⟨"word".toList, .any, tag.toList⟩], []⟩]

/-- The items of an owner that pass a filter, in two spellings. -/
def spellings : (Assembly × Option Failure) × (Assembly × Option Failure) :=
  (ofRoutes (filters "query:\"w\"default:\"a\"")
      [{ path := "/:owner".toList, method := "get".toList, request := .ref "Filter".toList }],
    ofRoutes (filters "default:\"a\" query:\"w\"")
      [{ path := "/\x7bowner\x7d".toList, method := "GET".toList,
         request := .ref "Filter".toList }])

/-- The operation that both say. -/
def filtered : Operation :=
  { parameters := [
      { name := ['w'], location := .query, schema := { type := .object, fallback := some ['a'] },
        fallback := some ['a'] }] }

theorem paths_spellings : spellings.1.2 = none ∧ spellings.2.2 = none ∧
    spellings.1.1.toJson = spellings.2.1.toJson ∧ spellings.1.1.paths = spellings.2.1.paths := by
  have hone : spellings.1 =
      (⟨[("/\x7bowner\x7d".toList, [("GET".toList, filtered)])], []⟩, none) := by rfl
  have hother : spellings.2 =
      (⟨[("/\x7bowner\x7d".toList, [("GET".toList, filtered)])], []⟩, none) := by rfl
  have returns : spellings.1.2 = none ∧ spellings.2.2 = none := by
    rw [hone, hother]
    exact ⟨rfl, rfl⟩
  have hjson : spellings.1.1.toJson = spellings.2.1.toJson := by rw [hone, hother]
  exact ⟨returns.1, returns.2, hjson,
    ofRoutes_rendering_injective.2 _ _ _ _ returns.1 returns.2 hjson⟩

end Assembly

end RouteDoc
