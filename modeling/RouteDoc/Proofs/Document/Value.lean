import RouteDoc.Document.Basic
import RouteDoc.Proofs.Document.Rendering
import RouteDoc.Proofs.Json.Member

/-! What holds throughout the JSON value of a document: its own members are texts and objects with
distinct names, so that only the headers and schemas in it are left to look at. -/

namespace RouteDoc

open Json

namespace ResponseEntry

/-- The content types of a response differ, and so do the names of the headers whose values
documents have no form for. -/
structure Distinct (r : ResponseEntry) : Prop where
  foreign : (Entries.keys r.foreign).Nodup
  content : (Entries.keys r.content).Nodup

end ResponseEntry

namespace Operation

/-- The responses of an operation differ in their statuses, and in each the names differ. -/
structure Distinct (o : Operation) : Prop where
  statuses : (Entries.keys o.responses).Nodup
  entries : ∀ e ∈ o.responses, e.2.Distinct

/-- The schemas of an operation: those of its parameters and of the content of its responses. -/
def schemas (o : Operation) : List Schema :=
  o.parameters.map Parameter.schema ++ o.responses.flatMap fun e => e.2.content.map (·.2)

/-- The headers of the responses. -/
def headers (o : Operation) : List Json := o.responses.map fun e => .object e.2.headers

end Operation

/-- The methods of a path differ as they are written, and each has an operation with distinct
names. -/
structure PathItem.Distinct (item : PathItem) : Prop where
  methods : (Entries.keys (item.map fun e => (Text.toLowerAscii e.1, e.2))).Nodup
  operations : ∀ e ∈ item, e.2.Distinct

namespace Document

/-- The names in each object of a document differ. -/
structure Distinct (d : Document) : Prop where
  paths : (Entries.keys d.paths).Nodup
  items : ∀ e ∈ d.paths, e.2.Distinct

/-- The operations of a document. -/
def operations (d : Document) : List Operation := d.paths.flatMap fun e => e.2.map (·.2)

/-- The schemas of a document. -/
def schemas (d : Document) : List Schema := d.operations.flatMap Operation.schemas

/-- The headers of a document. -/
def headers (d : Document) : List Json := d.operations.flatMap Operation.headers

/-- The values of the members of a document. -/
def memberValues (d : Document) : List (Option Json) :=
  [some (.ofString "3.0.0"), some d.config.info,
    unlessEmpty (fun ss => .array (ss.map Server.toJson)) d.config.servers,
    some (.object (d.paths.map fun (path, item) => (path, item.toJson))), some (.object [])]

theorem toJson_eq_present (d : Document) : d.toJson =
    .object (present (["openapi", "info", "servers", "paths", "components"].map String.toList)
      d.memberValues) := by
  unfold toJson members
  cases hservers : d.config.servers <;>
    simp [memberValues, present, unlessEmpty, member, hservers]

end Document

theorem Contact.toJson_eq_present (c : Contact) : c.toJson =
    .object (present (["name", "url", "email"].map String.toList)
      [unlessEmpty .string c.name, unlessEmpty .string c.url, unlessEmpty .string c.email]) := by
  simp [toJson, present, Schema.textMember_eq]

theorem License.toJson_eq_present (l : License) : l.toJson =
    .object (present (["name", "url"].map String.toList)
      [some (.string l.name), unlessEmpty .string l.url]) := by
  simp [toJson, present, Schema.textMember_eq, member]

theorem Server.toJson_eq_present (s : Server) : s.toJson =
    .object (present (["url", "description"].map String.toList)
      [some (.string s.url), unlessEmpty .string s.description]) := by
  simp [toJson, present, Schema.textMember_eq, member]

theorem Config.info_eq_present (c : Config) : c.info =
    .object (present
      (["title", "description", "termsOfService", "contact", "license", "version"].map
        String.toList)
      [some (.string c.title), unlessEmpty .string c.description,
        unlessEmpty .string c.termsOfService, c.contact.map Contact.toJson,
        c.license.map License.toJson, some (.string c.version)]) := by
  simp [info, present, Schema.textMember_eq, Schema.optionalMember_eq, member]

section

variable {P : Json → Prop} (plain : Plain P)
include plain

theorem Contact.every_toJson (c : Contact) : Every P c.toJson := by
  rw [c.toJson_eq_present, plain.every_present (by decide) rfl]
  simp only [List.forall_mem_cons]
  exact ⟨plain.every_text _, plain.every_text _, plain.every_text _, List.forall_mem_nil _⟩

theorem License.every_toJson (l : License) : Every P l.toJson := by
  rw [l.toJson_eq_present, plain.every_present (by decide) rfl]
  simp only [List.forall_mem_cons]
  exact ⟨forall_mem_some.mpr (plain.every_string _), plain.every_text _, List.forall_mem_nil _⟩

theorem Server.every_toJson (s : Server) : Every P s.toJson := by
  rw [s.toJson_eq_present, plain.every_present (by decide) rfl]
  simp only [List.forall_mem_cons]
  exact ⟨forall_mem_some.mpr (plain.every_string _), plain.every_text _, List.forall_mem_nil _⟩

theorem Config.every_info (c : Config) : Every P c.info := by
  rw [c.info_eq_present, plain.every_present (by decide) rfl]
  simp only [List.forall_mem_cons, Option.forall_mem_map]
  exact ⟨forall_mem_some.mpr (plain.every_string _), plain.every_text _, plain.every_text _,
    fun contact _ => contact.every_toJson plain, fun license _ => license.every_toJson plain,
    forall_mem_some.mpr (plain.every_string _), List.forall_mem_nil _⟩

theorem Parameter.every_toJson_iff (p : Parameter) :
    Every P p.toJson ↔ Every P p.schema.toJson := by
  rw [p.toJson_eq_present, plain.every_present (by decide) rfl]
  simp only [memberValues, List.forall_mem_cons, forall_mem_some, Option.forall_mem_map]
  constructor
  · rintro ⟨-, -, -, -, -, hschema, -⟩
    exact hschema
  · intro hschema
    exact ⟨plain.every_string _, plain.every_string _, plain.every_text _, plain.every_flag _,
      fun t _ => plain.every_string t, hschema, List.forall_mem_nil _⟩

theorem ResponseEntry.every_contentJson_iff {content : Entries Text Schema}
    (distinct : (Entries.keys content).Nodup) :
    Every P (contentJson content) ↔ ∀ e ∈ content, Every P e.2.toJson := by
  have hmember : ∀ s : Schema,
      Every P (.object [member "schema" s.toJson]) ↔ Every P s.toJson :=
    fun s => plain.every_single (member "schema" s.toJson)
  rw [contentJson, plain.every_entries distinct fun s => .object [member "schema" s.toJson]]
  simp only [hmember]

theorem Foreign.every_toJson (value : Foreign) : Every P value.toJson :=
  plain.every_array_iff.mpr (by simp [plain.every_string])

theorem ResponseEntry.every_foreignJson {foreign : List (Text × Foreign)}
    (distinct : (Entries.keys foreign).Nodup) : Every P (foreignJson foreign) :=
  (plain.every_entries distinct Foreign.toJson).mpr fun e _ => e.2.every_toJson plain

theorem ResponseEntry.every_toJson_iff {r : ResponseEntry} (distinct : r.Distinct) :
    Every P r.toJson ↔ Every P (.object r.headers) ∧ ∀ e ∈ r.content, Every P e.2.toJson := by
  have hheaders : (∀ v ∈ unlessEmpty .object r.headers, Every P v) ↔ Every P (.object r.headers) :=
    forall_mem_unlessEmpty .object plain.every_empty _
  have hcontent : (∀ v ∈ unlessEmpty contentJson r.content, Every P v) ↔
      ∀ e ∈ r.content, Every P e.2.toJson := by
    rw [forall_mem_unlessEmpty contentJson plain.every_empty]
    exact every_contentJson_iff plain distinct.content
  rw [r.toJson_eq_present, plain.every_present (by decide) rfl]
  simp only [memberValues, List.forall_mem_cons, forall_mem_some, hheaders, hcontent]
  constructor
  · rintro ⟨-, hheaders, -, hcontent, -⟩
    exact ⟨hheaders, hcontent⟩
  · rintro ⟨hheaders, hcontent⟩
    have hforeign := every_foreignJson plain distinct.foreign
    exact ⟨plain.every_string _, hheaders,
      (forall_mem_unlessEmpty foreignJson plain.every_empty _).mpr hforeign, hcontent,
      List.forall_mem_nil _⟩

theorem Operation.every_toJson_iff {o : Operation} (distinct : o.Distinct) :
    Every P o.toJson ↔ (∀ h ∈ o.headers, Every P h) ∧ ∀ s ∈ o.schemas, Every P s.toJson := by
  have hparameters : (∀ v ∈ unlessEmpty (fun ps => .array (ps.map Parameter.toJson)) o.parameters,
      Every P v) ↔ ∀ p ∈ o.parameters, Every P p.schema.toJson := by
    rw [forall_mem_unlessEmpty (fun ps => .array (ps.map Parameter.toJson))
      ((every_leaf rfl).mpr (plain.array _)), plain.every_array_iff, List.forall_mem_map]
    simp only [Parameter.every_toJson_iff plain]
  have hresponses : Every P (responsesJson o.responses) ↔ ∀ e ∈ o.responses,
      Every P (.object e.2.headers) ∧ ∀ c ∈ e.2.content, Every P c.2.toJson := by
    rw [responsesJson, plain.every_entries distinct.statuses ResponseEntry.toJson]
    exact forall₂_congr fun e he => ResponseEntry.every_toJson_iff plain (distinct.entries e he)
  rw [o.toJson_eq_present, plain.every_present (by decide) rfl, headers, schemas,
    List.forall_mem_append, List.forall_mem_map, List.forall_mem_map]
  simp only [memberValues, List.forall_mem_cons, forall_mem_some, hparameters, hresponses,
    List.forall_mem_flatMap, List.forall_mem_map]
  constructor
  · rintro ⟨-, -, -, -, hparameters, hresponses, -⟩
    exact ⟨fun e he => (hresponses e he).1, hparameters, fun e he => (hresponses e he).2⟩
  · rintro ⟨hheaders, hparameters, hcontent⟩
    exact ⟨plain.every_texts _, plain.every_text _, plain.every_text _, plain.every_text _,
      hparameters, fun e he => ⟨hheaders e he, hcontent e he⟩, plain.every_flag _,
      List.forall_mem_nil _⟩

theorem PathItem.every_toJson_iff {item : PathItem} (distinct : item.Distinct) :
    Every P item.toJson ↔ ∀ e ∈ item, Every P e.2.toJson := by
  have hlower : item.toJson = .object ((item.map fun e => (Text.toLowerAscii e.1, e.2)).map
      fun e => (e.1, e.2.toJson)) := by
    rw [toJson, List.map_map]
    rfl
  rw [hlower]
  exact (plain.every_entries distinct.methods Operation.toJson).trans List.forall_mem_map

/-- A property of values holds throughout the JSON value of a document when it holds throughout the
headers and the schemas. -/
theorem Document.every_toJson_iff {d : Document} (distinct : d.Distinct) :
    Every P d.toJson ↔ (∀ h ∈ d.headers, Every P h) ∧ ∀ s ∈ d.schemas, Every P s.toJson := by
  have hservers : ∀ v ∈ unlessEmpty (fun ss => .array (ss.map Server.toJson)) d.config.servers,
      Every P v := by
    rw [forall_mem_unlessEmpty (fun ss => .array (ss.map Server.toJson))
      ((every_leaf rfl).mpr (plain.array _)), plain.every_array_iff, List.forall_mem_map]
    exact fun s _ => s.every_toJson plain
  have hpaths : Every P (.object (d.paths.map fun (path, item) => (path, item.toJson))) ↔
      ∀ o ∈ d.operations, (∀ h ∈ o.headers, Every P h) ∧ ∀ s ∈ o.schemas, Every P s.toJson := by
    rw [plain.every_entries distinct.paths PathItem.toJson, operations]
    simp only [List.forall_mem_flatMap, List.forall_mem_map]
    refine forall₂_congr fun e he => ?_
    have hitem := distinct.items e he
    rw [PathItem.every_toJson_iff plain hitem]
    exact forall₂_congr fun m hm => Operation.every_toJson_iff plain (hitem.operations m hm)
  rw [d.toJson_eq_present, plain.every_present (by decide) rfl, headers, schemas]
  simp only [memberValues, List.forall_mem_cons, forall_mem_some, hpaths, List.forall_mem_flatMap]
  constructor
  · rintro ⟨-, -, -, hpaths, -⟩
    exact ⟨fun o ho => (hpaths o ho).1, fun o ho => (hpaths o ho).2⟩
  · rintro ⟨hheaders, hschemas⟩
    exact ⟨plain.every_string _, d.config.every_info plain, hservers,
      fun o ho => ⟨hheaders o ho, hschemas o ho⟩,
      plain.every_empty, List.forall_mem_nil _⟩

end

end RouteDoc
