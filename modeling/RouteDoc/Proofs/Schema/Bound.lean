import RouteDoc.Proofs.Json.Member
import RouteDoc.Proofs.Schema.Node
import RouteDoc.Proofs.Schema.Rendering

/-! The bounds in a schema: only they can make its JSON value anything but finite data, and each
that is no whole number is written by a field. -/

namespace RouteDoc

open Json Relation

namespace Schema

/-- The bounds of a single node. -/
def bounds (s : Schema) : List Bound := s.minimum.toList ++ s.maximum.toList

theorem forall_mem_bounds {Q : Bound → Prop} {s : Schema} :
    (∀ b ∈ s.bounds, Q b) ↔ (∀ b ∈ s.minimum, Q b) ∧ ∀ b ∈ s.maximum, Q b := by
  rw [bounds, List.forall_mem_append]
  simp

theorem Child.sizeOf_lt {s child : Schema} (h : s.Child child) : sizeOf child < sizeOf s := by
  obtain ⟨type, format, description, fallback, sample, minimum, maximum, length, enum, properties,
    required, items⟩ := s
  cases h with
  | items h =>
    have hitems : items = some child := h
    simp only [mk.sizeOf_spec, hitems, Option.some.sizeOf_spec]
    omega
  | property h =>
    have hlt := List.sizeOf_lt_of_mem h
    simp only [Prod.mk.sizeOf_spec] at hlt
    simp only [mk.sizeOf_spec]
    omega

theorem members_eq_map (ps : List (Text × Schema)) :
    members ps = ps.map fun (name, s) => (name, s.toJson) := by
  induction ps with
  | nil => rfl
  | cons e ps ih => rw [members, ih, List.map_cons]

variable {P : Json → Prop} (plain : Plain P)
include plain

/-- The JSON value of a schema has a property throughout when the bounds at its root have it, and
the values of the schemas directly below have it throughout. -/
theorem every_toJson_iff_child {s : Schema} (distinct : (Entries.keys s.properties).Nodup) :
    Every P s.toJson ↔ (∀ b ∈ s.bounds, P b.toJson) ∧
      ∀ child, s.Child child → Every P child.toJson := by
  have hbound : ∀ b : Bound, Every P b.toJson ↔ P b.toJson :=
    fun b => every_leaf (by cases b <;> rfl)
  have hproperties : (∀ v ∈ unlessEmpty (fun ps => .object (members ps)) s.properties,
      Every P v) ↔ ∀ e ∈ s.properties, Every P e.2.toJson := by
    rw [forall_mem_unlessEmpty (fun ps => .object (members ps)) plain.every_empty, members_eq_map]
    exact plain.every_entries distinct toJson
  rw [toJson_eq_present, plain.every_present (nodup_memberNames s.type) rfl, forall_mem_bounds]
  simp only [memberValues, List.forall_mem_cons, Option.forall_mem_map, hproperties, hbound]
  constructor
  · rintro ⟨-, -, -, -, -, hminimum, hmaximum, -, -, -, hproperties, -, hitems, -⟩
    refine ⟨⟨hminimum, hmaximum⟩, ?_⟩
    rintro child (hchild | hchild)
    · exact hitems child hchild
    · exact hproperties _ hchild
  · rintro ⟨⟨hminimum, hmaximum⟩, below⟩
    exact ⟨forall_mem_some.mpr (plain.every_string _), plain.every_text _, plain.every_text _,
      fun t _ => plain.every_string t, fun t _ => plain.every_string t, hminimum, hmaximum,
      fun n _ => plain.every_int n, fun n _ => plain.every_int n, plain.every_texts _,
      fun e he => below _ (.property he), plain.every_texts _,
      fun item hitem => below _ (.items hitem), List.forall_mem_nil _⟩

/-- The JSON value of a schema has a property throughout when the bounds at all nodes have it. -/
theorem every_toJson_iff {s : Schema}
    (distinct : s.Throughout fun node => (Entries.keys node.properties).Nodup) :
    Every P s.toJson ↔ s.Throughout fun node => ∀ b ∈ node.bounds, P b.toJson := by
  obtain ⟨root, below⟩ := throughout_iff.mp distinct
  rw [every_toJson_iff_child plain root, throughout_iff]
  refine and_congr_right fun _ => forall_congr' fun child => imp_congr_right fun hchild => ?_
  have := hchild.sizeOf_lt
  exact every_toJson_iff (below child hchild)
termination_by sizeOf s

end Schema

/-! ### What writes a bound -/

namespace Rule

/-- An option writes a number as a bound: it is the mark of one of the two bounds, and behind it a
text that names the number. -/
def Writes (option : Text) (x : Binary64) : Prop :=
  ∃ rule text, (rule = maximum ∨ rule = minimum) ∧ option = mark rule ++ text ∧
    Numeral.float? text = some x

theorem bounds_of_apply {rule : Rule} {schema constrained : Schema} {option : Text}
    (h : rule.apply schema option = .ok constrained) :
    ∀ b ∈ constrained.bounds, b ∈ schema.bounds ∨ ∃ x, Writes option x ∧ b = .real x := by
  rw [apply_eq_map_effect, map_eq_ok_iff] at h
  obtain ⟨f, hf, rfl⟩ := h
  unfold effect at hf
  split at hf
  · cases hf
    exact fun b hb => .inl hb
  · next value hvalue =>
    have hoption := Text.dropStart?_eq_some_iff.mp hvalue
    cases rule with
    | length =>
      obtain ⟨n, -, rfl⟩ := map_eq_ok_iff.mp hf
      exact fun b hb => .inl hb
    | enum =>
      cases hf
      exact fun b hb => .inl hb
    | maximum =>
      obtain ⟨b, hb, rfl⟩ := map_eq_ok_iff.mp hf
      obtain ⟨x, hx, rfl⟩ := bound_eq_ok_iff.mp hb
      intro b hb
      rcases List.mem_append.mp hb with hb | hb
      · exact .inl (List.mem_append_left _ hb)
      · exact .inr ⟨x, ⟨maximum, value, .inl rfl, hoption, hx⟩, List.mem_singleton.mp hb⟩
    | minimum =>
      obtain ⟨b, hb, rfl⟩ := map_eq_ok_iff.mp hf
      obtain ⟨x, hx, rfl⟩ := bound_eq_ok_iff.mp hb
      intro b hb
      rcases List.mem_append.mp hb with hb | hb
      · exact .inr ⟨x, ⟨minimum, value, .inr rfl, hoption, hx⟩, List.mem_singleton.mp hb⟩
      · exact .inl (List.mem_append_right _ hb)

/-- The bounds of a schema are those of another, or written by the options. -/
def BoundsFrom (options : List Text) (schema constrained : Schema) : Prop :=
  ∀ b ∈ constrained.bounds, b ∈ schema.bounds ∨
    ∃ option ∈ options, ∃ x, Writes option x ∧ b = .real x

theorem boundsFrom_of_applyAll {rules : List Rule} {schema constrained : Schema}
    {options : List Text} (h : applyAll rules schema options = .ok constrained) :
    BoundsFrom options schema constrained := by
  have hstart : BoundsFrom options schema schema := fun b hb => .inl hb
  refine foldlM_invariant (P := BoundsFrom options schema)
    (fun s option t hoption hs ht => ?_) hstart h
  refine foldlM_invariant (P := BoundsFrom options schema) (fun s rule t _ hs ht b hb => ?_) hs ht
  rcases bounds_of_apply ht b hb with hb | ⟨x, hx, rfl⟩
  · exact hs b hb
  · exact .inr ⟨option, hoption, x, hx, rfl⟩

end Rule

/-- Where the bounds of a schema come from: zero from a type whose numbers have no sign, all others
from the options of a field. -/
inductive Bound.ComesFrom (catalog : Catalog) : Bound → Prop
  | unsigned : ComesFrom catalog (.whole 0)
  | field {field : Field} {tags : FieldTags} {option : Text} {x : Binary64} :
    catalog.HasField field tags → option ∈ tags.constraints → Rule.Writes option x →
    ComesFrom catalog (.real x)

/-- At a node no property has the name of another, and the bounds come from fields. -/
structure Schema.Bounded (catalog : Catalog) (node : Schema) : Prop where
  distinct : (Entries.keys node.properties).Nodup
  bounds : ∀ b ∈ node.bounds, b.ComesFrom catalog

namespace Synthesis

variable {catalog : Catalog} {rules : List Rule}

theorem bounded_primitive (p : Primitive) : p.schema.Bounded catalog := by
  obtain ⟨-, hproperties, -⟩ := p.schema_bare
  refine ⟨hproperties ▸ List.nodup_nil, ?_⟩
  unfold Primitive.schema
  split
  case h_1 =>
    cases p.signed
    · exact List.forall_mem_singleton.mpr .unsigned
    · exact List.forall_mem_nil _
  all_goals exact List.forall_mem_nil _

theorem bounded_addTo {object : Schema} {share : Share} (h : object.Bounded catalog) :
    (share.addTo object).Bounded catalog := by
  refine ⟨?_, ?_⟩
  · rw [Share.keys_addTo]
    exact nodup_foldl_addNew share.names h.distinct
  · rw [Share.addTo_eq]
    exact h.bounds

theorem bounded_tagged {field : Field} {tags : FieldTags} {plain schema : Schema}
    (hfield : catalog.HasField field tags) (h : plain.Bounded catalog)
    (apply : Rule.applyAll rules plain tags.constraints = .ok schema) :
    (tags.annotate schema).Bounded catalog := by
  refine ⟨?_, fun b hb => ?_⟩
  · rw [Rule.constrains_of_applyAll apply]
    exact h.distinct
  · rcases Rule.boundsFrom_of_applyAll apply b hb with hb | ⟨option, hoption, x, hx, rfl⟩
    · exact h.bounds b hb
    · exact .field hfield hoption hx

theorem keeps_bounded : Keeps catalog rules (Schema.Bounded catalog) where
  primitive := bounded_primitive
  object := ⟨List.nodup_nil, List.forall_mem_nil _⟩
  array _ := ⟨List.nodup_nil, List.forall_mem_nil _⟩
  addTo _ h _ := bounded_addTo h
  tagged := bounded_tagged

end Synthesis

end RouteDoc
