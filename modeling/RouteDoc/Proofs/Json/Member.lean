import Mathlib.Data.Option.Basic
import RouteDoc.Proofs.Json.Object
import RouteDoc.Proofs.Json.Tree

/-! What holds throughout an object whose members are known by their names. -/

namespace RouteDoc.Json

/-- A property that only numbers and objects with repeated names can fail to have. -/
structure Plain (P : Json → Prop) : Prop where
  bool : ∀ b, P (.bool b)
  int : ∀ n, P (.int n)
  string : ∀ t, P (.string t)
  array : ∀ items, P (.array items)
  object : ∀ members, (Entries.keys members).Nodup → P (.object members)

theorem plain_isData : Plain IsData :=
  ⟨fun _ => trivial, fun _ => trivial, fun _ => trivial, fun _ => trivial, fun _ h => h⟩

theorem plain_isFinite : Plain IsFinite :=
  ⟨fun _ => trivial, fun _ => trivial, fun _ => trivial, fun _ => trivial, fun _ _ => trivial⟩

theorem every_leaf {P : Json → Prop} {v : Json} (h : v.children = []) : Every P v ↔ P v := by
  rw [every_iff, h]
  exact and_iff_left (List.forall_mem_nil _)

theorem forall_mem_some {α : Type} {Q : α → Prop} {a : α} : (∀ b ∈ some a, Q b) ↔ Q a := by
  simp

theorem forall_mem_present {Q : Json → Prop} {names : List Text} {values : List (Option Json)}
    (h : values.length = names.length) :
    (∀ m ∈ present names values, Q m.2) ↔ ∀ value ∈ values, ∀ v ∈ value, Q v := by
  induction names generalizing values with
  | nil =>
    rw [List.length_eq_zero_iff.mp h]
    simp [present]
  | cons name names ih =>
    obtain ⟨value, values, rfl⟩ := List.exists_cons_of_length_eq_add_one h
    rw [present, List.forall_mem_append, List.forall_mem_cons, ih (Nat.succ.inj h)]
    refine and_congr_left fun _ => ?_
    cases value <;> simp

theorem nodup_keys_present {names : List Text} (distinct : names.Nodup)
    (values : List (Option Json)) : (Entries.keys (present names values)).Nodup := by
  induction names generalizing values with
  | nil => exact List.nodup_nil
  | cons name names ih =>
    cases values with
    | nil => exact List.nodup_nil
    | cons value values =>
      obtain ⟨hfresh, hdistinct⟩ := List.nodup_cons.mp distinct
      cases value with
      | none => exact ih hdistinct values
      | some v =>
        refine List.nodup_cons.mpr ⟨fun hmem => ?_, ih hdistinct values⟩
        obtain ⟨m, hm, hname⟩ := List.mem_map.mp hmem
        have hmem : m.1 ∈ names := mem_names_of_mem_present hm
        rw [hname] at hmem
        exact hfresh hmem

/-- A list that is left out when it is empty has a property that the empty list has anyhow. -/
theorem forall_mem_unlessEmpty {α : Type} {Q : Json → Prop} (render : List α → Json)
    (empty : Q (render [])) (items : List α) :
    (∀ v ∈ unlessEmpty render items, Q v) ↔ Q (render items) := by
  cases items with
  | nil => exact iff_of_true nofun empty
  | cons item items => exact forall_mem_some

namespace Plain

variable {P : Json → Prop} (plain : Plain P)
include plain

theorem every_bool (b : Bool) : Every P (.bool b) := (every_leaf rfl).mpr (plain.bool b)

theorem every_int (n : Int) : Every P (.int n) := (every_leaf rfl).mpr (plain.int n)

theorem every_string (t : Text) : Every P (.string t) := (every_leaf rfl).mpr (plain.string t)

theorem every_strings (ts : List Text) : Every P (strings ts) :=
  every_array.mpr ⟨plain.array _, List.forall_mem_map.mpr fun t _ => plain.every_string t⟩

theorem every_text (t : Text) : ∀ v ∈ unlessEmpty .string t, Every P v :=
  (forall_mem_unlessEmpty .string (plain.every_string []) t).mpr (plain.every_string t)

theorem every_texts (ts : List Text) : ∀ v ∈ unlessEmpty strings ts, Every P v :=
  (forall_mem_unlessEmpty strings (plain.every_strings []) ts).mpr (plain.every_strings ts)

theorem every_flag (b : Bool) : ∀ v ∈ flag b, Every P v := by
  cases b with
  | false => exact nofun
  | true => exact forall_mem_some.mpr (plain.every_bool true)

theorem every_array_iff {items : List Json} :
    Every P (.array items) ↔ ∀ item ∈ items, Every P item := by
  rw [every_array]
  exact and_iff_right (plain.array items)

theorem every_object_iff {members : List (Text × Json)}
    (distinct : (Entries.keys members).Nodup) :
    Every P (.object members) ↔ ∀ m ∈ members, Every P m.2 := by
  rw [every_object]
  exact and_iff_right (plain.object members distinct)

theorem every_single (m : Text × Json) : Every P (.object [m]) ↔ Every P m.2 := by
  have distinct : (Entries.keys [m]).Nodup := List.nodup_singleton m.1
  rw [plain.every_object_iff distinct, List.forall_mem_singleton]

theorem every_empty : Every P (.object []) :=
  (every_leaf rfl).mpr (plain.object [] List.nodup_nil)

/-- A property holds throughout an object when it holds throughout the values that are there. -/
theorem every_present {names : List Text} (distinct : names.Nodup) {values : List (Option Json)}
    (h : values.length = names.length) :
    Every P (.object (present names values)) ↔ ∀ value ∈ values, ∀ v ∈ value, Every P v := by
  rw [plain.every_object_iff (nodup_keys_present distinct values), forall_mem_present h]

/-- An object in which the entries of a list stand under their own names. -/
theorem every_entries {β : Type} {entries : Entries Text β}
    (distinct : (Entries.keys entries).Nodup) (f : β → Json) :
    Every P (.object (entries.map fun (name, b) => (name, f b))) ↔
      ∀ e ∈ entries, Every P (f e.2) := by
  have hkeys : Entries.keys (entries.map fun (name, b) => (name, f b)) = Entries.keys entries := by
    simp [Entries.keys]
  rw [plain.every_object_iff (hkeys ▸ distinct), List.forall_mem_map]

end Plain

end RouteDoc.Json
