import RouteDoc.Entries
import RouteDoc.Json.Basic

/-! Values as trees: what holds of a value and of all values in it. -/

namespace RouteDoc.Json

/-- The values that stand directly in a value. -/
def children : Json → List Json
  | .array items => items
  | .object members => members.map (·.2)
  | _ => []

/-- A property holds of a value and of all values in it. -/
inductive Every (P : Json → Prop) : Json → Prop
  | intro {v : Json} : P v → (∀ w ∈ v.children, Every P w) → Every P v

theorem every_iff {P : Json → Prop} {v : Json} :
    Every P v ↔ P v ∧ ∀ w ∈ v.children, Every P w := by
  constructor
  · rintro ⟨root, below⟩
    exact ⟨root, below⟩
  · rintro ⟨root, below⟩
    exact .intro root below

theorem every_array {P : Json → Prop} {items : List Json} :
    Every P (.array items) ↔ P (.array items) ∧ ∀ item ∈ items, Every P item :=
  every_iff

theorem every_object {P : Json → Prop} {members : List (Text × Json)} :
    Every P (.object members) ↔ P (.object members) ∧ ∀ m ∈ members, Every P m.2 := by
  rw [every_iff, children, List.forall_mem_map]

/-- A value as data has it: the names in an object are distinct, and a number has the form of its
format. -/
def IsData : Json → Prop
  | .object members => (Entries.keys members).Nodup
  | .float x => x.Canonical
  | _ => True

/-- A value that is data throughout. -/
def WellFormed (v : Json) : Prop := Every IsData v

/-- A value is no number without a finite value. -/
def IsFinite : Json → Prop
  | .float x => x.isFinite = true
  | _ => True

/-- A value in which all numbers are finite. -/
def Finite (v : Json) : Prop := Every IsFinite v

end RouteDoc.Json
