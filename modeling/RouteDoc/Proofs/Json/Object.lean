import Mathlib.Data.List.Nodup
import RouteDoc.Json.Basic

/-! Objects some of whose members may be left out: where the names differ, the members that are
there say which are left out. -/

namespace RouteDoc.Json

/-- The members for values of which some may be absent, each under its name. -/
def present : List Text → List (Option Json) → List (Text × Json)
  | name :: names, value :: values =>
    (value.map fun v => (name, v)).toList ++ present names values
  | _, _ => []

theorem mem_names_of_mem_present {names : List Text} {values : List (Option Json)}
    {m : Text × Json} (h : m ∈ present names values) : m.1 ∈ names := by
  induction names generalizing values with
  | nil => exact nomatch h
  | cons name names ih =>
    cases values with
    | nil => exact nomatch h
    | cons value values =>
      rcases List.mem_append.mp h with h | h
      · obtain ⟨v, -, rfl⟩ : ∃ v, value = some v ∧ (name, v) = m := by simpa using h
        exact List.mem_cons_self
      · exact List.mem_cons_of_mem name (ih h)

theorem present_injective {names : List Text} (distinct : names.Nodup)
    {values others : List (Option Json)} (hvalues : values.length = names.length)
    (hothers : others.length = names.length) (h : present names values = present names others) :
    values = others := by
  induction names generalizing values others with
  | nil => rw [List.length_eq_zero_iff.mp hvalues, List.length_eq_zero_iff.mp hothers]
  | cons name names ih =>
    obtain ⟨value, values, rfl⟩ := List.exists_cons_of_length_eq_add_one hvalues
    obtain ⟨other, others, rfl⟩ := List.exists_cons_of_length_eq_add_one hothers
    obtain ⟨hfresh, hdistinct⟩ := List.nodup_cons.mp distinct
    have hrest := fun h => ih hdistinct (Nat.succ.inj hvalues) (Nat.succ.inj hothers) h
    have habsent : ∀ {v : Json} {more : List (Text × Json)} {rest : List (Option Json)},
        (name, v) :: more ≠ present names rest := fun h =>
      hfresh (mem_names_of_mem_present (h ▸ List.mem_cons_self))
    cases value with
    | none =>
      cases other with
      | none => rw [hrest h]
      | some w => exact absurd h.symm habsent
    | some v =>
      cases other with
      | none => exact absurd h habsent
      | some w =>
        obtain ⟨hhead, htail⟩ := List.cons.inj h
        rw [(Prod.mk.inj hhead).2, hrest htail]

/-- The value of a member that is left out when its list is empty. -/
def unlessEmpty {α : Type} (render : List α → Json) (items : List α) : Option Json :=
  if items.isEmpty then none else some (render items)

theorem render_eq_of_unlessEmpty_eq {α : Type} {render : List α → Json} {xs ys : List α}
    (h : unlessEmpty render xs = unlessEmpty render ys) : render xs = render ys := by
  cases xs with
  | nil => cases ys <;> simp [unlessEmpty] at h ⊢
  | cons x xs =>
    cases ys with
    | nil => simp [unlessEmpty] at h
    | cons y ys => exact Option.some.inj h

/-- The value of a member that is there to say yes. -/
def flag (b : Bool) : Option Json := if b then some (.bool true) else none

theorem flag_injective {a b : Bool} (h : flag a = flag b) : a = b := by
  cases a <;> cases b <;> simp [flag] at h ⊢

theorem strings_injective {ts us : List Text} (h : strings ts = strings us) : ts = us :=
  List.map_injective_iff.mpr (fun _ _ h => string.inj h) (array.inj h)

end RouteDoc.Json
