/-! Entries under keys, in order of first insertion. Writing to a key that is there replaces its
value and keeps its place. -/

namespace RouteDoc

/-- Keys with values, each key at most once when built by `put` and `putNew`. -/
abbrev Entries (κ β : Type) := List (κ × β)

namespace Entries

variable {κ β : Type} [DecidableEq κ]

def get? (key : κ) : Entries κ β → Option β
  | [] => none
  | (k, v) :: rest => if k = key then some v else get? key rest

def has (key : κ) (entries : Entries κ β) : Bool := (get? key entries).isSome

/-- Write a value under a key: in place if the key is there, at the end if not. -/
def put (key : κ) (value : β) : Entries κ β → Entries κ β
  | [] => [(key, value)]
  | (k, v) :: rest => if k = key then (k, value) :: rest else (k, v) :: put key value rest

/-- Write a value under a key that has none. -/
def putNew (key : κ) (value : β) (entries : Entries κ β) : Entries κ β :=
  if has key entries then entries else entries ++ [(key, value)]

def keys (entries : Entries κ β) : List κ := entries.map (·.1)

@[simp]
theorem get?_put_self (key : κ) (value : β) (entries : Entries κ β) :
    get? key (put key value entries) = some value := by
  induction entries with
  | nil => simp [put, get?]
  | cons entry rest ih =>
    by_cases h : entry.1 = key
    · simp [put, get?, h]
    · simp [put, get?, h, ih]

theorem get?_put_of_ne {key other : κ} (h : other ≠ key) (value : β) (entries : Entries κ β) :
    get? other (put key value entries) = get? other entries := by
  induction entries with
  | nil => simp [put, get?, h.symm]
  | cons entry rest ih =>
    by_cases hk : entry.1 = key
    · simp [put, get?, hk, h.symm]
    · simp [put, get?, hk, ih]

theorem get?_append (key : κ) (first second : Entries κ β) :
    get? key (first ++ second) = (get? key first).or (get? key second) := by
  induction first with
  | nil => simp [get?]
  | cons entry rest ih =>
    by_cases h : entry.1 = key
    · simp [get?, h]
    · simp [get?, h, ih]

theorem get?_putNew_self (key : κ) (value : β) (entries : Entries κ β) :
    get? key (putNew key value entries) = some ((get? key entries).getD value) := by
  cases h : get? key entries with
  | none => simp [putNew, has, h, get?_append, get?]
  | some v => simp [putNew, has, h]

theorem get?_putNew_of_ne {key other : κ} (h : other ≠ key) (value : β)
    (entries : Entries κ β) : get? other (putNew key value entries) = get? other entries := by
  unfold putNew
  split
  · rfl
  · simp [get?_append, get?, h.symm]

theorem has_eq_true_iff {key : κ} {entries : Entries κ β} :
    has key entries = true ↔ key ∈ keys entries := by
  induction entries with
  | nil => simp [has, get?, keys]
  | cons entry rest ih =>
    by_cases h : entry.1 = key
    · simp [has, get?, keys, h]
    · simp only [has, keys] at ih
      simp [has, get?, keys, h, ih, Ne.symm h]

end Entries

/-- Add an item at the end of a list unless it is there. -/
def addNew {α : Type} [DecidableEq α] (item : α) (items : List α) : List α :=
  if item ∈ items then items else items ++ [item]

namespace Entries

variable {κ β : Type} [DecidableEq κ]

theorem keys_put (key : κ) (value : β) (entries : Entries κ β) :
    keys (put key value entries) = addNew key (keys entries) := by
  induction entries with
  | nil => simp [put, keys, addNew]
  | cons entry rest ih =>
    by_cases h : entry.1 = key
    · simp [put, keys, addNew, h]
    · simp only [keys] at ih
      by_cases hm : key ∈ rest.map (·.1)
      · simp only [addNew, hm, if_true] at ih
        simp [put, keys, addNew, h, ih, hm]
      · simp only [addNew, hm, if_false] at ih
        simp [put, keys, addNew, h, ih, hm, Ne.symm h]

theorem keys_putNew (key : κ) (value : β) (entries : Entries κ β) :
    keys (putNew key value entries) = addNew key (keys entries) := by
  by_cases h : key ∈ keys entries
  · simp [putNew, has_eq_true_iff, addNew, h]
  · have hk : ¬has key entries = true := fun hh => h (has_eq_true_iff.mp hh)
    rw [putNew, if_neg hk, addNew, if_neg h]
    simp [keys]

end Entries

@[simp]
theorem mem_addNew {α : Type} [DecidableEq α] {item other : α} {items : List α} :
    other ∈ addNew item items ↔ other ∈ items ∨ other = item := by
  unfold addNew
  split
  · next h => exact ⟨Or.inl, fun hm => hm.elim id fun he => he ▸ h⟩
  · simp

theorem nodup_addNew {α : Type} [DecidableEq α] {items : List α} (h : items.Nodup) (item : α) :
    (addNew item items).Nodup := by
  unfold addNew
  split
  · exact h
  · next hm =>
    refine List.nodup_append.mpr ⟨h, by simp, ?_⟩
    intro a ha b hb he
    exact hm (List.mem_singleton.mp hb ▸ he ▸ ha)

end RouteDoc
