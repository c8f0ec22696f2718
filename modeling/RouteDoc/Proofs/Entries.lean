import Mathlib.Data.List.Basic
import Mathlib.Data.List.Induction
import RouteDoc.Entries

/-! Entries and lists that are filled item by item: their keys stand in order of first mention, and
under each key counts the first value where what is there stays, or else the last. -/

namespace RouteDoc

/-- Items added one by one stand in order of first mention. -/
theorem foldl_addNew {α : Type} [DecidableEq α] [BEq α] [LawfulBEq α] (items acc : List α) :
    items.foldl (fun acc item => addNew item acc) acc =
      acc ++ (items.filter fun item => decide (item ∉ acc)).eraseDups := by
  induction items generalizing acc with
  | nil => simp
  | cons item items ih =>
    rw [List.foldl_cons, ih]
    by_cases h : item ∈ acc
    · simp [addNew, h]
    · have hfilter : (items.filter fun i => decide (i ∉ acc ++ [item])) =
          (items.filter fun i => decide (i ∉ acc)).filter fun i => !i == item := by
        rw [List.filter_filter]
        refine List.filter_congr fun i _ => ?_
        by_cases hi : i = item <;> simp [hi]
      simp only [addNew, h, if_false, hfilter]
      simp [h, List.eraseDups_cons]

theorem foldl_addNew_nil {α : Type} [DecidableEq α] [BEq α] [LawfulBEq α] (items : List α) :
    items.foldl (fun acc item => addNew item acc) [] = items.eraseDups := by
  rw [foldl_addNew]
  simp

theorem nodup_foldl_addNew {α : Type} [DecidableEq α] (items : List α) {acc : List α}
    (h : acc.Nodup) : (items.foldl (fun acc item => addNew item acc) acc).Nodup := by
  induction items generalizing acc with
  | nil => exact h
  | cons item items ih => exact ih (nodup_addNew h item)

theorem nodup_eraseDups {α : Type} [DecidableEq α] [BEq α] [LawfulBEq α] (items : List α) :
    items.eraseDups.Nodup := by
  rw [← foldl_addNew_nil]
  exact nodup_foldl_addNew items List.nodup_nil

theorem mem_foldl_addNew {α : Type} [DecidableEq α] {items acc : List α} {other : α} :
    other ∈ items.foldl (fun acc item => addNew item acc) acc ↔ other ∈ acc ∨ other ∈ items := by
  induction items generalizing acc with
  | nil => simp
  | cons item items ih =>
    rw [List.foldl_cons, ih, mem_addNew, List.mem_cons, or_assoc]

theorem eraseDups_concat {α : Type} [DecidableEq α] [BEq α] [LawfulBEq α] (items : List α)
    (item : α) : (items ++ [item]).eraseDups = addNew item items.eraseDups := by
  rw [← foldl_addNew_nil, List.foldl_append, foldl_addNew_nil]
  rfl

/-- Items without their repetitions are added like the items themselves. -/
theorem foldl_addNew_eraseDups {α : Type} [DecidableEq α] [BEq α] [LawfulBEq α]
    (items acc : List α) : items.eraseDups.foldl (fun acc item => addNew item acc) acc =
      items.foldl (fun acc item => addNew item acc) acc := by
  induction items using List.reverseRecOn with
  | nil => rfl
  | append_singleton items item ih =>
    rw [eraseDups_concat, List.foldl_append, ← ih]
    by_cases h : item ∈ items.eraseDups
    · have hmem := mem_foldl_addNew.mpr (.inr h : item ∈ acc ∨ item ∈ items.eraseDups)
      rw [addNew, if_pos h, List.foldl_cons, List.foldl_nil, addNew, if_pos hmem]
    · rw [addNew, if_neg h, List.foldl_append]

theorem eraseDups_append_eraseDups_append {α : Type} [DecidableEq α] [BEq α] [LawfulBEq α]
    (front items back : List α) :
    (front ++ items.eraseDups ++ back).eraseDups = (front ++ items ++ back).eraseDups := by
  simp only [← foldl_addNew_nil, List.foldl_append]
  rw [foldl_addNew_nil items, foldl_addNew_eraseDups]

theorem findSome?_cons_or {α β : Type} (f : α → Option β) (item : α) (items : List α) :
    (item :: items).findSome? f = (f item).or (items.findSome? f) := by
  rw [List.findSome?_cons]
  cases f item <;> rfl

/-- The last item of a list that gives something. -/
theorem findSome?_reverse_eq_some_iff {α β : Type} {f : α → Option β} {items : List α} {b : β} :
    items.reverse.findSome? f = some b ↔ ∃ before item after, items = before ++ item :: after ∧
      f item = some b ∧ ∀ later ∈ after, f later = none := by
  rw [List.findSome?_eq_some_iff]
  constructor
  · rintro ⟨after, item, before, hsplit, hitem, hafter⟩
    refine ⟨before.reverse, item, after.reverse, ?_, hitem, by simpa using hafter⟩
    rw [List.reverse_eq_iff.mp hsplit]
    simp
  · rintro ⟨before, item, after, rfl, hitem, hafter⟩
    exact ⟨after.reverse, item, before.reverse, by simp, hitem, by simpa using hafter⟩

namespace Entries

variable {κ β : Type} [DecidableEq κ]

theorem get?_put (key other : κ) (value : β) (entries : Entries κ β) :
    get? other (put key value entries) =
      if key = other then some value else get? other entries := by
  by_cases h : key = other
  · subst h
    simp
  · rw [if_neg h, get?_put_of_ne (Ne.symm h)]

theorem get?_putNew (key other : κ) (value : β) (entries : Entries κ β) :
    get? other (putNew key value entries) =
      (get? other entries).or (if key = other then some value else none) := by
  by_cases h : key = other
  · subst h
    rw [get?_putNew_self]
    cases get? key entries <;> simp
  · rw [get?_putNew_of_ne (Ne.symm h), if_neg h, Option.or_none]

/-- Of entries put where there are none, the first under each key counts. -/
theorem get?_foldl_putNew (key : κ) (more entries : Entries κ β) :
    get? key (more.foldl (fun es e => putNew e.1 e.2 es) entries) =
      (get? key entries).or (get? key more) := by
  induction more generalizing entries with
  | nil => simp [get?]
  | cons e more ih =>
    rw [List.foldl_cons, ih, get?_putNew, Option.or_assoc]
    by_cases h : e.1 = key <;> simp [get?, h]

theorem keys_foldl_putNew (more entries : Entries κ β) :
    keys (more.foldl (fun es e => putNew e.1 e.2 es) entries) =
      (keys more).foldl (fun acc key => addNew key acc) (keys entries) := by
  induction more generalizing entries with
  | nil => rfl
  | cons e more ih =>
    rw [List.foldl_cons, ih, keys_putNew]
    rfl

theorem put_eq_append {key : κ} {entries : Entries κ β} (fresh : key ∉ keys entries) (value : β) :
    put key value entries = entries ++ [(key, value)] := by
  induction entries with
  | nil => rfl
  | cons e rest ih =>
    obtain ⟨hne, hrest⟩ := not_or.mp (List.mem_cons.not.mp fresh)
    rw [put, if_neg (Ne.symm hne), ih hrest, List.cons_append]

/-- Entries with new keys are put at the end, in order. -/
theorem foldl_put_eq_append {γ : Type} (f : γ → β) {more : Entries κ γ} {entries : Entries κ β}
    (distinct : (keys entries ++ keys more).Nodup) :
    more.foldl (fun es e => put e.1 (f e.2) es) entries =
      entries ++ more.map fun e => (e.1, f e.2) := by
  induction more generalizing entries with
  | nil => simp
  | cons e more ih =>
    have hsplit : keys entries ++ keys (e :: more) = keys entries ++ e.1 :: keys more := rfl
    have fresh : e.1 ∉ keys entries := by
      rw [hsplit, List.nodup_append] at distinct
      exact fun hmem => distinct.2.2 e.1 hmem e.1 List.mem_cons_self rfl
    have hkeys : keys (entries ++ [(e.1, f e.2)]) ++ keys more =
        keys entries ++ keys (e :: more) := by
      simp [keys]
    rw [List.foldl_cons, put_eq_append fresh, ih (hkeys ▸ distinct), List.map_cons,
      List.append_assoc, List.singleton_append]

/-- What is put under a key is there, and all else was there before. -/
theorem mem_put {key : κ} {value : β} {entries : Entries κ β} {e : κ × β}
    (h : e ∈ put key value entries) : e = (key, value) ∨ e ∈ entries := by
  induction entries with
  | nil => simpa [put] using h
  | cons first rest ih =>
    by_cases hk : first.1 = key
    · simp only [put, hk, if_true, List.mem_cons] at h
      exact h.imp id (List.mem_cons_of_mem first)
    · simp only [put, hk, if_false, List.mem_cons] at h
      rcases h with rfl | h
      · exact .inr List.mem_cons_self
      · exact (ih h).imp id (List.mem_cons_of_mem first)

theorem mem_foldl_putNew {more entries : Entries κ β} {e : κ × β}
    (h : e ∈ more.foldl (fun es e => putNew e.1 e.2 es) entries) : e ∈ entries ∨ e ∈ more := by
  induction more generalizing entries with
  | nil => exact .inl h
  | cons first more ih =>
    rcases ih h with h | h
    · simp only [putNew] at h
      split at h
      · exact .inl h
      · rcases List.mem_append.mp h with h | h
        · exact .inl h
        · exact .inr (List.mem_singleton.mp h ▸ List.mem_cons_self)
    · exact .inr (List.mem_cons_of_mem first h)

theorem mem_of_get?_eq_some {key : κ} {value : β} {entries : Entries κ β}
    (h : get? key entries = some value) : (key, value) ∈ entries := by
  induction entries with
  | nil => exact nomatch h
  | cons e rest ih =>
    by_cases hk : e.1 = key
    · simp only [get?, hk, if_true, Option.some.injEq] at h
      subst hk h
      exact List.mem_cons_self
    · simp only [get?, hk, if_false] at h
      exact List.mem_cons_of_mem e (ih h)

/-- Where no key is repeated, an entry is found under its key. -/
theorem get?_eq_some_iff {key : κ} {value : β} {entries : Entries κ β}
    (distinct : (keys entries).Nodup) :
    get? key entries = some value ↔ (key, value) ∈ entries := by
  refine ⟨mem_of_get?_eq_some, fun h => ?_⟩
  induction entries with
  | nil => exact nomatch h
  | cons e rest ih =>
    obtain ⟨hfresh, hrest⟩ := List.nodup_cons.mp distinct
    rcases List.mem_cons.mp h with rfl | h
    · simp [get?]
    · have hk : e.1 ≠ key := fun hk => hfresh (List.mem_map.mpr ⟨_, h, hk.symm⟩)
      simp only [get?, hk, if_false]
      exact ih hrest h

theorem map_some_eq_map_keys {entries : Entries κ β} (distinct : (keys entries).Nodup) :
    entries.map (fun e => (e.1, some e.2)) =
      (keys entries).map fun key => (key, get? key entries) := by
  rw [keys, List.map_map]
  refine List.map_congr_left fun e he => ?_
  rw [Function.comp_apply, (get?_eq_some_iff distinct).mpr he]

theorem get?_map_keys (f : κ → β) (key : κ) (ks : List κ) :
    get? key (ks.map fun k => (k, f k)) = if key ∈ ks then some (f key) else none := by
  induction ks with
  | nil => rfl
  | cons k ks ih =>
    by_cases h : k = key
    · simp [get?, h]
    · simp [get?, h, ih, Ne.symm h]

/-- Entries without repeated keys are known from their keys and what stands under each. -/
theorem eq_of_get? {entries others : Entries κ β} (distinct : (keys entries).Nodup)
    (hkeys : keys entries = keys others) (h : ∀ key, get? key entries = get? key others) :
    entries = others := by
  have hmap := map_some_eq_map_keys distinct
  simp only [h, hkeys, ← map_some_eq_map_keys (hkeys ▸ distinct)] at hmap
  refine List.map_injective_iff.mpr (fun e e' he => ?_) hmap
  obtain ⟨hkey, hvalue⟩ := Prod.mk.inj he
  exact Prod.ext hkey (Option.some.inj hvalue)

theorem map_put {γ : Type} (f : β → γ) (key : κ) (value : β) (entries : Entries κ β) :
    (put key value entries).map (fun e => (e.1, f e.2)) =
      put key (f value) (entries.map fun e => (e.1, f e.2)) := by
  induction entries with
  | nil => rfl
  | cons e rest ih =>
    by_cases h : e.1 = key
    · simp [put, h]
    · simp [put, h, ih]

omit [DecidableEq κ] in
theorem keys_map {γ : Type} (f : β → γ) (entries : Entries κ β) :
    keys (entries.map fun e => (e.1, f e.2)) = keys entries := by
  simp [keys]

theorem map_putNew {γ : Type} (f : β → γ) (key : κ) (value : β) (entries : Entries κ β) :
    (putNew key value entries).map (fun e => (e.1, f e.2)) =
      putNew key (f value) (entries.map fun e => (e.1, f e.2)) := by
  have hhas : has key (entries.map fun e => (e.1, f e.2)) = has key entries := by
    rw [Bool.eq_iff_iff, has_eq_true_iff, has_eq_true_iff, keys_map]
  rw [putNew, putNew, hhas]
  split <;> simp

theorem map_foldl_putNew {γ : Type} (f : β → γ) (more entries : Entries κ β) :
    (more.foldl (fun es e => putNew e.1 e.2 es) entries).map (fun e => (e.1, f e.2)) =
      (more.map fun e => (e.1, f e.2)).foldl (fun es e => putNew e.1 e.2 es)
        (entries.map fun e => (e.1, f e.2)) := by
  induction more generalizing entries with
  | nil => rfl
  | cons e more ih => rw [List.foldl_cons, List.map_cons, List.foldl_cons, ih, map_putNew]

end Entries

end RouteDoc
