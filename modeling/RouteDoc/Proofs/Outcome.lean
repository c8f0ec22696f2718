import Mathlib.Data.List.Forall2

/-! Sequences of computations that may fail: what a success says of every part, and a failure of
the first part that fails. -/

namespace RouteDoc

variable {ε α β γ : Type}

theorem bind_eq_ok_iff {x : Except ε α} {f : α → Except ε β} {b : β} :
    x >>= f = .ok b ↔ ∃ a, x = .ok a ∧ f a = .ok b := by
  cases x <;> simp [bind, Except.bind]

theorem bind_eq_error_iff {x : Except ε α} {f : α → Except ε β} {e : ε} :
    x >>= f = .error e ↔ x = .error e ∨ ∃ a, x = .ok a ∧ f a = .error e := by
  cases x <;> simp [bind, Except.bind]

theorem map_eq_ok_iff {x : Except ε α} {f : α → β} {b : β} :
    x.map f = .ok b ↔ ∃ a, x = .ok a ∧ f a = b := by
  cases x <;> simp [Except.map]

theorem map_eq_error_iff {x : Except ε α} {f : α → β} {e : ε} :
    x.map f = .error e ↔ x = .error e := by
  cases x <;> simp [Except.map]

theorem mapError_eq_ok_iff {δ : Type} {x : Except ε α} {f : ε → δ} {a : α} :
    x.mapError f = .ok a ↔ x = .ok a := by
  cases x <;> simp [Except.mapError]

theorem mapError_eq_error_iff {δ : Type} {x : Except ε α} {f : ε → δ} {d : δ} :
    x.mapError f = .error d ↔ ∃ e, x = .error e ∧ f e = d := by
  cases x <;> simp [Except.mapError]

theorem exists_ok_of_ne_error {x : Except ε α} (h : ∀ e, x ≠ .error e) : ∃ a, x = .ok a := by
  cases x with
  | error e => exact absurd rfl (h e)
  | ok a => exact ⟨a, rfl⟩

theorem mapM_eq_ok_iff {f : α → Except ε β} {xs : List α} {ys : List β} :
    xs.mapM f = .ok ys ↔ List.Forall₂ (fun x y => f x = .ok y) xs ys := by
  induction xs generalizing ys with
  | nil => simp [pure, Except.pure, eq_comm]
  | cons x xs ih =>
    simp only [List.mapM_cons, bind_eq_ok_iff, pure, Except.pure, Except.ok.injEq]
    constructor
    · rintro ⟨y, hy, rest, hrest, rfl⟩
      exact .cons hy (ih.mp hrest)
    · rintro (_ | ⟨hy, hrest⟩)
      exact ⟨_, hy, _, ih.mpr hrest, rfl⟩

theorem mapM_congr_forall₂ {R : α → β → Prop} {f : α → Except ε γ}
    {g : β → Except ε γ} (h : ∀ x y, R x y → f x = g y) {xs : List α} {ys : List β}
    (related : List.Forall₂ R xs ys) : xs.mapM f = ys.mapM g := by
  induction related with
  | nil => rfl
  | cons hx _ ih => rw [List.mapM_cons, List.mapM_cons, h _ _ hx, ih]

theorem exists_forall₂_iff {R : α → β → Prop} {xs : List α} :
    (∃ ys, List.Forall₂ R xs ys) ↔ ∀ x ∈ xs, ∃ y, R x y := by
  induction xs with
  | nil => simp
  | cons x xs ih =>
    rw [List.forall_mem_cons, ← ih]
    constructor
    · rintro ⟨_, _ | ⟨hy, hrest⟩⟩
      exact ⟨⟨_, hy⟩, _, hrest⟩
    · rintro ⟨⟨y, hy⟩, rest, hrest⟩
      exact ⟨y :: rest, .cons hy hrest⟩

theorem exists_mem_of_forall₂ {R : α → β → Prop} {xs : List α} {ys : List β} {y : β}
    (h : List.Forall₂ R xs ys) (hy : y ∈ ys) : ∃ x ∈ xs, R x y := by
  induction h with
  | nil => exact nomatch hy
  | cons hx _ ih =>
    rcases List.mem_cons.mp hy with rfl | hy
    · exact ⟨_, List.mem_cons_self, hx⟩
    · obtain ⟨x, hmem, hx⟩ := ih hy
      exact ⟨x, List.mem_cons_of_mem _ hmem, hx⟩

theorem forall₂_append_iff {R : α → β → Prop} {before after : List α} {ys : List β} :
    List.Forall₂ R (before ++ after) ys ↔ ∃ front back, ys = front ++ back ∧
      List.Forall₂ R before front ∧ List.Forall₂ R after back := by
  constructor
  · intro h
    induction before generalizing ys with
    | nil => exact ⟨[], ys, rfl, .nil, h⟩
    | cons x before ih =>
      rcases h with _ | ⟨hx, h⟩
      obtain ⟨front, back, rfl, hbefore, hafter⟩ := ih h
      exact ⟨_ :: front, back, rfl, .cons hx hbefore, hafter⟩
  · rintro ⟨front, back, rfl, hbefore, hafter⟩
    exact List.rel_append hbefore hafter

theorem forall₂_append_cons {R : α → β → Prop} {before after : List α} {x : α} {ys : List β}
    (h : List.Forall₂ R (before ++ x :: after) ys) : ∃ front y back, ys = front ++ y :: back ∧
      List.Forall₂ R before front ∧ R x y ∧ List.Forall₂ R after back := by
  obtain ⟨front, _, rfl, hbefore, hx | ⟨hx, hafter⟩⟩ := forall₂_append_iff.mp h
  exact ⟨front, _, _, rfl, hbefore, hx, hafter⟩

/-- The failure of a list of items is that of the first item that fails. -/
theorem mapM_eq_error_iff {f : α → Except ε β} {xs : List α} {e : ε} :
    xs.mapM f = .error e ↔ ∃ before x after, xs = before ++ x :: after ∧
      (∀ y ∈ before, ∃ b, f y = .ok b) ∧ f x = .error e := by
  induction xs with
  | nil => simp [pure, Except.pure]
  | cons x xs ih =>
    simp only [List.mapM_cons, bind_eq_error_iff, pure, Except.pure, reduceCtorEq, and_false,
      exists_false, or_false]
    constructor
    · rintro (h | ⟨b, hb, h⟩)
      · exact ⟨[], x, xs, rfl, by simp, h⟩
      · obtain ⟨before, y, after, rfl, hbefore, hy⟩ := ih.mp h
        refine ⟨x :: before, y, after, rfl, ?_, hy⟩
        rintro z (_ | ⟨_, hz⟩)
        · exact ⟨b, hb⟩
        · exact hbefore z hz
    · rintro ⟨before, y, after, h, hbefore, hy⟩
      cases before with
      | nil =>
        obtain ⟨rfl, -⟩ := List.cons.inj h
        exact .inl hy
      | cons z before =>
        obtain ⟨rfl, rfl⟩ := List.cons.inj h
        obtain ⟨b, hb⟩ := hbefore x (by simp)
        exact .inr ⟨b, hb, ih.mpr
          ⟨before, y, after, rfl, fun w hw => hbefore w (by simp [hw]), hy⟩⟩

theorem exists_forall₂_of_sublist {R : α → β → Prop} {xs xs' : List α} {ys : List β}
    (sub : List.Sublist xs' xs) (h : List.Forall₂ R xs ys) :
    ∃ ys', List.Forall₂ R xs' ys' ∧ List.Sublist ys' ys := by
  induction sub generalizing ys with
  | slnil => exact ⟨[], .nil, List.nil_sublist ys⟩
  | cons x _ ih =>
    rcases h with _ | ⟨hx, h⟩
    obtain ⟨ys', hrest, hsub⟩ := ih h
    exact ⟨ys', hrest, hsub.cons _⟩
  | cons_cons x _ ih =>
    rcases h with _ | ⟨hx, h⟩
    obtain ⟨ys', hrest, hsub⟩ := ih h
    exact ⟨_ :: ys', .cons hx hrest, hsub.cons_cons _⟩

/-- A fold whose steps fail for the item alone first reads the items, and then folds what they
gave. -/
theorem foldlM_eq_map_mapM {f : γ → α → Except ε γ} {g : α → Except ε β} {add : γ → β → γ}
    (step : ∀ acc x, f acc x = (g x).map (add acc)) (xs : List α) (acc : γ) :
    xs.foldlM f acc = (xs.mapM g).map (List.foldl add acc) := by
  induction xs generalizing acc with
  | nil => rfl
  | cons x xs ih =>
    rw [List.foldlM_cons, List.mapM_cons, step]
    cases g x with
    | error e => rfl
    | ok y =>
      show xs.foldlM f (add acc y) = _
      rw [ih]
      cases xs.mapM g <;> rfl

/-- What holds at the start of a fold and is kept by its steps holds at its end. -/
theorem foldlM_invariant {f : γ → α → Except ε γ} {P : γ → Prop} {xs : List α} {acc last : γ}
    (keep : ∀ acc x next, x ∈ xs → P acc → f acc x = .ok next → P next) (start : P acc)
    (run : xs.foldlM f acc = .ok last) : P last := by
  induction xs generalizing acc with
  | nil =>
    cases run
    exact start
  | cons x xs ih =>
    rw [List.foldlM_cons, bind_eq_ok_iff] at run
    obtain ⟨next, hstep, hrest⟩ := run
    exact ih (fun a y b hy => keep a y b (List.mem_cons_of_mem x hy))
      (keep acc x next List.mem_cons_self start hstep) hrest

/-! ### How a computation ends -/

/-- A computation ends with a value of some kind, or it fails with a fault of some kind. -/
inductive Ends (F : ε → Prop) (P : α → Prop) : Except ε α → Prop
  | ok {a : α} : P a → Ends F P (.ok a)
  | error {e : ε} : F e → Ends F P (.error e)

namespace Ends

variable {F : ε → Prop} {P : α → Prop} {Q : β → Prop}

theorem bind {x : Except ε α} {f : α → Except ε β} (h : Ends F P x)
    (hnext : ∀ a, P a → Ends F Q (f a)) : Ends F Q (x >>= f) := by
  cases h with
  | ok ha => exact hnext _ ha
  | error he => exact .error he

theorem map {x : Except ε α} {f : α → β} (h : Ends F P x) (hf : ∀ a, P a → Q (f a)) :
    Ends F Q (x.map f) := by
  cases h with
  | ok ha => exact .ok (hf _ ha)
  | error he => exact .error he

theorem ite {c : Prop} [Decidable c] {x y : Except ε α} (hx : Ends F P x) (hy : Ends F P y) :
    Ends F P (if c then x else y) := by
  split
  · exact hx
  · exact hy

theorem mapM {f : α → Except ε β} {xs : List α} (h : ∀ x ∈ xs, Ends F Q (f x)) :
    Ends F (fun ys => ∀ y ∈ ys, Q y) (xs.mapM f) := by
  induction xs with
  | nil => exact .ok (by simp)
  | cons x xs ih =>
    rw [List.forall_mem_cons] at h
    rw [List.mapM_cons]
    exact h.1.bind fun y hy => (ih h.2).bind fun ys hys =>
      .ok (List.forall_mem_cons.mpr ⟨hy, hys⟩)

theorem of_eq_ok {x : Except ε α} {a : α} (h : Ends F P x) (hx : x = .ok a) : P a := by
  cases h with
  | ok ha =>
    cases hx
    exact ha
  | error _ => cases hx

theorem of_eq_error {x : Except ε α} {e : ε} (h : Ends F P x) (hx : x = .error e) : F e := by
  cases h with
  | ok _ => cases hx
  | error he =>
    cases hx
    exact he

end Ends

/-! ### Computations with one view -/

/-- A value on the one side comes with a value on the other, and the two have the same view. -/
def Follows (view : α → β) (x y : Except ε α) : Prop :=
  ∀ a, x = .ok a → ∃ b, y = .ok b ∧ view b = view a

namespace Follows

variable {ι δ : Type} {view : α → β} {x y : Except ε α}

theorem refl (view : α → β) (x : Except ε α) : Follows view x x := fun a h => ⟨a, h, rfl⟩

theorem bind {view' : γ → δ} {f g : α → Except ε γ} (h : Follows view x y)
    (hnext : ∀ a b, view b = view a → Follows view' (f a) (g b)) :
    Follows view' (x >>= f) (y >>= g) := by
  intro c hc
  obtain ⟨a, ha, hc⟩ := bind_eq_ok_iff.mp hc
  obtain ⟨b, hb, hview⟩ := h a ha
  obtain ⟨d, hd, hview'⟩ := hnext a b hview c hc
  exact ⟨d, bind_eq_ok_iff.mpr ⟨b, hb, hd⟩, hview'⟩

theorem map {view' : γ → δ} {f : α → γ} (h : Follows view x y)
    (hf : ∀ a b, view b = view a → view' (f b) = view' (f a)) :
    Follows view' (x.map f) (y.map f) := by
  intro c hc
  obtain ⟨a, ha, rfl⟩ := map_eq_ok_iff.mp hc
  obtain ⟨b, hb, hview⟩ := h a ha
  exact ⟨f b, map_eq_ok_iff.mpr ⟨b, hb, rfl⟩, hf a b hview⟩

theorem mapM {f g : ι → Except ε α} {items : List ι}
    (h : ∀ i ∈ items, Follows view (f i) (g i)) :
    Follows (List.map view) (items.mapM f) (items.mapM g) := by
  induction items with
  | nil => exact refl _ _
  | cons i items ih =>
    obtain ⟨hi, hitems⟩ := List.forall_mem_cons.mp h
    rw [List.mapM_cons, List.mapM_cons]
    refine hi.bind fun a b hab => (ih hitems).bind fun as bs hrest => ?_
    rintro _ ⟨⟩
    exact ⟨b :: bs, rfl, by rw [List.map_cons, List.map_cons, hab, hrest]⟩

/-- Two values that both come with one on a third side have the same view. -/
theorem view_eq {z : Except ε α} (hx : Follows view x z) (hy : Follows view y z) {a b : α}
    (ha : x = .ok a) (hb : y = .ok b) : view a = view b := by
  obtain ⟨c, hc, hac⟩ := hx a ha
  obtain ⟨d, hd, hbd⟩ := hy b hb
  obtain rfl : c = d := Except.ok.inj (hc.symm.trans hd)
  rw [← hac, hbd]

end Follows

end RouteDoc
