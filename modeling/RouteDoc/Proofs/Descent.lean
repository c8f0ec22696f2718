import Mathlib.Data.List.Perm.Subperm
import RouteDoc.Proofs.Outcome
import RouteDoc.Schema.Fault

/-! Descents: computations that pass from a model to the models it refers to, and refuse a model
that is still open. The list of open models is invisible in every other outcome: a result that is
not a refusal is the one found by opening models to some depth, whatever is open, and it is a fixed
point of what a single model does. -/

namespace RouteDoc.Descent

variable {α β : Type} (refuse : Text → Failure)
  (body : (Text → Except Failure α) → Text → Except Failure α)

/-- Read a model, where `body` reads one from what is found for those it refers to. A model that is
open is refused, and so is every model without fuel. -/
def run : Nat → List Text → Text → Except Failure α
  | 0, _, name => .error (refuse name)
  | fuel + 1, opened, name =>
    if opened.contains name then .error (refuse name) else body (run fuel (name :: opened)) name

/-- What a model gives when models are opened down to a depth. -/
def atDepth : Nat → Text → Except Failure α
  | 0, name => .error (refuse name)
  | depth + 1, name => body (atDepth depth) name

/-- An outcome that says no more than another: the same one, or a refusal. -/
def Below (x y : Except Failure α) : Prop := x = y ∨ ∃ name, x = .error (refuse name)

/-- An outcome that is not a refusal. -/
def Settled (x : Except Failure α) : Prop := ∀ name, x ≠ .error (refuse name)

variable {refuse body}

theorem settled_ok (a : α) : Settled refuse (.ok a) := fun _ h => nomatch h

namespace Below

variable {x y z : Except Failure α}

theorem refl (x : Except Failure α) : Below refuse x x := .inl rfl

theorem refused (name : Text) (y : Except Failure α) : Below refuse (.error (refuse name)) y :=
  .inr ⟨name, rfl⟩

theorem eq (h : Below refuse x y) (settled : Settled refuse x) : x = y := by
  rcases h with h | ⟨name, h⟩
  · exact h
  · exact absurd h (settled name)

theorem ok {a : α} (h : Below refuse x y) (hx : x = .ok a) : y = .ok a := by
  subst hx
  exact (h.eq (settled_ok a)).symm

theorem bind {f g : α → Except Failure β} (h : Below refuse x y)
    (hf : ∀ a, Below refuse (f a) (g a)) : Below refuse (x >>= f) (y >>= g) := by
  rcases h with rfl | ⟨name, rfl⟩
  · cases x with
    | error e => exact refl _
    | ok a => exact hf a
  · exact refused name _

theorem map (h : Below refuse x y) (f : α → β) : Below refuse (x.map f) (y.map f) := by
  rcases h with rfl | ⟨name, rfl⟩
  · exact refl _
  · exact refused name _

theorem mapM {ι : Type} {f g : ι → Except Failure β} {items : List ι}
    (h : ∀ i ∈ items, Below refuse (f i) (g i)) :
    Below refuse (items.mapM f) (items.mapM g) := by
  induction items with
  | nil => exact refl _
  | cons i items ih =>
    rw [List.mapM_cons, List.mapM_cons]
    refine bind (h i List.mem_cons_self) fun b => ?_
    exact bind (ih fun j hj => h j (List.mem_cons_of_mem i hj)) fun bs => refl _

end Below

/-- Two ways of reading single models that keep to one view make descents that keep to it. -/
theorem run_follows {body' : (Text → Except Failure α) → Text → Except Failure α} {view : α → β}
    (step : ∀ f g, (∀ n, Follows view (f n) (g n)) → ∀ name,
      Follows view (body f name) (body' g name)) (fuel : Nat) (opened : List Text) (name : Text) :
    Follows view (run refuse body fuel opened name) (run refuse body' fuel opened name) := by
  induction fuel generalizing opened name with
  | zero => exact .refl view _
  | succ fuel ih =>
    rw [run, run]
    split
    · exact .refl view _
    · exact step _ _ (fun n => ih _ n) name

variable (refuse body) in
/-- What is asked of the reading of a single model: it says more when more is found for other
models, and asks for other models only where it is one of `names` itself. -/
structure Lawful (names : List Text) : Prop where
  mono : ∀ (f g : Text → Except Failure α) (name : Text),
    (∀ n, Below refuse (f n) (g n)) → Below refuse (body f name) (body g name)
  leaf : ∀ (f g : Text → Except Failure α) (name : Text), name ∉ names → body f name = body g name

namespace Lawful

variable {names : List Text} (lawful : Lawful refuse body names)
include lawful

/-- With more fuel and fewer open models, only refusals change. -/
theorem run_below {fuel fuel' : Nat} {opened opened' : List Text} (more : fuel ≤ fuel')
    (fewer : opened' ⊆ opened) (name : Text) :
    Below refuse (run refuse body fuel opened name) (run refuse body fuel' opened' name) := by
  induction fuel generalizing fuel' opened opened' name with
  | zero => exact .refused name _
  | succ fuel ih =>
    obtain ⟨fuel', rfl⟩ : ∃ k, fuel' = k + 1 := ⟨fuel' - 1, by omega⟩
    by_cases h : name ∈ opened
    · simp only [run, List.contains_iff_mem.mpr h, if_true]
      exact .refused name _
    · have h' : name ∉ opened' := fun hm => h (fewer hm)
      simp only [run, List.contains_iff_mem, h, h', if_false]
      exact lawful.mono _ _ name fun n => ih (by omega) (List.cons_subset_cons name fewer) n

theorem atDepth_below {depth depth' : Nat} (more : depth ≤ depth') (name : Text) :
    Below refuse (atDepth refuse body depth name) (atDepth refuse body depth' name) := by
  induction depth generalizing depth' name with
  | zero => exact .refused name _
  | succ depth ih =>
    obtain ⟨depth', rfl⟩ : ∃ k, depth' = k + 1 := ⟨depth' - 1, by omega⟩
    exact lawful.mono _ _ name fun n => ih (by omega) n

theorem run_below_atDepth (fuel : Nat) (opened : List Text) (name : Text) :
    Below refuse (run refuse body fuel opened name) (atDepth refuse body fuel name) := by
  induction fuel generalizing opened name with
  | zero => exact .refused name _
  | succ fuel ih =>
    by_cases h : name ∈ opened
    · simp only [run, List.contains_iff_mem.mpr h, if_true]
      exact .refused name _
    · simp only [run, List.contains_iff_mem, h, if_false]
      exact lawful.mono _ _ name fun n => ih _ n

/-- Models that are not settled at a depth may be open without changing what is settled there. -/
theorem atDepth_below_run {depth fuel : Nat} {opened : List Text} (enough : depth ≤ fuel)
    (deeper : ∀ n ∈ opened, ¬Settled refuse (atDepth refuse body depth n)) (name : Text) :
    Below refuse (atDepth refuse body depth name) (run refuse body fuel opened name) := by
  induction depth generalizing fuel opened name with
  | zero => exact .refused name _
  | succ depth ih =>
    have shallow : ∀ n, ¬Settled refuse (atDepth refuse body (depth + 1) n) →
        ¬Settled refuse (atDepth refuse body depth n) := fun n h hs =>
      h ((lawful.atDepth_below (Nat.le_succ depth) n).eq hs ▸ hs)
    -- The first depth at which a model settles falls from a model to those it refers to, so a
    -- model that settles here at the earliest is not among those that are open.
    by_cases hs : Settled refuse (atDepth refuse body depth name)
    · rw [← (lawful.atDepth_below (Nat.le_succ depth) name).eq hs]
      exact ih (by omega) (fun n hn => shallow n (deeper n hn)) name
    · by_cases ho : name ∈ opened
      · obtain ⟨n, hn⟩ := not_forall_not.mp (deeper name ho)
        exact .inr ⟨n, hn⟩
      · obtain ⟨fuel, rfl⟩ : ∃ k, fuel = k + 1 := ⟨fuel - 1, by omega⟩
        simp only [run, List.contains_iff_mem, ho, if_false]
        refine lawful.mono _ _ name fun n => ih (by omega) ?_ n
        rintro m (_ | ⟨_, hm⟩)
        · exact hs
        · exact shallow m (deeper m hm)

/-- No more models can be open than there are: fuel beyond that number is never used. -/
theorem run_fuel {fuel fuel' : Nat} {opened : List Text} (distinct : opened.Nodup)
    (known : opened ⊆ names) (enough : names.length < fuel + opened.length) (more : fuel ≤ fuel')
    (name : Text) : run refuse body fuel' opened name = run refuse body fuel opened name := by
  induction fuel generalizing fuel' opened name with
  | zero =>
    -- Without fuel, more models would be open than there are.
    have := (List.subperm_of_subset distinct known).length_le
    omega
  | succ fuel ih =>
    obtain ⟨fuel', rfl⟩ : ∃ k, fuel' = k + 1 := ⟨fuel' - 1, by omega⟩
    by_cases ho : name ∈ opened
    · simp only [run, List.contains_iff_mem.mpr ho, if_true]
    simp only [run, List.contains_iff_mem, ho, if_false]
    by_cases hn : name ∈ names
    · congr 1
      funext n
      exact ih (List.nodup_cons.mpr ⟨ho, distinct⟩) (List.cons_subset.mpr ⟨hn, known⟩)
        (by rw [List.length_cons]; omega) (by omega) n
    · exact lawful.leaf _ _ name hn

variable {fuel : Nat} (enough : names.length < fuel)
include enough

/-- What a descent finds, refusals apart, is what is found at some depth. -/
theorem run_eq_iff_atDepth {x : Except Failure α} (settled : Settled refuse x) (name : Text) :
    run refuse body fuel [] name = x ↔ ∃ depth, atDepth refuse body depth name = x := by
  constructor
  · rintro rfl
    exact ⟨fuel, ((lawful.run_below_atDepth fuel [] name).eq settled).symm⟩
  · rintro ⟨depth, rfl⟩
    rw [← lawful.run_fuel List.nodup_nil (List.nil_subset _) (by simpa using enough)
      (Nat.le_max_left fuel depth) name]
    exact ((lawful.atDepth_below_run (Nat.le_max_right fuel depth) (by simp) name).eq settled).symm

/-- Refusals apart, a model gives what its reading finds when every model it refers to is read on
its own, with nothing open. -/
theorem run_eq_iff_body {x : Except Failure α} (settled : Settled refuse x) (name : Text) :
    run refuse body fuel [] name = x ↔ body (run refuse body fuel []) name = x := by
  constructor
  · rintro rfl
    have hfuel := lawful.run_fuel List.nodup_nil (List.nil_subset _) (by simpa using enough)
      (Nat.le_succ fuel) name
    have hbelow : Below refuse (run refuse body (fuel + 1) [] name)
        (body (run refuse body fuel []) name) :=
      lawful.mono _ _ name fun n => lawful.run_below (Nat.le_refl fuel) (List.nil_subset _) n
    rw [hfuel] at hbelow
    exact (hbelow.eq settled).symm
  · rintro rfl
    have hbelow : Below refuse (body (run refuse body fuel []) name)
        (atDepth refuse body (fuel + 1) name) :=
      lawful.mono _ _ name fun n => lawful.run_below_atDepth fuel [] n
    exact (lawful.run_eq_iff_atDepth enough settled name).mpr
      ⟨fuel + 1, (hbelow.eq settled).symm⟩

/-- What every settled outcome of a model has, when it is passed on from the outcomes of those that
the model is read from, every settled outcome of a descent has. -/
theorem run_induction {P : Text → Except Failure α → Prop}
    (step : ∀ name x f, (∀ n, Below refuse (f n) (run refuse body fuel [] n)) →
      (∀ n y, Settled refuse y → f n = y → P n y) → Settled refuse x → body f name = x → P name x)
    {name : Text} {x : Except Failure α} (settled : Settled refuse x)
    (h : run refuse body fuel [] name = x) : P name x := by
  obtain ⟨depth, hdepth⟩ := (lawful.run_eq_iff_atDepth enough settled name).mp h
  clear h
  induction depth generalizing name x with
  | zero => exact absurd hdepth.symm (settled name)
  | succ depth ih =>
    refine step name x (atDepth refuse body depth) (fun n => ?_) (fun n y hy => ih hy) settled
      hdepth
    by_cases hs : Settled refuse (atDepth refuse body depth n)
    · exact .inl ((lawful.run_eq_iff_atDepth enough hs n).mpr ⟨depth, rfl⟩).symm
    · exact .inr (not_forall_not.mp hs)

end Lawful

end RouteDoc.Descent
