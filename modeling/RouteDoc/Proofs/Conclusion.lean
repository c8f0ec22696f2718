import RouteDoc.Proofs.Descent

/-! How descents end when nothing bounds their depth. A model that is not open is read from the
outcomes of the models it asks for, each with one more model open. Since fewer models are left to be
opened every time, each model comes to one outcome, and a descent with enough fuel finds it. -/

namespace RouteDoc.Descent

variable {α : Type}

/-- The number of names that are not open. -/
def unopened (names opened : List Text) : Nat := names.countP (· ∉ opened)

theorem unopened_nil (names : List Text) : unopened names [] = names.length := by
  simp [unopened]

theorem unopened_cons_left (name : Text) (names opened : List Text) :
    unopened (name :: names) opened = unopened names opened + if name ∈ opened then 0 else 1 := by
  rw [unopened, List.countP_cons]
  by_cases h : name ∈ opened <;> simp [h, unopened]

theorem unopened_cons_right_le (names opened : List Text) (name : Text) :
    unopened names (name :: opened) ≤ unopened names opened :=
  List.countP_mono_left fun n _ h => by simp_all

theorem unopened_cons_right_lt {names opened : List Text} {name : Text} (known : name ∈ names)
    (fresh : name ∉ opened) : unopened names (name :: opened) < unopened names opened := by
  induction names with
  | nil => exact nomatch known
  | cons other more ih =>
    rw [unopened_cons_left, unopened_cons_left]
    by_cases hother : other = name
    · have hle := unopened_cons_right_le more opened name
      rw [hother, if_pos List.mem_cons_self, if_neg fresh]
      omega
    · have hlt := ih ((List.mem_cons.mp known).resolve_left (Ne.symm hother))
      simp only [List.mem_cons, hother, false_or]
      omega

variable (refuse : Text → Failure)
  (body : (Text → Except Failure α) → Text → Except Failure α)
  (asks : List Text → Text → Text → Prop)

/-- The outcome to which a model comes while some models are open: the refusal if it is one of them,
and otherwise what `body` makes of the outcomes of the models it asks for. -/
inductive Concludes : List Text → Text → Except Failure α → Prop
  | refused {opened : List Text} {name : Text} : name ∈ opened →
    Concludes opened name (.error (refuse name))
  | read {opened : List Text} {name : Text} (model : Text → Except Failure α) : name ∉ opened →
    (∀ child, asks opened name child → Concludes (name :: opened) child (model child)) →
    Concludes opened name (body model name)

/-- Only the models of a list ask for others, and the reading of a model needs no more than the
outcomes of those it asks for. -/
structure Local (names : List Text) : Prop where
  known : ∀ opened name child, asks opened name child → name ∈ names
  congr : ∀ f g opened name, name ∉ opened → (∀ child, asks opened name child → f child = g child) →
    body f name = body g name

variable {refuse body asks}

namespace Local

variable {names : List Text} (localized : Local body asks names)
include localized

theorem concludes_run {fuel : Nat} {opened : List Text} (enough : unopened names opened < fuel)
    (name : Text) : Concludes refuse body asks opened name (run refuse body fuel opened name) := by
  induction fuel generalizing opened name with
  | zero => exact nomatch enough
  | succ fuel ih =>
    by_cases h : name ∈ opened
    · simp only [run, List.contains_iff_mem.mpr h, if_true]
      exact .refused h
    · simp only [run, List.contains_iff_mem, h, if_false]
      refine .read _ h fun child hchild => ih ?_ child
      have hless := unopened_cons_right_lt (localized.known opened name child hchild) h
      omega

theorem eq_run_of_concludes {fuel : Nat} {opened : List Text} {name : Text} {x : Except Failure α}
    (h : Concludes refuse body asks opened name x) (enough : unopened names opened < fuel) :
    x = run refuse body fuel opened name := by
  induction h generalizing fuel with
  | @refused opened name h =>
    obtain ⟨fuel, rfl⟩ : ∃ k, fuel = k + 1 := ⟨fuel - 1, by omega⟩
    simp only [run, List.contains_iff_mem.mpr h, if_true]
  | @read opened name model h _ ih =>
    obtain ⟨fuel, rfl⟩ : ∃ k, fuel = k + 1 := ⟨fuel - 1, by omega⟩
    simp only [run, List.contains_iff_mem, h, if_false]
    refine localized.congr _ _ opened name h fun child hchild => ih child hchild ?_
    have hless := unopened_cons_right_lt (localized.known opened name child hchild) h
    omega

/-- Every model comes to one outcome, whatever is open. -/
theorem existsUnique (opened : List Text) (name : Text) :
    ∃! x, Concludes refuse body asks opened name x :=
  ⟨_, localized.concludes_run (Nat.lt_succ_self _) name,
    fun _ h => localized.eq_run_of_concludes h (Nat.lt_succ_self _)⟩

end Local

end RouteDoc.Descent
