import Mathlib.Logic.Relation
import RouteDoc.Proofs.Descent

/-! Cycles below a descent. A model that is found has found every model it leads to, at a smaller
depth, so that none of them leads back to itself. Where nothing else can go wrong, a cycle is also
the only reason for a refusal: the models that are open lead to the one that is read. -/

namespace RouteDoc.Descent

open Relation

variable {α : Type} {refuse : Text → Failure}
  {body : (Text → Except Failure α) → Text → Except Failure α} {leads : Text → Text → Prop}

section

variable (needs : ∀ f name a, body f name = .ok a → ∀ child, leads name child →
  ∃ b, f child = .ok b)
include needs

theorem exists_atDepth_of_transGen {depth : Nat} {a b : Text} {x : α}
    (h : atDepth refuse body depth a = .ok x) (hab : TransGen leads a b) :
    ∃ d < depth, ∃ y, atDepth refuse body d b = .ok y := by
  have step : ∀ {depth a b} {x : α}, atDepth refuse body depth a = .ok x → leads a b →
      ∃ d < depth, ∃ y, atDepth refuse body d b = .ok y := by
    intro depth a b x h hab
    cases depth with
    | zero => exact nomatch h
    | succ depth => exact ⟨depth, Nat.lt_succ_self depth, needs _ a x h b hab⟩
  induction hab with
  | single hab => exact step h hab
  | tail _ hbc ih =>
    obtain ⟨d, hd, y, hy⟩ := ih
    obtain ⟨e, he, z, hz⟩ := step hy hbc
    exact ⟨e, by omega, z, hz⟩

theorem not_cycle_of_atDepth_eq_ok {depth : Nat} {name : Text} {x : α}
    (h : atDepth refuse body depth name = .ok x) : ¬TransGen leads name name := by
  intro hcycle
  -- Round the cycle the model would be found again at ever smaller depths.
  induction depth using Nat.strongRecOn generalizing x with
  | _ depth ih =>
    obtain ⟨d, hd, y, hy⟩ := exists_atDepth_of_transGen needs h hcycle
    exact ih d hd hy

theorem not_cycle_of_run_eq_ok {names : List Text} (lawful : Lawful refuse body names) {fuel : Nat}
    (enough : names.length < fuel) {a b : Text} {x : α} (h : run refuse body fuel [] a = .ok x)
    (hab : ReflTransGen leads a b) : ¬TransGen leads b b := by
  obtain ⟨depth, hdepth⟩ := (lawful.run_eq_iff_atDepth enough (settled_ok x) a).mp h
  rcases reflTransGen_iff_eq_or_transGen.mp hab with rfl | hab
  · exact not_cycle_of_atDepth_eq_ok needs hdepth
  · obtain ⟨d, -, y, hy⟩ := exists_atDepth_of_transGen needs hdepth hab
    exact not_cycle_of_atDepth_eq_ok needs hy

end

/-- Below a model where only the models that it leads to can fail, a descent fails for a model on a
cycle. One of the open models is met again only by closing a cycle, since they all lead to the one
that is read, and there are too few of them to run out of fuel. -/
theorem exists_cycle_of_run_eq_error {names : List Text} {sound : Text → Prop}
    (known : ∀ name child, leads name child → name ∈ names)
    (blames : ∀ f name failure, sound name → body f name = .error failure →
      ∃ child, leads name child ∧ f child = .error failure)
    {fuel : Nat} {opened : List Text} {name : Text} {failure : Failure} (distinct : opened.Nodup)
    (among : opened ⊆ names) (enough : names.length < fuel + opened.length)
    (above : ∀ o ∈ opened, TransGen leads o name)
    (allSound : ∀ m, ReflTransGen leads name m → sound m)
    (h : run refuse body fuel opened name = .error failure) :
    ∃ m, failure = refuse m ∧ ReflTransGen leads name m ∧ TransGen leads m m := by
  induction fuel generalizing opened name with
  | zero =>
    have := (List.subperm_of_subset distinct among).length_le
    omega
  | succ fuel ih =>
    by_cases ho : name ∈ opened
    · -- A model that is open leads to the one that is read, which is itself.
      simp only [run, List.contains_iff_mem.mpr ho, if_true, Except.error.injEq] at h
      exact ⟨name, h.symm, .refl, above name ho⟩
    simp only [run, List.contains_iff_mem, ho, if_false] at h
    obtain ⟨child, hchild, h⟩ := blames _ name failure (allSound name .refl) h
    have habove : ∀ o ∈ name :: opened, TransGen leads o child := by
      intro o hmem
      rcases List.mem_cons.mp hmem with rfl | hmem
      · exact .single hchild
      · exact (above o hmem).tail hchild
    have henough : names.length < fuel + (name :: opened).length := by
      rw [List.length_cons]
      omega
    obtain ⟨m, hfailure, hreaches, hcycle⟩ := ih (List.nodup_cons.mpr ⟨ho, distinct⟩)
      (List.cons_subset.mpr ⟨known name child hchild, among⟩) henough habove
      (fun m hm => allSound m (.head hchild hm)) h
    exact ⟨m, hfailure, .head hchild hreaches, hcycle⟩

end RouteDoc.Descent
