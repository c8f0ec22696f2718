/-! The lexicographic order of lists: by the first items that differ, and a list before its
continuations. From a total order of items it makes a total order of lists. -/

namespace RouteDoc

/-- Whether a list comes before another or is the same, given the same of items. -/
def lexLe {α : Type} [DecidableEq α] (le : α → α → Bool) : List α → List α → Bool
  | [], _ => true
  | _ :: _, [] => false
  | a :: s, b :: t => if a = b then lexLe le s t else le a b

variable {α : Type} [DecidableEq α] {le : α → α → Bool}

theorem lexLe_total (total : ∀ a b, (le a b || le b a) = true) (s t : List α) :
    (lexLe le s t || lexLe le t s) = true := by
  induction s generalizing t with
  | nil => simp [lexLe]
  | cons a s ih =>
    cases t with
    | nil => simp [lexLe]
    | cons b t =>
      by_cases h : a = b
      · simpa [lexLe, h] using ih t
      · simpa [lexLe, h, Ne.symm h] using total a b

theorem lexLe_antisymm (antisymm : ∀ a b, le a b = true → le b a = true → a = b) {s t : List α}
    (hst : lexLe le s t = true) (hts : lexLe le t s = true) : s = t := by
  induction s generalizing t with
  | nil =>
    cases t with
    | nil => rfl
    | cons b t => simp [lexLe] at hts
  | cons a s ih =>
    cases t with
    | nil => simp [lexLe] at hst
    | cons b t =>
      by_cases h : a = b
      · simp only [lexLe, h, if_true] at hst hts
        rw [h, ih hst hts]
      · simp only [lexLe, h, Ne.symm h, if_false] at hst hts
        exact absurd (antisymm a b hst hts) h

theorem lexLe_trans (trans : ∀ a b c, le a b = true → le b c = true → le a c = true)
    (antisymm : ∀ a b, le a b = true → le b a = true → a = b) {s t u : List α}
    (hst : lexLe le s t = true) (htu : lexLe le t u = true) : lexLe le s u = true := by
  induction s generalizing t u with
  | nil => simp [lexLe]
  | cons a s ih =>
    cases t with
    | nil => simp [lexLe] at hst
    | cons b t =>
      cases u with
      | nil => simp [lexLe] at htu
      | cons c u =>
        by_cases hab : a = b
        · subst hab
          by_cases hac : a = c
          · simp only [lexLe, hac, if_true] at hst htu ⊢
            exact ih hst htu
          · simpa [lexLe, hac] using htu
        · by_cases hbc : b = c
          · simpa [lexLe, ← hbc, hab] using hst
          · simp only [lexLe, hab, hbc, if_false] at hst htu
            have hac : a ≠ c := by
              rintro rfl
              exact hab (antisymm a b hst htu)
            simpa [lexLe, hac] using trans a b c hst htu

end RouteDoc
