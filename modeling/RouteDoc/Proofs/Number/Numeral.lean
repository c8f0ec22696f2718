import RouteDoc.Number.Numeral

/-! Whole numbers in decimal digits are read back. -/

namespace RouteDoc.Numeral

theorem digitValue?_of_isDigit {c : Char} (h : c.isDigit = true) :
    Text.digitValue? c = some (c.toNat - 48) := by
  have hrange : 48 ≤ c.toNat ∧ c.toNat ≤ 57 := by
    simpa [Char.isDigit, UInt32.le_iff_toNat_le] using h
  have hascii : c.toNat < 128 := by omega
  simp [Text.digitValue?, hascii, hrange]

theorem isDigit_of_mem_ofNat {n : Nat} {c : Char} (h : c ∈ Text.ofNat n) : c.isDigit = true := by
  rw [Text.ofNat, Nat.repr, String.toList_ofList] at h
  exact Nat.isDigit_of_mem_toDigits (by decide) (by decide) h

theorem ofNat_ne_nil (n : Nat) : Text.ofNat n ≠ [] := by
  rw [Text.ofNat, Nat.repr, String.toList_ofList]
  exact Nat.toDigits_ne_nil

theorem ofText_eq_ofDigitChars (t : Text) : ofText t = Nat.ofDigitChars 10 t 0 := by
  have hfold : ∀ n, (t.map fun c => c.toNat - 48).foldl (fun n d => 10 * n + d) n =
      Nat.ofDigitChars 10 t n := by
    induction t with
    | nil => intro n; rfl
    | cons c t ih => intro n; exact ih _
  exact hfold 0

theorem ofText_ofNat (n : Nat) : ofText (Text.ofNat n) = n := by
  rw [ofText_eq_ofDigitChars, Text.ofNat, Nat.repr, String.toList_ofList]
  exact Nat.ofDigitChars_toDigits (by decide) (by decide)

theorem mapM_digitValue? {t : Text} (h : ∀ c ∈ t, c.isDigit = true) :
    t.mapM Text.digitValue? = some (t.map fun c => c.toNat - 48) := by
  induction t with
  | nil => rfl
  | cons c t ih =>
    obtain ⟨hc, ht⟩ := List.forall_mem_cons.mp h
    rw [List.mapM_cons, digitValue?_of_isDigit hc, ih ht]
    rfl

theorem cutSign_of_isDigit {t : Text} (h : ∀ c ∈ t.head?, c.isDigit = true) :
    cutSign t = (false, t) := by
  unfold cutSign
  split
  · exact nomatch h _ rfl
  · exact nomatch h _ rfl
  · rfl

theorem cutSign_ofInt (n : Int) :
    cutSign (Text.ofInt n) = (decide (n < 0), Text.ofNat n.natAbs) := by
  cases n with
  | negSucc n =>
    rw [decide_eq_true (Int.negSucc_lt_zero n)]
    rfl
  | ofNat n =>
    have hhead : ∀ c ∈ (Text.ofNat n).head?, c.isDigit = true :=
      fun _ hc => isDigit_of_mem_ofNat (List.mem_of_head? hc)
    have hnonneg : ¬Int.ofNat n < 0 := Int.not_lt.mpr (Int.natCast_nonneg n)
    rw [decide_eq_false hnonneg]
    exact cutSign_of_isDigit hhead

theorem integer?_ofInt (n : Int) : integer? (Text.ofInt n) =
    some (decide (n < 0), (Text.ofNat n.natAbs).map fun c => c.toNat - 48) := by
  have hdigits : ∀ c ∈ Text.ofNat n.natAbs, c.isDigit = true := fun _ => isDigit_of_mem_ofNat
  rw [integer?, cutSign_ofInt]
  simp [ofNat_ne_nil, mapM_digitValue? hdigits]

theorem toInt_ofNat (n : Int) :
    toInt (decide (n < 0)) ((Text.ofNat n.natAbs).map fun c => c.toNat - 48) = n := by
  have hvalue : ofDigits ((Text.ofNat n.natAbs).map fun c => c.toNat - 48) = n.natAbs :=
    ofText_ofNat n.natAbs
  rw [toInt, hvalue]
  split
  · next h =>
    have := of_decide_eq_true h
    omega
  · next h =>
    have := of_decide_eq_false (eq_false_of_ne_true h)
    omega

/-! ### Whole numbers in any digits -/

/-- A whole number: one or more decimal digits of any script, behind a sign or none. -/
def IsInteger (t : Text) : Prop :=
  ∃ sign digits, sign ∈ [[], ['+'], ['-']] ∧ digits ≠ [] ∧
    (∀ c ∈ digits, Text.isDecimal c = true) ∧ t = sign ++ digits

theorem mapM_digitValue?_eq_none_iff {t : Text} :
    t.mapM Text.digitValue? = none ↔ ¬∀ c ∈ t, Text.isDecimal c = true := by
  induction t with
  | nil => simp
  | cons c t ih =>
    rw [List.mapM_cons, List.forall_mem_cons, Text.isDecimal]
    cases Text.digitValue? c with
    | none => simp
    | some d =>
      cases hrest : t.mapM Text.digitValue? with
      | none => simp [ih.mp hrest]
      | some ds =>
        have hall : ∀ c ∈ t, Text.isDecimal c = true := by simpa [hrest] using ih
        simpa using hall

theorem exists_cutSign (t : Text) :
    ∃ sign, sign ∈ [[], ['+'], ['-']] ∧ t = sign ++ (cutSign t).2 := by
  unfold cutSign
  split
  · exact ⟨['+'], by simp, rfl⟩
  · exact ⟨['-'], by simp, rfl⟩
  · exact ⟨[], by simp, rfl⟩

theorem cutSign_append {sign digits : Text} (hsign : sign ∈ [[], ['+'], ['-']])
    (hdigits : ∀ c ∈ digits, Text.isDecimal c = true) : (cutSign (sign ++ digits)).2 = digits := by
  simp only [List.mem_cons, List.not_mem_nil, or_false] at hsign
  rcases hsign with rfl | rfl | rfl
  · rw [List.nil_append]
    unfold cutSign
    split
    · exact absurd (hdigits _ List.mem_cons_self) (by decide)
    · exact absurd (hdigits _ List.mem_cons_self) (by decide)
    · rfl
  · rfl
  · rfl

theorem integer?_eq_none_iff {t : Text} : integer? t = none ↔ ¬IsInteger t := by
  have hread : integer? t = none ↔
      (cutSign t).2 = [] ∨ ¬∀ c ∈ (cutSign t).2, Text.isDecimal c = true := by
    rw [← mapM_digitValue?_eq_none_iff]
    by_cases hempty : (cutSign t).2 = [] <;> simp [integer?, hempty]
  rw [hread]
  constructor
  · rintro h ⟨sign, digits, hsign, hne, hdigits, rfl⟩
    rw [cutSign_append hsign hdigits] at h
    exact h.elim hne (absurd hdigits)
  · intro h
    refine Classical.byContradiction fun hvalid => ?_
    obtain ⟨hne, hdigits⟩ := not_or.mp hvalid
    obtain ⟨sign, hsign, hsplit⟩ := exists_cutSign t
    exact h ⟨sign, _, hsign, hne, Classical.not_not.mp hdigits, hsplit⟩

theorem length_of_mapM_digitValue? {t : Text} {digits : List Nat}
    (h : t.mapM Text.digitValue? = some digits) : digits.length = t.length := by
  induction t generalizing digits with
  | nil =>
    cases h
    rfl
  | cons c t ih =>
    rw [List.mapM_cons] at h
    obtain ⟨d, -, hrest⟩ := Option.bind_eq_some_iff.mp h
    obtain ⟨ds, hds, hcons⟩ := Option.bind_eq_some_iff.mp hrest
    cases hcons
    rw [List.length_cons, List.length_cons, ih hds]

/-- A number has no more digits than its text has characters. -/
theorem length_le_of_integer? {t : Text} {negative : Bool} {digits : List Nat}
    (h : integer? t = some (negative, digits)) : digits.length ≤ t.length := by
  obtain ⟨sign, -, hsplit⟩ := exists_cutSign t
  rw [integer?] at h
  generalize cutSign t = signed at h hsplit
  dsimp only at h
  split at h
  · cases h
  · obtain ⟨ds, hds, hpair⟩ := Option.map_eq_some_iff.mp h
    cases hpair
    rw [length_of_mapM_digitValue? hds, hsplit, List.length_append]
    exact Nat.le_add_left _ _

end RouteDoc.Numeral
