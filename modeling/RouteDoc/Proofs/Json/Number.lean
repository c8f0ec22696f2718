import Mathlib
import RouteDoc.Json.Printer
import RouteDoc.Json.Reader
import RouteDoc.Proofs.Number.Text
import RouteDoc.Proofs.Text.Blank

/-! Numbers in JSON. What is written for a finite number is in the grammar of RFC 8259, and the
reader finds the number in it. -/

namespace RouteDoc

namespace Numeral

theorem isDigit_pointed_append (fraction : Text) {exponent : Text}
    (h : ∀ c ∈ exponent.head?, c.isDigit = false) :
    ∀ c ∈ (pointed fraction ++ exponent).head?, c.isDigit = false := by
  unfold pointed
  split
  · exact h
  · intro c hc
    obtain rfl : '.' = c := Option.some.inj hc
    rfl

/-- The parts of a decimal are found where they were put together. -/
theorem decimal?_append {whole fraction exponent : Text} {shift : Int} (hwhole : IsWhole whole)
    (hfraction : ∀ c ∈ fraction, c.isDigit = true)
    (hhead : ∀ c ∈ exponent.head?, c.isDigit = false ∧ c ≠ '.')
    (hshift : exponent? exponent = some shift) :
    decimal? (whole ++ (pointed fraction ++ exponent)) =
      some (ofText (whole ++ fraction), shift - fraction.length) := by
  obtain ⟨hne, hdigits, -⟩ := hwhole
  have hstop : ∀ c ∈ exponent.head?, c.isDigit = false := fun c hc => (hhead c hc).1
  have hrest := isDigit_pointed_append fraction hstop
  unfold decimal?
  dsimp only
  rw [Text.takeWhile_append_of_head hdigits hrest, Text.dropWhile_append_of_head hdigits hrest]
  cases fraction with
  | nil =>
    rw [show pointed [] ++ exponent = exponent from rfl]
    cases exponent with
    | nil => simp [hne, hshift]
    | cons d exponent =>
      have hpoint : d ≠ '.' := (hhead d rfl).2
      simp [hne, hpoint, hshift]
  | cons d fraction =>
    rw [show pointed (d :: fraction) ++ exponent = '.' :: (d :: fraction ++ exponent) from rfl]
    simp only [Text.takeWhile_append_of_head hfraction hstop,
      Text.dropWhile_append_of_head hfraction hstop, hshift]
    simp [hne]

theorem exponent?_exponentText (x : Int) : exponent? ('e' :: Binary64.exponentText x) = some x := by
  obtain ⟨digits, hne, hdigits, hvalue, htext⟩ := Binary64.exponentText_eq x
  have hcut : cutSign (Binary64.exponentText x) = (decide (x < 0), digits) := by
    rw [htext]
    by_cases hx : x < 0
    · rw [if_pos hx, decide_eq_true hx]
      rfl
    · rw [if_neg hx, decide_eq_false hx]
      rfl
  have hall : digits.all Char.isDigit = true := List.all_eq_true.mpr hdigits
  have hfull : ¬List.isEmpty digits = true := by simpa using hne
  simp only [exponent?, hcut, hvalue, decide_eq_true_eq]
  rw [if_pos ⟨.inl trivial, hfull, hall⟩]
  congr 1
  split <;> omega

end Numeral

namespace Json

open Numeral

/-- The sign of a number. -/
def sign (negative : Bool) : Text := if negative then ['-'] else []

/-- A number whose parts are put together is read as a whole number or a decimal. -/
theorem number?_append (negative : Bool) {whole rest : Text} (hwhole : IsWhole whole)
    (hrest : ∀ c ∈ rest.head?, c.isDigit = false) :
    number? (sign negative ++ (whole ++ rest)) =
      if rest.isEmpty then
        some (.int (if negative then -(ofText whole : Int) else ofText whole))
      else do
        match rest with
        | '.' :: after => guard (after.head?.elim false Char.isDigit)
        | _ => pure ()
        let (digits, exponent) ← decimal? (whole ++ rest)
        return .float (.ofDecimal negative digits exponent) := by
  obtain ⟨hne, hdigits, hzero⟩ := hwhole
  have hminus : ∀ t, whole ++ rest ≠ '-' :: t := by
    intro t heq
    obtain ⟨c, whole, rfl⟩ := List.exists_cons_of_ne_nil hne
    have hc := hdigits c List.mem_cons_self
    rw [(List.cons.inj heq).1] at hc
    exact nomatch hc
  have hguard : (!whole.isEmpty && (whole.length = 1 || whole.head? != some '0')) = true := by
    simpa [hne] using hzero
  have htake := Text.takeWhile_append_of_head hdigits hrest
  have hdrop := Text.dropWhile_append_of_head hdigits hrest
  cases negative with
  | true =>
    simp only [number?, sign, if_true, List.cons_append, List.nil_append, htake, hdrop, hguard]
    rfl
  | false =>
    simp only [number?, sign, Bool.false_eq_true, if_false, List.nil_append, htake, hdrop,
      hguard]
    rfl

theorem ofInt_eq (n : Int) : Text.ofInt n = sign (decide (n < 0)) ++ Text.ofNat n.natAbs := by
  cases n with
  | ofNat n =>
    have hnonneg : ¬Int.ofNat n < 0 := Int.not_lt.mpr (Int.natCast_nonneg n)
    rw [decide_eq_false hnonneg]
    rfl
  | negSucc n =>
    rw [decide_eq_true (Int.negSucc_lt_zero n)]
    rfl

theorem isWhole_ofNat (n : Nat) : IsWhole (Text.ofNat n) := by
  rw [Text.ofNat, Nat.repr, String.toList_ofList]
  exact isWhole_toDigits n

theorem number?_ofInt (n : Int) : number? (Text.ofInt n) = some (.int n) := by
  have hnothing : ∀ c ∈ ([] : Text).head?, c.isDigit = false := fun _ hc => nomatch hc
  have hread := number?_append (decide (n < 0)) (isWhole_ofNat n.natAbs) hnothing
  rw [List.append_nil, ← ofInt_eq] at hread
  rw [hread, if_pos List.isEmpty_nil, ofText_ofNat]
  simp only [decide_eq_true_eq]
  congr 2
  split <;> omega

/-! ### Floating-point numbers -/

/-- What stands for the exponent of a number, which may be left out when it is zero. -/
inductive WritesExponent : Text → Int → Prop
  | nothing : WritesExponent [] 0
  | exponent (x : Int) : WritesExponent ('e' :: Binary64.exponentText x) x

theorem WritesExponent.exponent? {t : Text} {x : Int} (h : WritesExponent t x) :
    exponent? t = some x := by
  cases h with
  | nothing => rfl
  | exponent x => exact exponent?_exponentText x

theorem WritesExponent.head {t : Text} {x : Int} (h : WritesExponent t x) :
    ∀ c ∈ t.head?, c.isDigit = false ∧ c ≠ '.' := by
  cases h with
  | nothing => exact fun c hc => nomatch hc
  | exponent x =>
    intro c hc
    obtain rfl : 'e' = c := Option.some.inj hc
    decide

/-- The text of a finite number: it has a point with digits, or an exponent. -/
theorem exists_render_eq {negative : Bool} {m e : Nat}
    (canonical : Binary64.Canonical (.finite negative m e)) :
    ∃ whole fraction exponent shift, IsWhole whole ∧ (∀ c ∈ fraction, c.isDigit = true) ∧
      WritesExponent exponent shift ∧ pointed fraction ++ exponent ≠ [] ∧
      Binary64.ofDecimal negative (ofText (whole ++ fraction)) (shift - fraction.length) =
        .finite negative m e ∧
      Binary64.render numberLayout (.finite negative m e) =
        sign negative ++ (whole ++ (pointed fraction ++ exponent)) := by
  obtain ⟨whole, fraction, shift, hwhole, hfraction, hvalue, hcases⟩ :=
    Binary64.exists_parts numberLayout canonical
  have hrender : Binary64.render numberLayout (.finite negative m e) =
    sign negative ++ (Binary64.shortest m e).render numberLayout := rfl
  rcases hcases with ⟨rfl, hne, hparts⟩ | hparts
  · refine ⟨whole, fraction, [], 0, hwhole, hfraction, .nothing, ?_, hvalue, ?_⟩
    · simp [pointed, hne]
    · rw [hrender, hparts, List.append_nil]
  · refine ⟨whole, fraction, _, shift, hwhole, hfraction, .exponent shift, ?_, hvalue, ?_⟩
    · exact List.append_ne_nil_of_right_ne_nil _ (List.cons_ne_nil _ _)
    · rw [hrender, hparts, List.append_assoc, List.append_assoc]
      rfl

/-- A finite number is read from its text. -/
theorem number?_render {negative : Bool} {m e : Nat}
    (canonical : Binary64.Canonical (.finite negative m e)) :
    number? (Binary64.render numberLayout (.finite negative m e)) =
      some (.float (.finite negative m e)) := by
  obtain ⟨whole, fraction, exponent, shift, hwhole, hfraction, hexponent, hne, hvalue, hrender⟩ :=
    exists_render_eq canonical
  have hhead := hexponent.head
  have hdecimal := decimal?_append hwhole hfraction hhead hexponent.exponent?
  rw [hrender, number?_append negative hwhole
    (isDigit_pointed_append fraction fun c hc => (hhead c hc).1), hdecimal,
    if_neg (by simpa using hne)]
  rw [← hvalue]
  cases fraction with
  | nil =>
    cases hexponent with
    | nothing => exact absurd rfl hne
    | exponent x => rfl
  | cons d fraction =>
    have hd : d.isDigit = true := hfraction d List.mem_cons_self
    show (do
      guard (d.isDigit = true)
      some (float (Binary64.ofDecimal negative _ _))) = _
    rw [hd]
    rfl

/-! ### The grammar -/

/-- One or more decimal digits. -/
def IsDigits (t : Text) : Prop := t ≠ [] ∧ ∀ c ∈ t, c.isDigit = true

/-- What may stand behind the whole part of a number. -/
inductive IsFraction : Text → Prop
  | nothing : IsFraction []
  | point {digits : Text} : IsDigits digits → IsFraction ('.' :: digits)

/-- What may stand at the end of a number. -/
inductive IsExponent : Text → Prop
  | nothing : IsExponent []
  | marked {mark : Char} {sign digits : Text} : mark ∈ ['e', 'E'] → sign ∈ [[], ['+'], ['-']] →
    IsDigits digits → IsExponent (mark :: (sign ++ digits))

/-- The numbers of RFC 8259. -/
def IsNumber (t : Text) : Prop :=
  ∃ negative whole fraction exponent, IsWhole whole ∧ IsFraction fraction ∧
    IsExponent exponent ∧ t = sign negative ++ (whole ++ (fraction ++ exponent))

theorem isNumber_ofInt (n : Int) : IsNumber (Text.ofInt n) := by
  refine ⟨decide (n < 0), Text.ofNat n.natAbs, [], [], isWhole_ofNat _, .nothing, .nothing, ?_⟩
  rw [ofInt_eq, List.append_nil, List.append_nil]

theorem isFraction_pointed {fraction : Text} (h : ∀ c ∈ fraction, c.isDigit = true) :
    IsFraction (pointed fraction) := by
  cases fraction with
  | nil => exact .nothing
  | cons d fraction => exact .point ⟨List.cons_ne_nil d fraction, h⟩

theorem WritesExponent.isExponent {t : Text} {x : Int} (h : WritesExponent t x) :
    IsExponent t := by
  cases h with
  | nothing => exact .nothing
  | exponent x =>
    obtain ⟨digits, hne, hdigits, -, htext⟩ := Binary64.exponentText_eq x
    rw [htext]
    by_cases hx : x < 0
    · rw [if_pos hx]
      have hsign : ['-'] ∈ [[], ['+'], ['-']] := by decide
      exact .marked (by decide) hsign ⟨hne, hdigits⟩
    · rw [if_neg hx]
      have hsign : ['+'] ∈ [[], ['+'], ['-']] := by decide
      exact .marked (by decide) hsign ⟨hne, hdigits⟩

theorem isNumber_render {negative : Bool} {m e : Nat}
    (canonical : Binary64.Canonical (.finite negative m e)) :
    IsNumber (Binary64.render numberLayout (.finite negative m e)) := by
  obtain ⟨whole, fraction, exponent, _, hwhole, hfraction, hexponent, -, -, hrender⟩ :=
    exists_render_eq canonical
  exact ⟨negative, whole, pointed fraction, exponent, hwhole, isFraction_pointed hfraction,
    hexponent.isExponent, hrender⟩

/-! ### Where a number stands in a text -/

theorem isNumberChar_of_isDigit {c : Char} (h : c.isDigit = true) : isNumberChar c = true := by
  simp [isNumberChar, h]

theorem IsNumber.isNumberChar {t : Text} (h : IsNumber t) : ∀ c ∈ t, isNumberChar c = true := by
  obtain ⟨negative, whole, fraction, exponent, hwhole, hfraction, hexponent, rfl⟩ := h
  have hdigits : ∀ {ds : Text}, (∀ c ∈ ds, c.isDigit = true) →
      ∀ c ∈ ds, Json.isNumberChar c = true := fun h c hc => isNumberChar_of_isDigit (h c hc)
  simp only [List.forall_mem_append]
  refine ⟨?_, hdigits hwhole.2.1, ?_, ?_⟩
  · cases negative <;> simp [sign, Json.isNumberChar]
  · cases hfraction with
    | nothing => exact List.forall_mem_nil _
    | point h => exact List.forall_mem_cons.mpr ⟨rfl, hdigits h.2⟩
  · cases hexponent with
    | nothing => exact List.forall_mem_nil _
    | marked hmark hsign h =>
      simp only [List.mem_cons, List.not_mem_nil, or_false] at hmark hsign
      refine List.forall_mem_cons.mpr ⟨?_, List.forall_mem_append.mpr ⟨?_, hdigits h.2⟩⟩
      · rcases hmark with rfl | rfl <;> rfl
      · rcases hsign with rfl | rfl | rfl <;> simp [Json.isNumberChar]

/-- A number begins with a digit, or with a minus and a digit. -/
theorem IsNumber.head {t : Text} (h : IsNumber t) :
    ∃ negative d rest, t = sign negative ++ d :: rest ∧ d.isDigit = true := by
  obtain ⟨negative, whole, fraction, exponent, ⟨hne, hdigits, -⟩, -, -, rfl⟩ := h
  obtain ⟨d, whole, rfl⟩ := List.exists_cons_of_ne_nil hne
  exact ⟨negative, d, _, rfl, hdigits d List.mem_cons_self⟩

/-- A number is read up to the first character that no number has. -/
theorem scalar?_of_isNumber {t rest : Text} {value : Json} (h : IsNumber t)
    (hvalue : number? t = some value) (hrest : ∀ c ∈ rest.head?, Json.isNumberChar c = false) :
    scalar? (t ++ rest) = some (value, rest) := by
  have hwords : (keywords.findSome? fun entry =>
      (Text.dropStart? entry.1 (t ++ rest)).map (entry.2, ·)) = none := by
    obtain ⟨negative, d, body, rfl, hd⟩ := h.head
    have hletter : ∀ letter, letter.isDigit = false → letter ≠ d := by
      rintro letter hletter rfl
      exact absurd (hletter.symm.trans hd) Bool.false_ne_true
    have hn := hletter 'n' rfl
    have ht := hletter 't' rfl
    have hf := hletter 'f' rfl
    have hN := hletter 'N' rfl
    have hI := hletter 'I' rfl
    have hminus := hletter '-' rfl
    cases negative <;> simp [keywords, sign, Text.dropStart?, hn, ht, hf, hN, hI, hminus]
  have hnumber : scalar? (t ++ rest) =
      (number? ((t ++ rest).takeWhile isNumberChar)).map
        (·, (t ++ rest).dropWhile isNumberChar) := by
    unfold scalar?
    split
    · next found => cases hwords.symm.trans found
    · rfl
  rw [hnumber, Text.takeWhile_append_of_head h.isNumberChar hrest,
    Text.dropWhile_append_of_head h.isNumberChar hrest, hvalue]
  rfl

theorem scalar?_of_mem_keywords {word : Text} {value : Json} (h : (word, value) ∈ keywords)
    (rest : Text) : scalar? (word ++ rest) = some (value, rest) := by
  simp only [keywords, List.mem_cons, List.not_mem_nil, or_false, Prod.mk.injEq] at h
  rcases h with ⟨rfl, rfl⟩ | ⟨rfl, rfl⟩ | ⟨rfl, rfl⟩ | ⟨rfl, rfl⟩ | ⟨rfl, rfl⟩ | ⟨rfl, rfl⟩ <;> rfl

end Json

end RouteDoc
