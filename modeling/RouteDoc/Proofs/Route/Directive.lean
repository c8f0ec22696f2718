import Mathlib.Data.List.Basic
import RouteDoc.Proofs.Text.Blank
import RouteDoc.Route.Directive

/-! The lines of a comment that carry a directive, however they are laid out. -/

namespace RouteDoc.Directive

open Text

/-- A line carries a directive: behind marks, with blanks around them, stands its word in any case,
and a payload with blanks before and behind it. Only an empty payload needs no blank before it. -/
inductive Carries (directive : Directive) (payload : Text) : Text → Prop
  | intro {before marks inner word gap after : Text} : IsGap before →
    (∀ c ∈ marks, isMark c = true) → IsGap inner → toLowerAscii word = directive.word →
    IsGap gap → (payload ≠ [] → gap ≠ []) → IsGap after →
    Carries directive payload (before ++ marks ++ inner ++ word ++ gap ++ payload ++ after)

/-! ### The two readings of a first word -/

theorem words_body (line : Text) : words (body line) = words (trimStart isMark (strip line)) :=
  words_strip _

/-- Cutting a line into words finds the directive that slicing its first word off does. -/
theorem ofFirstWord?_eq_map_ofLine? (line : Text) :
    ofFirstWord? line = (ofLine? line).map Prod.fst := by
  rw [ofFirstWord?, ← words_body, ofLine?, Option.map_map, Function.comp_def, Option.map_id']
  have hstart : ∀ c ∈ (body line).head?, isBlank c = false := fun c => eq_false_of_mem_head?_trim
  generalize body line = text at hstart
  cases text with
  | nil => rfl
  | cons c text =>
    rw [words_eq_cons (List.cons_ne_nil c text) hstart]
    rfl

/-! ### Words in any case -/

theorem toLower_eq_self {c : Char} (h : c.toNat < 65 ∨ 90 < c.toNat) : c.toLower = c := by
  unfold Char.toLower
  rw [dif_neg]
  rintro ⟨hleft, hright⟩
  have hlow : 65 ≤ c.toNat := hleft
  have hhigh : c.toNat ≤ 90 := hright
  omega

theorem toLower_of_isBlank {c : Char} (h : isBlank c = true) : c.toLower = c := by
  simp only [isBlank, Bool.or_eq_true, Bool.and_eq_true, decide_eq_true_eq, beq_iff_eq] at h
  exact toLower_eq_self (by omega)

theorem toLower_of_isMark {c : Char} (h : isMark c = true) : c.toLower = c := by
  simp only [isMark, Bool.or_eq_true, beq_iff_eq] at h
  rcases h with rfl | rfl <;> decide

theorem isBlank_of_isMark {c : Char} (h : isMark c = true) : isBlank c = false := by
  simp only [isMark, Bool.or_eq_true, beq_iff_eq] at h
  rcases h with rfl | rfl <;> decide

theorem isMark_of_isBlank {c : Char} (h : isBlank c = true) : isMark c = false := by
  by_contra hmark
  exact nomatch h.symm.trans (isBlank_of_isMark (eq_true_of_ne_false hmark))

theorem ofWord?_word (directive : Directive) : ofWord? directive.word = some directive := by
  cases directive <;> decide

theorem word_isWord (directive : Directive) : directive.word.IsWord := by
  cases directive <;> decide

theorem word_unmarked (directive : Directive) : ∀ c ∈ directive.word.head?, isMark c = false := by
  intro c hc
  have hat : '@' = c := by cases directive <;> exact Option.some.inj hc
  exact hat ▸ rfl

section

variable {directive : Directive} {word : Text} (h : toLowerAscii word = directive.word)
include h

theorem isWord_of_toLowerAscii : word.IsWord := by
  constructor
  · rintro rfl
    exact (word_isWord directive).nonempty h.symm
  · intro c hc
    by_contra hblank
    -- A blank has no other case, so that it would stand in the word of the directive itself.
    have hlower := toLower_of_isBlank (eq_true_of_ne_false hblank)
    have hmem : c.toLower ∈ directive.word := h ▸ List.mem_map_of_mem hc
    exact hblank (hlower ▸ (word_isWord directive).solid _ hmem)

theorem unmarked_of_toLowerAscii : ∀ c ∈ word.head?, isMark c = false := by
  intro c hc
  by_contra hmark
  have hlower := toLower_of_isMark (eq_true_of_ne_false hmark)
  have hhead : c.toLower ∈ directive.word.head? := by
    rw [← h, toLowerAscii, List.head?_map, Option.mem_def.mp hc]
    rfl
  exact hmark (hlower ▸ word_unmarked directive _ hhead)

end

/-! ### Layouts -/

/-- The marks of a line and the blanks around it fall away. -/
theorem body_eq {before marks inner text after : Text} (hbefore : IsGap before)
    (hmarks : ∀ c ∈ marks, isMark c = true) (hinner : IsGap inner) (hafter : IsGap after)
    (hne : text ≠ []) (hmark : ∀ c ∈ text.head?, isMark c = false)
    (hstart : ∀ c ∈ text.head?, isBlank c = false)
    (hend : ∀ c ∈ text.getLast?, isBlank c = false) :
    body (before ++ marks ++ inner ++ text ++ after) = text := by
  have hline : strip (before ++ marks ++ inner ++ text ++ after) =
      strip (marks ++ (inner ++ text)) := by
    rw [strip, trim_append_right hafter, List.append_assoc, List.append_assoc,
      trim_append_left hbefore, strip]
  have htext : strip (inner ++ text) = text := by
    rw [strip, trim_append_left hinner, trim_eq_self hstart hend]
  have hunmarked : trimStart isMark (inner ++ text) = inner ++ text := by
    refine trimStart_eq_self fun c hc => ?_
    cases inner with
    | nil => exact hmark c hc
    | cons d inner =>
      obtain rfl : d = c := Option.some.inj hc
      exact isMark_of_isBlank (hinner d List.mem_cons_self)
  rw [body, hline]
  cases marks with
  | nil => rw [List.nil_append, htext, trimStart_eq_self hmark, strip, trim_eq_self hstart hend]
  | cons m marks =>
    have hmarked : strip (m :: marks ++ (inner ++ text)) = m :: marks ++ (inner ++ text) := by
      refine trim_eq_self (fun c hc => ?_) fun c hc => hend c ?_
      · obtain rfl : m = c := Option.some.inj hc
        exact isBlank_of_isMark (hmarks m List.mem_cons_self)
      · rwa [← List.append_assoc, List.getLast?_append_of_ne_nil _ hne] at hc
    rw [hmarked, trimStart_append hmarks, hunmarked, htext]

theorem body_word {before marks inner word rest after : Text} (hbefore : IsGap before)
    (hmarks : ∀ c ∈ marks, isMark c = true) (hinner : IsGap inner) (hafter : IsGap after)
    (hword : word.IsWord) (hmark : ∀ c ∈ word.head?, isMark c = false)
    (hlast : ∀ c ∈ rest.getLast?, isBlank c = false) :
    body (before ++ marks ++ inner ++ (word ++ rest) ++ after) = word ++ rest := by
  obtain ⟨d, letters, rfl⟩ := List.exists_cons_of_ne_nil hword.nonempty
  refine body_eq hbefore hmarks hinner hafter (by simp) (fun c hc => hmark c hc) ?_ ?_
  · intro c hc
    obtain rfl : d = c := Option.some.inj hc
    exact hword.solid d List.mem_cons_self
  · intro c hc
    rw [List.getLast?_append, Option.mem_def, Option.or_eq_some_iff] at hc
    rcases hc with hc | ⟨-, hc⟩
    · exact hlast c hc
    · exact hword.solid c (List.mem_of_getLast? hc)

theorem firstWord_append {word rest : Text} (hword : word.IsWord)
    (hrest : ∀ c ∈ rest.head?, isBlank c = true) : firstWord (word ++ rest) = word := by
  have hsolid : ∀ c ∈ word, (!isBlank c) = true := by
    intro c hc
    rw [hword.solid c hc]
    rfl
  rw [firstWord, List.takeWhile_append_of_pos hsolid]
  cases rest with
  | nil => simp
  | cons c rest => simp [hrest c rfl]

/-- Every line that carries a directive is read so: as the directive and its payload without the
blanks around it. -/
theorem ofLine?_of_carries {directive : Directive} {payload line : Text}
    (h : Carries directive payload line) : ofLine? line = some (directive, strip payload) := by
  rcases h with @⟨before, marks, inner, word, gap, after, hbefore, hmarks, hinner, hcase, hgap,
    hsep, hafter⟩
  have hword := isWord_of_toLowerAscii hcase
  -- The blanks at the end of the line may be those of the payload, or even the gap before it.
  obtain ⟨dropped, hdropped, hsplit⟩ :=
    exists_trimEnd_append (p := isBlank) (gap ++ payload ++ after)
  have hlast := @eq_false_of_mem_getLast?_trimEnd isBlank (gap ++ payload ++ after)
  generalize trimEnd isBlank (gap ++ payload ++ after) = rest at hsplit hlast
  have hline : before ++ marks ++ inner ++ word ++ gap ++ payload ++ after =
      before ++ marks ++ inner ++ (word ++ rest) ++ dropped := by
    rw [← List.append_assoc _ word, List.append_assoc _ rest, ← hsplit]
    simp only [List.append_assoc]
  have hstrip : strip rest = strip payload := by
    rw [strip, ← trim_append_right hdropped, ← hsplit, trim_append_right hafter,
      trim_append_left hgap, strip]
  have hrest : ∀ c ∈ rest.head?, isBlank c = true := by
    intro c hc
    obtain ⟨tail, rfl⟩ : ∃ tail, rest = c :: tail := List.head?_eq_some_iff.mp hc
    cases gap with
    | cons d gap =>
      obtain ⟨rfl, -⟩ := List.cons.inj hsplit
      exact hgap d List.mem_cons_self
    | nil =>
      have hempty : payload = [] := not_not.mp fun hne => hsep hne rfl
      subst hempty
      have hafter' : after = c :: (tail ++ dropped) := hsplit
      exact hafter c (hafter' ▸ List.mem_cons_self)
  have hbody := body_word hbefore hmarks hinner hdropped hword (unmarked_of_toLowerAscii hcase)
    fun c hc => hlast hc
  rw [ofLine?, hline, hbody, firstWord_append hword hrest, hcase, ofWord?_word]
  simp [hstrip]

end RouteDoc.Directive
