import Mathlib.Data.List.TakeWhile
import RouteDoc.Text.Blank

/-! Trimming and cutting texts that are put together from words and blanks. -/

namespace RouteDoc.Text

section Trim

variable {p : Char → Bool}

theorem trimStart_append {s : Text} (h : ∀ c ∈ s, p c = true) (t : Text) :
    trimStart p (s ++ t) = trimStart p t :=
  List.dropWhile_append_of_pos h

theorem trimStart_eq_self {t : Text} (h : ∀ c ∈ t.head?, p c = false) : trimStart p t = t := by
  cases t with
  | nil => rfl
  | cons c t => exact List.dropWhile_cons_of_neg (Bool.eq_false_iff.mp (h c rfl))

theorem eq_false_of_mem_head?_trimStart {t : Text} {c : Char} (h : c ∈ (trimStart p t).head?) :
    p c = false := by
  have hdropped := List.head?_dropWhile_not p t
  rw [← trimStart, Option.mem_def.mp h] at hdropped
  simpa using hdropped

/-- A run ends where the text behind it begins with another character. -/
theorem takeWhile_append_of_head {s t : Text} (hs : ∀ c ∈ s, p c = true)
    (ht : ∀ c ∈ t.head?, p c = false) : (s ++ t).takeWhile p = s := by
  rw [List.takeWhile_append_of_pos hs]
  cases t with
  | nil => exact List.append_nil s
  | cons c t => rw [List.takeWhile_cons_of_neg (by simp [ht c rfl]), List.append_nil]

theorem dropWhile_append_of_head {s t : Text} (hs : ∀ c ∈ s, p c = true)
    (ht : ∀ c ∈ t.head?, p c = false) : (s ++ t).dropWhile p = t :=
  (trimStart_append hs t).trans (trimStart_eq_self ht)

theorem trimEnd_append {s : Text} (h : ∀ c ∈ s, p c = true) (t : Text) :
    trimEnd p (t ++ s) = trimEnd p t := by
  rw [trimEnd, List.reverse_append, List.dropWhile_append_of_pos, trimEnd]
  simpa using h

theorem trimEnd_eq_self {t : Text} (h : ∀ c ∈ t.getLast?, p c = false) : trimEnd p t = t := by
  have hreverse : trimStart p t.reverse = t.reverse :=
    trimStart_eq_self (by rwa [List.head?_reverse])
  rw [trimEnd, ← trimStart, hreverse, List.reverse_reverse]

/-- What is dropped at the end of a text. -/
theorem exists_trimEnd_append (t : Text) :
    ∃ dropped, (∀ c ∈ dropped, p c = true) ∧ t = trimEnd p t ++ dropped := by
  refine ⟨(t.reverse.takeWhile p).reverse, fun c hc => ?_, ?_⟩
  · exact List.mem_takeWhile_imp (List.mem_reverse.mp hc)
  · rw [trimEnd, ← List.reverse_append, List.takeWhile_append_dropWhile, List.reverse_reverse]

theorem eq_false_of_mem_getLast?_trimEnd {t : Text} {c : Char} (h : c ∈ (trimEnd p t).getLast?) :
    p c = false := by
  rw [trimEnd, List.getLast?_reverse] at h
  exact eq_false_of_mem_head?_trimStart h

theorem trim_append_left {s : Text} (h : ∀ c ∈ s, p c = true) (t : Text) :
    trim p (s ++ t) = trim p t := by
  rw [trim, trimStart_append h, trim]

theorem trim_append_right {s : Text} (h : ∀ c ∈ s, p c = true) (t : Text) :
    trim p (t ++ s) = trim p t := by
  unfold trim trimStart
  rw [List.dropWhile_append]
  split
  · next hempty =>
    -- Nothing is left of the text itself, and so nothing of what follows it.
    rw [List.isEmpty_iff.mp hempty, List.dropWhile_eq_nil_iff.mpr h]
  · exact trimEnd_append h _

/-- What is dropped around a text. -/
theorem exists_trim_append (t : Text) : ∃ opening closing, (∀ c ∈ opening, p c = true) ∧
    (∀ c ∈ closing, p c = true) ∧ t = opening ++ trim p t ++ closing := by
  obtain ⟨closing, hclosing, hsplit⟩ := exists_trimEnd_append (p := p) (trimStart p t)
  refine ⟨t.takeWhile p, closing, fun c hc => List.mem_takeWhile_imp hc, hclosing, ?_⟩
  rw [trim, List.append_assoc, ← hsplit, trimStart, List.takeWhile_append_dropWhile]

theorem trim_eq_self {t : Text} (hstart : ∀ c ∈ t.head?, p c = false)
    (hend : ∀ c ∈ t.getLast?, p c = false) : trim p t = t := by
  rw [trim, trimStart_eq_self hstart, trimEnd_eq_self hend]

end Trim

/-! ### Words -/

/-- A word: not empty, and without blanks. -/
structure IsWord (t : Text) : Prop where
  nonempty : t ≠ []
  solid : ∀ c ∈ t, isBlank c = false

/-- Nothing but blanks. -/
def IsGap (t : Text) : Prop := ∀ c ∈ t, isBlank c = true

instance (t : Text) : Decidable t.IsWord :=
  decidable_of_iff (t ≠ [] ∧ t.all (fun c => isBlank c == false) = true)
    ⟨fun h => ⟨h.1, by simpa using h.2⟩, fun h => ⟨h.nonempty, by simpa using h.solid⟩⟩

instance (t : Text) : Decidable t.IsGap :=
  decidable_of_iff (t.all isBlank = true) List.all_eq_true

theorem words_of_isWord {t : Text} (h : t.IsWord) : words t = [t] := by
  simp [words, splitWhen_eq_singleton h.solid, h.nonempty]

theorem isWord_of_mem_words {t word : Text} (h : word ∈ words t) : word.IsWord := by
  obtain ⟨hpiece, hne⟩ := List.mem_filter.mp h
  exact ⟨by simpa using hne, fun c hc => sep_eq_false_of_mem_splitWhen hpiece hc⟩

/-- A blank ends a word and begins none. -/
theorem words_append_blank {c : Char} (h : isBlank c = true) (s t : Text) :
    words (s ++ c :: t) = words s ++ words t := by
  rw [words, splitWhen_append h, List.filter_append, ← words, ← words]

theorem words_append_gap {gap : Text} (h : IsGap gap) (rest : Text) :
    words (gap ++ rest) = words rest := by
  induction gap with
  | nil => rfl
  | cons c gap ih =>
    have hfirst : words (c :: (gap ++ rest)) = words (gap ++ rest) :=
      words_append_blank (h c List.mem_cons_self) [] _
    rw [List.cons_append, hfirst]
    exact ih fun d hd => h d (List.mem_cons_of_mem c hd)

theorem words_gap_append {gap : Text} (h : IsGap gap) (t : Text) :
    words (t ++ gap) = words t := by
  cases gap with
  | nil => rw [List.append_nil]
  | cons c gap =>
    have hnone := words_append_gap (fun d hd => h d (List.mem_cons_of_mem c hd)) []
    rw [List.append_nil] at hnone
    rw [words_append_blank (h c List.mem_cons_self), hnone]
    exact List.append_nil _

theorem words_append {word gap : Text} (hword : word.IsWord) (hne : gap ≠ []) (hgap : IsGap gap)
    (rest : Text) : words (word ++ gap ++ rest) = word :: words rest := by
  obtain ⟨c, gap, rfl⟩ := List.exists_cons_of_ne_nil hne
  rw [List.append_assoc, List.cons_append, words_append_blank (hgap c List.mem_cons_self),
    words_of_isWord hword, words_append_gap fun d hd => hgap d (List.mem_cons_of_mem c hd)]
  rfl

/-- Stripping a text leaves its words. -/
theorem words_strip (t : Text) : words (strip t) = words t := by
  obtain ⟨opening, closing, hopening, hclosing, hsplit⟩ := exists_trim_append (p := isBlank) t
  calc words (strip t) = words (opening ++ strip t ++ closing) := by
        rw [words_gap_append hclosing, words_append_gap hopening]
    _ = words t := by rw [strip, ← hsplit]

/-- A text that does not begin with a blank begins with its first word. -/
theorem words_eq_cons {t : Text} (hne : t ≠ []) (hstart : ∀ c ∈ t.head?, isBlank c = false) :
    words t = t.takeWhile (fun c => !isBlank c) :: words (t.dropWhile fun c => !isBlank c) := by
  have hword : Text.IsWord (t.takeWhile fun c => !isBlank c) := by
    obtain ⟨c, rest, rfl⟩ := List.exists_cons_of_ne_nil hne
    refine ⟨by simp [hstart c rfl], fun d hd => ?_⟩
    simpa using List.mem_takeWhile_imp hd
  have hsplit := (List.takeWhile_append_dropWhile (p := fun c => !isBlank c) (l := t)).symm
  have hrest := List.head?_dropWhile_not (fun c => !isBlank c) t
  generalize t.takeWhile (fun c => !isBlank c) = word at hword hsplit
  generalize t.dropWhile (fun c => !isBlank c) = rest at hsplit hrest
  rw [hsplit]
  cases rest with
  | nil =>
    rw [List.append_nil, words_of_isWord hword]
    rfl
  | cons c rest =>
    have hblank : isBlank c = true := by simpa using hrest
    have hnext : words (c :: rest) = words rest := words_append_blank hblank [] rest
    rw [words_append_blank hblank, words_of_isWord hword, hnext]
    rfl

theorem eq_false_of_mem_head?_trim {p : Char → Bool} {t : Text} {c : Char}
    (h : c ∈ (trim p t).head?) : p c = false := by
  obtain ⟨dropped, -, hsplit⟩ := exists_trimEnd_append (p := p) (trimStart p t)
  have hhead : (trimStart p t).head? = some c := by
    rw [hsplit, ← trim, List.head?_append, Option.mem_def.mp h]
    rfl
  exact eq_false_of_mem_head?_trimStart hhead

/-! ### Cuts at a few places -/

theorem splitAtMost_of_not_mem {sep : Char} {t : Text} (h : sep ∉ t) (n : Nat) :
    splitAtMost sep n t = [t] := by
  cases n with
  | zero => rfl
  | succ n =>
    have hall : t.dropWhile (· != sep) = [] := by
      refine List.dropWhile_eq_nil_iff.mpr fun c hc => bne_iff_ne.mpr fun hsep => ?_
      exact h (hsep ▸ hc)
    rw [splitAtMost, hall]

theorem splitAtMost_append {sep : Char} {start : Text} (h : sep ∉ start) (n : Nat)
    (rest : Text) :
    splitAtMost sep (n + 1) (start ++ sep :: rest) = start :: splitAtMost sep n rest := by
  have hall : ∀ c ∈ start, (c != sep) = true := by
    intro c hc
    exact bne_iff_ne.mpr fun hsep => h (hsep ▸ hc)
  rw [splitAtMost, List.dropWhile_append_of_pos hall, List.takeWhile_append_of_pos hall]
  simp

theorem splitOn_cons {sep c : Char} (h : c ≠ sep) {t piece : Text} {pieces : List Text}
    (ht : splitOn sep t = piece :: pieces) : splitOn sep (c :: t) = (c :: piece) :: pieces := by
  obtain ⟨hpiece, hpieces⟩ := List.cons.inj ht
  simp [splitOn, splitWhen, cutWhen, h, hpiece, hpieces]

/-- Without the separator a text is one piece. -/
theorem length_splitOn_lt_two_iff {sep : Char} {t : Text} :
    (splitOn sep t).length < 2 ↔ sep ∉ t := by
  constructor
  · intro h hmem
    obtain ⟨before, after, rfl⟩ := List.append_of_mem hmem
    have hcut : (splitOn sep before).length + (splitOn sep after).length < 2 := by
      rwa [splitOn_append, List.length_append] at h
    have hpiece : ∀ t, 0 < (splitOn sep t).length := fun t => Nat.succ_pos _
    have := hpiece before
    have := hpiece after
    omega
  · intro h
    rw [splitOn_of_not_mem h]
    exact Nat.one_lt_two

end RouteDoc.Text
