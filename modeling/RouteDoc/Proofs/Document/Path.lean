import RouteDoc.Document.Path
import RouteDoc.Proofs.Text.Blank

/-! Paths segment by segment: each segment behind a slash is rewritten by itself, no slash is lost
and none is made, and what is rewritten once stays as it is. -/

namespace RouteDoc.Path

open Text

/-- A segment behind a slash with its parameter in braces: a colon and the longest run of word
characters behind it, when there are any. -/
def rewriteSegment : Text → Text
  | [] => []
  | c :: rest =>
    let name := rest.takeWhile isWord
    if c = ':' ∧ name ≠ [] then '\x7b' :: (name ++ '\x7d' :: rest.dropWhile isWord)
    else c :: rest

/-- What becomes of the rest of a segment from a place on. -/
def Place.rewrite : Place → Text → Text
  | .plain, t => t
  | .slash, t => rewriteSegment t
  | .colon, t => rewriteSegment (':' :: t)
  | .name, t => t.takeWhile isWord ++ '\x7d' :: t.dropWhile isWord

/-! ### One segment -/

theorem rewriteSegment_parameter {name rest : Text} (hne : name ≠ [])
    (hname : ∀ c ∈ name, isWord c = true) (hrest : ∀ c ∈ rest.head?, isWord c = false) :
    rewriteSegment (':' :: (name ++ rest)) = '\x7b' :: (name ++ '\x7d' :: rest) := by
  simp [rewriteSegment, takeWhile_append_of_head hname hrest, dropWhile_append_of_head hname hrest,
    hne]

theorem rewriteSegment_of_not_parameter {segment : Text}
    (h : ∀ c rest, segment = ':' :: c :: rest → isWord c = false) :
    rewriteSegment segment = segment := by
  rcases segment with _ | ⟨c, _ | ⟨d, rest⟩⟩
  · rfl
  · simp [rewriteSegment]
  · by_cases hc : c = ':'
    · subst hc
      simp [rewriteSegment, h d rest rfl]
    · simp [rewriteSegment, hc]

theorem rewriteSegment_cases (segment : Text) :
    (∃ name rest, segment = ':' :: (name ++ rest) ∧ name ≠ [] ∧ (∀ c ∈ name, isWord c = true) ∧
      (∀ c ∈ rest.head?, isWord c = false) ∧
      rewriteSegment segment = '\x7b' :: (name ++ '\x7d' :: rest)) ∨
    (∀ c rest, segment = ':' :: c :: rest → isWord c = false) ∧
      rewriteSegment segment = segment := by
  by_cases h : ∃ c rest, segment = ':' :: c :: rest ∧ isWord c = true
  · obtain ⟨c, rest, rfl, hc⟩ := h
    have hsplit : c :: rest = (c :: rest).takeWhile isWord ++ (c :: rest).dropWhile isWord :=
      List.takeWhile_append_dropWhile.symm
    have hne : (c :: rest).takeWhile isWord ≠ [] := by simp [hc]
    have hname : ∀ d ∈ (c :: rest).takeWhile isWord, isWord d = true :=
      fun d hd => List.mem_takeWhile_imp hd
    have hrest : ∀ d ∈ ((c :: rest).dropWhile isWord).head?, isWord d = false :=
      fun d hd => eq_false_of_mem_head?_trimStart hd
    refine .inl ⟨_, _, congrArg _ hsplit, hne, hname, hrest, ?_⟩
    rw [← rewriteSegment_parameter hne hname hrest, ← hsplit]
  · have hplain : ∀ c rest, segment = ':' :: c :: rest → isWord c = false := by
      intro c rest hsegment
      by_contra hc
      exact h ⟨c, rest, hsegment, by simpa using hc⟩
    exact .inr ⟨hplain, rewriteSegment_of_not_parameter hplain⟩

theorem slash_not_mem_rewriteSegment {segment : Text} (h : '/' ∉ segment) :
    '/' ∉ rewriteSegment segment := by
  rcases rewriteSegment_cases segment with ⟨name, rest, rfl, -, -, -, hrewrite⟩ | ⟨-, hrewrite⟩
  · rw [hrewrite]
    simp only [List.mem_cons, List.mem_append, not_or] at h ⊢
    exact ⟨by decide, h.2.1, by decide, h.2.2⟩
  · rwa [hrewrite]

theorem isWord_eq_false_of_rewriteSegment {segment rest : Text} {c : Char}
    (h : rewriteSegment segment = ':' :: c :: rest) : isWord c = false := by
  rcases rewriteSegment_cases segment with ⟨name, tail, rfl, -, -, -, hrewrite⟩ | ⟨hplain, hrewrite⟩
  · rw [hrewrite] at h
    exact absurd (List.cons.inj h).1 (by decide)
  · exact hplain c rest (hrewrite.symm.trans h)

theorem rewriteSegment_rewriteSegment (segment : Text) :
    rewriteSegment (rewriteSegment segment) = rewriteSegment segment :=
  rewriteSegment_of_not_parameter fun _ _ h => isWord_eq_false_of_rewriteSegment h

/-! ### All segments -/

/-- At a slash a segment ends, wherever the reader stands in it. -/
theorem sanitizeFrom_slash (place : Place) (t : Text) :
    sanitizeFrom place ('/' :: t) = place.rewrite [] ++ '/' :: sanitizeFrom .slash t := by
  have hslash : isWord '/' = false := by decide
  cases place <;> simp [sanitizeFrom, Place.rewrite, Place.behind, rewriteSegment, hslash]

/-- Any other character leads to a place in the same segment, and what is written on the way is the
same whatever follows. -/
theorem exists_sanitizeFrom_cons (place : Place) {c : Char} (h : c ≠ '/') :
    ∃ next written, (∀ t, sanitizeFrom place (c :: t) = written ++ sanitizeFrom next t) ∧
      ∀ t, place.rewrite (c :: t) = written ++ next.rewrite t := by
  have hbehind : Place.behind c = .plain := if_neg h
  cases place with
  | plain =>
    refine ⟨.plain, [c], fun t => ?_, fun t => rfl⟩
    rw [sanitizeFrom, hbehind, List.singleton_append]
  | slash =>
    by_cases hc : c = ':'
    · subst hc
      exact ⟨.colon, [], fun t => rfl, fun t => rfl⟩
    · refine ⟨.plain, [c], fun t => ?_, fun t => ?_⟩
      · rw [sanitizeFrom, if_neg hc, hbehind, List.singleton_append]
      · simp [Place.rewrite, rewriteSegment, hc]
  | colon =>
    by_cases hc : isWord c = true
    · refine ⟨.name, ['\x7b', c], fun t => ?_, fun t => ?_⟩
      · rw [sanitizeFrom, if_pos hc]
        rfl
      · simp [Place.rewrite, rewriteSegment, hc]
    · refine ⟨.plain, [':', c], fun t => ?_, fun t => ?_⟩
      · rw [sanitizeFrom, if_neg hc, hbehind]
        rfl
      · simp [Place.rewrite, rewriteSegment, hc]
  | name =>
    by_cases hc : isWord c = true
    · refine ⟨.name, [c], fun t => ?_, fun t => ?_⟩
      · rw [sanitizeFrom, if_pos hc, List.singleton_append]
      · simp [Place.rewrite, hc]
    · refine ⟨.plain, ['\x7d', c], fun t => ?_, fun t => ?_⟩
      · rw [sanitizeFrom, if_neg hc, hbehind]
        rfl
      · simp [Place.rewrite, hc]

/-- From every place the rest of the segment is rewritten as that place asks, and all segments
behind it as segments. -/
theorem sanitizeFrom_eq_join {first t : Text} {segments : List Text}
    (h : splitOn '/' t = first :: segments) (place : Place) :
    sanitizeFrom place t = join ['/'] (place.rewrite first :: segments.map rewriteSegment) := by
  induction t generalizing first segments place with
  | nil =>
    obtain ⟨rfl, rfl⟩ := List.cons.inj h
    cases place <;> rfl
  | cons c t ih =>
    obtain ⟨piece, pieces, hrest⟩ : ∃ p ps, splitOn '/' t = p :: ps := ⟨_, _, rfl⟩
    by_cases hc : c = '/'
    · subst hc
      have hsplit : splitOn '/' ('/' :: t) = [] :: piece :: pieces := by
        rw [← hrest]
        exact splitOn_append '/' [] t
      obtain ⟨rfl, rfl⟩ := List.cons.inj (h.symm.trans hsplit)
      rw [sanitizeFrom_slash, ih hrest, List.map_cons, join_cons_cons, List.append_assoc]
      rfl
    · obtain ⟨rfl, rfl⟩ := List.cons.inj (h.symm.trans (splitOn_cons hc hrest))
      obtain ⟨next, written, hrun, hrewrite⟩ := exists_sanitizeFrom_cons place hc
      rw [hrun, hrewrite, ih hrest, join_append_head]

theorem splitOn_sanitize {first path : Text} {segments : List Text}
    (h : splitOn '/' path = first :: segments) :
    splitOn '/' (sanitize path) = first :: segments.map rewriteSegment := by
  have hslash : ∀ s ∈ first :: segments, '/' ∉ s := by
    intro s hs hmem
    exact absurd (sep_eq_false_of_mem_splitWhen (h ▸ hs : s ∈ splitOn '/' path) hmem) (by decide)
  obtain ⟨hfirst, hsegments⟩ := List.forall_mem_cons.mp hslash
  rw [sanitize, sanitizeFrom_eq_join h]
  refine splitOn_join (List.forall_mem_cons.mpr ⟨hfirst, List.forall_mem_map.mpr ?_⟩)
  exact fun s hs => slash_not_mem_rewriteSegment (hsegments s hs)

/-- A path is rewritten segment by segment: the first segment stays, and each segment behind a slash
is rewritten by itself. So the number of segments is kept, no slash and colon are left with a word
character behind them, and to rewrite a path twice is to rewrite it once. -/
theorem sanitize_by_segments (path : Text) :
    (∃ first segments, splitOn '/' path = first :: segments ∧
      sanitize path = join ['/'] (first :: segments.map rewriteSegment)) ∧
    (splitOn '/' (sanitize path)).length = (splitOn '/' path).length ∧
    (∀ before c after, sanitize path = before ++ '/' :: ':' :: c :: after → isWord c = false) ∧
    sanitize (sanitize path) = sanitize path := by
  obtain ⟨first, segments, hpath⟩ : ∃ s ss, splitOn '/' path = s :: ss := ⟨_, _, rfl⟩
  have hsplit := splitOn_sanitize hpath
  refine ⟨⟨first, segments, hpath, sanitizeFrom_eq_join hpath .plain⟩, ?_, ?_, ?_⟩
  · rw [hsplit, hpath]
    simp
  · intro before c after heq
    by_cases hc : c = '/'
    · subst hc
      decide
    · obtain ⟨piece, pieces, hafter⟩ : ∃ p ps, splitOn '/' after = p :: ps := ⟨_, _, rfl⟩
      obtain ⟨start, starts, hbefore⟩ : ∃ p ps, splitOn '/' before = p :: ps := ⟨_, _, rfl⟩
      rw [heq, splitOn_append, hbefore,
        splitOn_cons (by decide) (splitOn_cons hc hafter)] at hsplit
      have hmem : ':' :: c :: piece ∈ segments.map rewriteSegment := by
        rw [← (List.cons.inj hsplit).2]
        simp
      obtain ⟨segment, -, hsegment⟩ := List.mem_map.mp hmem
      exact isWord_eq_false_of_rewriteSegment hsegment
  · have htwice : ∀ s ∈ segments, (rewriteSegment ∘ rewriteSegment) s = rewriteSegment s :=
      fun s _ => rewriteSegment_rewriteSegment s
    rw [← join_splitOn '/' (sanitize (sanitize path)), splitOn_sanitize hsplit, List.map_map,
      List.map_congr_left htwice, ← hsplit, join_splitOn]

example : sanitize "/a/:id.json/:/b:c".toList = "/a/\x7bid\x7d.json/:/b:c".toList := by decide

end RouteDoc.Path
