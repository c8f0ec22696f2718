import RouteDoc.Proofs.Source.Run
import RouteDoc.Proofs.Text.Blank
import RouteDoc.Source.Basic

/-! Comments behind statements. Such a comment is a group of its own unless its line begins with a
comment mark, which it can do only inside a quoted text. -/

namespace RouteDoc.Source

namespace Comment

/-- A text stands on a line behind another one and goes on to the end of the line. -/
def StandsBehind (before text line : Text) : Prop :=
  ∃ after, line = before ++ (text ++ after) ∧ ∀ c ∈ after.head?, isInside c = false

theorem StandsBehind.of_isSuffix {before text line whole : Text}
    (h : StandsBehind before text line) (hsuffix : line <:+ whole) :
    ∃ before, StandsBehind before text whole := by
  obtain ⟨start, rfl⟩ := hsuffix
  obtain ⟨after, rfl, hafter⟩ := h
  exact ⟨start ++ before, after, by simp, hafter⟩

theorem closing_isSuffix {mark : Char} {thrice : Bool} {t rest : Text}
    (h : closing mark thrice t = .before rest) : rest <:+ t := by
  fun_induction closing mark thrice t with
  | case1 | case2 | case3 | case4 => cases h
  | case5 _ _ _ _ ih => exact ((ih h).trans (List.suffix_cons _ _)).trans (List.suffix_cons _ _)
  | case6 _ _ _ _ _ _ ih => exact (ih h).trans (List.suffix_cons _ _)
  | case7 =>
    cases h
    exact List.suffix_cons _ _
  | case8 =>
    cases h
    exact (List.drop_suffix 2 _).trans (List.suffix_cons _ _)
  | case9 _ _ _ _ _ _ _ _ ih => exact (ih h).trans (List.suffix_cons _ _)

/-- The comments that are read behind a place of a line stand on the line. -/
theorem exists_standsBehind_of_mem_readTail {fuel : Nat} {depth : Int} {t text : Text}
    (h : text ∈ (readTail fuel depth t).comments) : ∃ before, StandsBehind before text t := by
  fun_induction readTail fuel depth t with
  | case1 | case2 => cases h
  | case3 fuel depth rest tail ih =>
    rcases List.mem_cons.mp h with rfl | h
    · refine ⟨[], rest.dropWhile isInside, by simp, fun d hd => ?_⟩
      exact Text.eq_false_of_mem_head?_trimStart hd
    · obtain ⟨before, hbehind⟩ := ih h
      exact hbehind.of_isSuffix ((List.dropWhile_suffix _).trans (List.suffix_cons _ _))
  | case4 | case6 => cases h
  | case5 fuel depth c rest _ _ _ thrice after hclosing ih =>
    obtain ⟨before, hbehind⟩ := ih h
    refine hbehind.of_isSuffix ((closing_isSuffix hclosing).trans ?_)
    split
    · exact (List.drop_suffix 2 _).trans (List.suffix_cons _ _)
    · exact List.suffix_cons _ _
  | case7 _ _ _ _ _ _ _ _ _ ih | case8 _ _ _ _ _ _ _ ih =>
    obtain ⟨before, hbehind⟩ := ih h
    exact hbehind.of_isSuffix (List.suffix_cons _ _)

theorem margin_isSuffix (column : Nat) (t : Text) : (margin column t).2 <:+ t := by
  fun_induction margin column t with
  | case4 => exact List.suffix_rfl
  | _ => exact List.IsSuffix.trans (by assumption) (List.suffix_cons _ _)

/-- Whether what the lines before leave open is a quoted text. -/
def Pending.IsQuoted : Pending → Prop
  | .quoted _ _ => True
  | _ => False

/-- What a line gives: nothing, the comments behind a place of it, or the whole line behind its
margin. Only a line that begins inside a quoted text is read from a later place than its margin. -/
inductive GivesTexts (reader : Reader) (line : Text) : List Text → Prop where
  | nothing : GivesTexts reader line []
  | behind {depth : Int} {rest : Text} :
    rest <:+ line → (reader.pending.IsQuoted ∨ rest = line ∨ rest = (margin 0 line).2) →
      GivesTexts reader line (readTail rest.length depth rest).comments
  | whole {rest : Text} :
    (margin 0 line).2 = '#' :: rest →
      GivesTexts reader line [Text.trimEnd (!isInside ·) ('#' :: rest)]

theorem givesTexts_of_readLine {reader next : Reader} {line : Text} {texts : List Text}
    (h : reader.readLine line = some (next, texts)) : GivesTexts reader line texts := by
  unfold Reader.readLine at h
  split at h
  next mark thrice hpending =>
    split at h
    next rest hclosing =>
      cases h
      exact .behind (closing_isSuffix hclosing) (.inl (by rw [hpending]; trivial))
    all_goals cases h; exact .nothing
  next =>
    cases h
    exact .behind List.suffix_rfl (.inr (.inl rfl))
  next =>
    split at h
    · cases h
      exact .behind List.suffix_rfl (.inr (.inl rfl))
    · cases hmargin : margin 0 line with
      | mk column rest =>
        have hrest : (margin 0 line).2 = rest := by rw [hmargin]
        simp only [hmargin] at h
        split at h
        iterate 3 cases h; exact .nothing
        · cases h
          exact .whole hrest
        · obtain ⟨indents, -, h⟩ := Option.bind_eq_some_iff.mp h
          cases h
          exact .behind (hrest ▸ margin_isSuffix 0 line) (.inr (.inr hrest.symm))

/-- The comments of a line stand on it. -/
theorem exists_standsBehind_of_mem_readLine {reader next : Reader} {line text : Text}
    {texts : List Text} (h : reader.readLine line = some (next, texts)) (hmem : text ∈ texts) :
    ∃ before, StandsBehind before text line := by
  cases givesTexts_of_readLine h with
  | nothing => cases hmem
  | behind hsuffix _ =>
    obtain ⟨before, hbehind⟩ := exists_standsBehind_of_mem_readTail hmem
    exact hbehind.of_isSuffix hsuffix
  | @whole rest hmargin =>
    obtain rfl := List.mem_singleton.mp hmem
    obtain ⟨dropped, hdropped, heq⟩ := Text.exists_trimEnd_append (p := (!isInside ·)) ('#' :: rest)
    have hwhole : StandsBehind [] (Text.trimEnd (!isInside ·) ('#' :: rest)) ('#' :: rest) :=
      ⟨dropped, heq, fun c hc => by simpa using hdropped c (List.mem_of_mem_head? hc)⟩
    exact hwhole.of_isSuffix (hmargin ▸ margin_isSuffix 0 line)

/-- A line without characters of line ends but at its end. -/
def IsPlain (line : Text) : Prop :=
  ∃ body ending, line = body ++ ending ∧ (∀ c ∈ body, isInside c = true) ∧
    ∀ c ∈ ending, isInside c = false

theorem exists_gap_of_beginsWithMark {line : Text} (h : beginsWithMark line = true) :
    ∃ gap rest, line = gap ++ '#' :: rest ∧ ∀ c ∈ gap, Text.isBlank c = true := by
  have hsplit : line.takeWhile Text.isBlank ++ line.dropWhile Text.isBlank = line :=
    List.takeWhile_append_dropWhile
  have hhead : (line.dropWhile Text.isBlank).head? = some '#' := by
    simpa [beginsWithMark, Text.trimStart] using h
  obtain ⟨rest, hrest⟩ := List.head?_eq_some_iff.mp hhead
  exact ⟨_, rest, by rw [← hrest, hsplit], fun c hc => List.mem_takeWhile_imp hc⟩

theorem readTail_ending {ending : Text} (h : ∀ c ∈ ending, isInside c = false) (fuel : Nat)
    (depth : Int) : (readTail fuel depth ending).comments = [] := by
  induction ending generalizing fuel depth with
  | nil => cases fuel <;> rfl
  | cons c rest ih =>
    cases fuel with
    | zero => rfl
    | succ fuel =>
      have hc : c = '\r' ∨ c = '\n' := by
        have := h c List.mem_cons_self
        simp only [isInside, Bool.and_eq_false_iff, bne_eq_false_iff_eq] at this
        exact this
      have hrest := ih fun d hd => h d (List.mem_cons_of_mem _ hd)
      obtain rfl | rfl := hc <;> simp [readTail, hrest]

/-- Behind blanks and a comment mark a line without further line ends is one comment. -/
theorem readTail_gap {gap body ending : Text} (hgap : ∀ c ∈ gap, Text.isBlank c = true)
    (hbody : ∀ c ∈ body, isInside c = true) (hending : ∀ c ∈ ending, isInside c = false)
    {fuel : Nat} (depth : Int) (hfuel : gap.length < fuel) :
    (readTail fuel depth (gap ++ '#' :: (body ++ ending))).comments = ['#' :: body] := by
  induction gap generalizing fuel depth with
  | nil =>
    obtain ⟨fuel, rfl⟩ := Nat.exists_eq_add_one.mpr hfuel
    have hhead : ∀ c ∈ ending.head?, isInside c = false :=
      fun c hc => hending c (List.mem_of_mem_head? hc)
    rw [List.nil_append, readTail, if_pos rfl, Text.takeWhile_append_of_head hbody hhead,
      Text.dropWhile_append_of_head hbody hhead]
    show ('#' :: body) :: (readTail fuel depth ending).comments = _
    rw [readTail_ending hending]
  | cons c gap ih =>
    obtain ⟨fuel, rfl⟩ := Nat.exists_eq_add_one.mpr (Nat.zero_lt_of_lt hfuel)
    have hblank := hgap c List.mem_cons_self
    have hmark : c ≠ '#' := by rintro rfl; cases hblank
    have hback : c ≠ '\\' := by rintro rfl; cases hblank
    have hdouble : c ≠ '\x22' := by rintro rfl; cases hblank
    have hsingle : c ≠ '\x27' := by rintro rfl; cases hblank
    rw [List.cons_append, readTail, if_neg hmark, if_neg (by simp [hback]),
      if_neg (by simp [hdouble, hsingle])]
    exact ih (fun d hd => hgap d (List.mem_cons_of_mem _ hd)) _ (Nat.lt_of_succ_lt_succ hfuel)

theorem margin_gap {gap : Text} (hgap : ∀ c ∈ gap, Text.isBlank c = true) (column : Nat)
    (rest : Text) :
    ∃ left, (∀ c ∈ left, Text.isBlank c = true) ∧
      (margin column (gap ++ '#' :: rest)).2 = left ++ '#' :: rest := by
  induction gap generalizing column with
  | nil => exact ⟨[], List.forall_mem_nil _, rfl⟩
  | cons c gap ih =>
    have hmore := ih fun d hd => hgap d (List.mem_cons_of_mem _ hd)
    rw [List.cons_append]
    unfold margin
    split
    next heq => cases heq; exact hmore _
    next heq => cases heq; exact hmore _
    next heq => cases heq; exact hmore _
    next => exact ⟨c :: gap, hgap, rfl⟩

/-- What stands before a comment mark in a plain line has no line end in it. -/
theorem IsPlain.cut {before rest : Text} (h : IsPlain (before ++ '#' :: rest)) :
    ∃ body ending, rest = body ++ ending ∧ (∀ c ∈ before, isInside c = true) ∧
      (∀ c ∈ body, isInside c = true) ∧ ∀ c ∈ ending, isInside c = false := by
  obtain ⟨body, ending, heq, hbody, hending⟩ := h
  have hmark : '#' ∉ ending := fun hmem => nomatch hending '#' hmem
  rcases List.append_eq_append_iff.mp heq with ⟨middle, rfl, hrest⟩ | ⟨middle, rfl, rfl⟩
  · cases middle with
    | nil => exact absurd (hrest ▸ List.mem_cons_self : '#' ∈ [] ++ ending) hmark
    | cons c middle =>
      obtain ⟨rfl, rfl⟩ := List.cons.inj hrest
      refine ⟨middle, ending, rfl, fun d hd => hbody d (List.mem_append_left _ hd),
        fun d hd => hbody d ?_, hending⟩
      exact List.mem_append_right _ (List.mem_cons_of_mem _ hd)
  · exact absurd (List.mem_append_right _ List.mem_cons_self) hmark

/-- Where two places of a plain line begin one text that goes on to its end, they are one place. -/
theorem eq_of_standsBehind {gap before body ending : Text} (hgap : ∀ c ∈ gap, isInside c = true)
    (hbody : ∀ c ∈ body, isInside c = true) (hending : ∀ c ∈ ending, isInside c = false)
    (hplain : IsPlain (gap ++ '#' :: (body ++ ending)))
    (h : StandsBehind before ('#' :: body) (gap ++ '#' :: (body ++ ending))) : before = gap := by
  obtain ⟨after, heq, hafter⟩ := h
  have hbefore : ∀ c ∈ before, isInside c = true := by
    rw [heq] at hplain
    obtain ⟨_, _, -, hbefore, -⟩ := hplain.cut
    exact hbefore
  have hdrop : ∀ {start rest : Text}, (∀ c ∈ start, isInside c = true) →
      (∀ c ∈ rest.head?, isInside c = false) →
      (start ++ '#' :: (body ++ rest)).dropWhile isInside = rest := by
    intro start rest hstart hrest
    have hassoc : start ++ '#' :: (body ++ rest) = (start ++ '#' :: body) ++ rest := by simp
    rw [hassoc]
    refine Text.dropWhile_append_of_head (fun c hc => ?_) hrest
    rcases List.mem_append.mp hc with hc | hc
    · exact hstart c hc
    · rcases List.mem_cons.mp hc with rfl | hc
      · rfl
      · exact hbody c hc
  have hends : after = ending := by
    rw [← hdrop hbefore hafter, ← List.cons_append, ← heq]
    exact hdrop hgap fun c hc => hending c (List.mem_of_mem_head? hc)
  subst hends
  exact (List.append_cancel_right heq).symm

/-- A plain line that begins with a mark gives what stands from the mark on as a comment, or
nothing, unless it begins inside a quoted text. -/
theorem texts_of_marked {reader next : Reader} {gap body ending : Text} {texts : List Text}
    (hread : reader.readLine (gap ++ '#' :: (body ++ ending)) = some (next, texts))
    (hquoted : ¬reader.pending.IsQuoted) (hgap : ∀ c ∈ gap, Text.isBlank c = true)
    (hbody : ∀ c ∈ body, isInside c = true) (hending : ∀ c ∈ ending, isInside c = false) :
    texts = [] ∨ texts = ['#' :: body] := by
  have htail : ∀ {start : Text}, (∀ c ∈ start, Text.isBlank c = true) → ∀ depth,
      (readTail (start ++ '#' :: (body ++ ending)).length depth
        (start ++ '#' :: (body ++ ending))).comments = ['#' :: body] :=
    fun hstart depth => readTail_gap hstart hbody hending depth (by simp)
  obtain ⟨left, hleft, hmargin⟩ := margin_gap hgap 0 (body ++ ending)
  cases givesTexts_of_readLine hread with
  | nothing => exact .inl rfl
  | behind _ hplace =>
    rcases hplace with hplace | rfl | rfl
    · exact absurd hplace hquoted
    · exact .inr (htail hgap _)
    · rw [hmargin]
      exact .inr (htail hleft _)
  | @whole rest hwhole =>
    rw [hmargin] at hwhole
    have hleft : left = [] := by
      cases left with
      | nil => rfl
      | cons c left =>
        obtain ⟨rfl, -⟩ := List.cons.inj hwhole
        exact nomatch hleft '#' List.mem_cons_self
    subst hleft
    obtain rfl : body ++ ending = rest := (List.cons.inj hwhole).2
    have hcomment : ∀ c ∈ '#' :: body, isInside c = true := List.forall_mem_cons.mpr ⟨rfl, hbody⟩
    rw [← List.cons_append, Text.trimEnd_append (by simpa using hending), Text.trimEnd_eq_self]
    · exact .inr rfl
    · exact fun c hc => by simp [hcomment c (List.mem_of_getLast? hc)]

/-- A comment of a plain line that begins with a mark stands behind blanks only, unless the line
begins inside a quoted text. -/
theorem isBlank_of_standsBehind {reader next : Reader} {line text : Text} {texts : List Text}
    (hread : reader.readLine line = some (next, texts)) (hmem : text ∈ texts)
    (hmark : beginsWithMark line = true) (hquoted : ¬reader.pending.IsQuoted)
    (hplain : IsPlain line) {before : Text} (hbehind : StandsBehind before text line) :
    ∀ c ∈ before, Text.isBlank c = true := by
  obtain ⟨gap, rest, rfl, hgap⟩ := exists_gap_of_beginsWithMark hmark
  obtain ⟨body, ending, rfl, hinside, hbody, hending⟩ := hplain.cut
  rcases texts_of_marked hread hquoted hgap hbody hending with rfl | rfl
  · cases hmem
  · obtain rfl := List.mem_singleton.mp hmem
    rw [eq_of_standsBehind hinside hbody hending hplain hbehind]
    exact hgap

/-- The reader behind some lines. -/
def Reader.behind (reader : Reader) (lines : List Text) : Option Reader :=
  lines.foldlM (fun reader line => (reader.readLine line).map Prod.fst) reader

/-- Each comment is one of those of a line, read knowing what the lines before it leave open. -/
theorem exists_line_of_mem_readLines {reader : Reader} {row : Nat} {lines : List Text}
    {comments : List Comment} (h : readLines reader row lines = some comments) {c : Comment}
    (hmem : c ∈ comments) :
    ∃ earlier line later atLine next texts, lines = earlier ++ line :: later ∧
      reader.behind earlier = some atLine ∧ atLine.readLine line = some (next, texts) ∧
      c.text ∈ texts ∧ c.row = row + earlier.length ∧ c.ownLine = beginsWithMark line := by
  induction lines generalizing reader row comments with
  | nil =>
    simp only [readLines] at h
    split at h <;> simp_all
  | cons line more ih =>
    simp only [readLines, Option.bind_eq_bind, Option.bind_eq_some_iff] at h
    obtain ⟨⟨next, texts⟩, hline, rest, hrest, h⟩ := h
    obtain rfl := Option.some.inj h
    rcases List.mem_append.mp hmem with hmem | hmem
    · obtain ⟨text, htext, rfl⟩ := List.mem_map.mp hmem
      exact ⟨[], line, more, reader, next, texts, rfl, rfl, hline, htext, rfl, rfl⟩
    · obtain ⟨earlier, found, later, place, after, texts', rfl, hbehind, hread, htext, hrow,
        hown⟩ := ih hrest hmem
      refine ⟨line :: earlier, found, later, place, after, texts', rfl, ?_, hread, htext, ?_, hown⟩
      · simpa [Reader.behind, hline] using hbehind
      · rw [hrow, List.length_cons]
        omega

end Comment

open Comment

/-- The comments and the documentation of a text in order, the comments in runs. -/
theorem groups?_eq_some {t : Text} {groups : List Group} (h : groups? t = some groups) :
    ∃ comments body, comments? t = some comments ∧ Grammar.statements? t = some body ∧
      groups = inOrder ((Group.runs comments).map Group.ofRun ++ Docstring.ofModule body) := by
  simp only [groups?, Option.bind_eq_bind, Option.bind_eq_some_iff] at h
  obtain ⟨comments, hcomments, body, hbody, h⟩ := h
  refine ⟨comments, body, hcomments, hbody, ?_⟩
  rw [← Group.ofComments_eq]
  exact (Option.some.inj h).symm

/-- A comment goes on with the group of one before it, or one behind it does with its. -/
def MeetsNeighbour (front : List Comment) (c : Comment) (back : List Comment) : Prop :=
  (∃ a ∈ front.getLast?, a.ownLine = true ∧ c.row = a.row + 1) ∨
    ∃ b ∈ back.head?, b.ownLine = true ∧ b.row = c.row + 1

theorem isAlone_iff_not_meetsNeighbour {front back : List Comment} {c : Comment} :
    Group.IsAlone front c back ↔ ¬(c.ownLine = true ∧ MeetsNeighbour front c back) := by
  rw [Group.isAlone_iff]
  simp only [MeetsNeighbour, Group.joins, Bool.and_eq_false_iff, beq_eq_false_iff_ne]
  cases front.getLast? <;> cases back.head? <;> grind

/-- A line of a text by its number from one, with what the lines before it leave open. -/
def IsLine (t : Text) (row : Nat) (line : Text) (reader : Reader) : Prop :=
  ∃ earlier later, endedLines t = earlier ++ line :: later ∧ row = earlier.length + 1 ∧
    Reader.behind {} earlier = some reader

/-- A comment behind a statement is a group of its own, unless its line begins with a comment mark
and a comment on the line before or behind it does too. A line that begins with a mark and has a
comment behind something that is not blank begins inside a quoted text, or has the end of another
line in it. -/
theorem groups?_of_trailing {t : Text} {groups : List Group} (h : groups? t = some groups) :
    ∃ comments body, comments? t = some comments ∧ Grammar.statements? t = some body ∧
      groups = inOrder ((Group.runs comments).map Group.ofRun ++ Docstring.ofModule body) ∧
      ∀ front c back, comments = front ++ c :: back →
        ∃ line reader, IsLine t c.row line reader ∧ (∃ before, StandsBehind before c.text line) ∧
          ∀ before, StandsBehind before c.text line → (∃ d ∈ before, Text.isBlank d = false) →
            (Group.IsAlone front c back ↔
              ¬(beginsWithMark line = true ∧ MeetsNeighbour front c back)) ∧
            (beginsWithMark line = true → reader.pending.IsQuoted ∨ ¬IsPlain line) := by
  obtain ⟨comments, body, hcomments, hbody, hgroups⟩ := groups?_eq_some h
  refine ⟨comments, body, hcomments, hbody, hgroups, fun front c back hsplit => ?_⟩
  have hmem : c ∈ comments := hsplit ▸ List.mem_append_right _ List.mem_cons_self
  obtain ⟨earlier, line, later, reader, next, texts, hlines, hreader, hread, htext, hrow, hown⟩ :=
    exists_line_of_mem_readLines hcomments hmem
  refine ⟨line, reader, ⟨earlier, later, hlines, by omega, hreader⟩,
    exists_standsBehind_of_mem_readLine hread htext, fun before hbehind htrails => ⟨?_, ?_⟩⟩
  · rw [isAlone_iff_not_meetsNeighbour, hown]
  · intro hmark
    by_contra hnot
    obtain ⟨hquoted, hplain⟩ := not_or.mp hnot
    obtain ⟨d, hd, hblank⟩ := htrails
    have hd := isBlank_of_standsBehind hread htext hmark hquoted (not_not.mp hplain) hbehind d hd
    rw [hd] at hblank
    cases hblank

theorem groups?_eq {t : Text} {comments : List Comment} {documented : List Group}
    (hcomments : comments? t = some comments)
    (hdocumented : (Grammar.statements? t).map Docstring.ofModule = some documented) :
    groups? t = some (inOrder ((Group.runs comments).map Group.ofRun ++ documented)) := by
  obtain ⟨body, hbody, rfl⟩ := Option.map_eq_some_iff.mp hdocumented
  rw [groups?, hcomments, hbody, ← Group.ofComments_eq]
  rfl

/-- A remark behind a statement. -/
def remarked : Text := "x = 1  # a\n# b\n".toList

theorem groups?_remarked :
    (∃ groups, groups? remarked = some groups) ∧
      Group.IsAlone [] ⟨1, "# a".toList, false⟩ [⟨2, "# b".toList, true⟩] := by
  have hcomments : comments? remarked =
      some [⟨1, "# a".toList, false⟩, ⟨2, "# b".toList, true⟩] := by decide +kernel
  have hdocumented : (Grammar.statements? remarked).map Docstring.ofModule = some [] := by
    decide +kernel
  obtain ⟨comments, body, hfound, -, -, hplaces⟩ :=
    groups?_of_trailing (groups?_eq hcomments hdocumented)
  obtain rfl := Option.some.inj (hcomments.symm.trans hfound)
  obtain ⟨line, reader, ⟨earlier, later, hlines, hrow, -⟩, -, halone⟩ := hplaces [] _ _ rfl
  obtain rfl : earlier = [] := List.eq_nil_of_length_eq_zero (by simpa using hrow)
  obtain rfl : line = "x = 1  # a\n".toList := by
    have hfirst : endedLines remarked = ["x = 1  # a\n".toList, "# b\n".toList] := by
      decide +kernel
    rw [hfirst] at hlines
    exact (List.cons.inj hlines).1.symm
  have hbehind : StandsBehind "x = 1  ".toList "# a".toList "x = 1  # a\n".toList :=
    ⟨['\n'], by decide, fun _ h => by cases h; rfl⟩
  obtain ⟨hiff, -⟩ := halone "x = 1  ".toList hbehind ⟨'x', by decide, by decide⟩
  exact ⟨⟨_, groups?_eq hcomments hdocumented⟩, hiff.mpr fun hmark => nomatch hmark.1⟩

/-- A remark on the line on which a quoted text ends, where that line begins with a mark. -/
def legend : Text := "x = \"\"\"\n# y \"\"\"  # a\n# b\n".toList

/-- The remark is in one group with the comment behind it. -/
theorem groups?_legend :
    groups? legend = some [⟨2, ["# a".toList, "# b".toList]⟩] ∧
      ∃ reader, IsLine legend 2 "# y \"\"\"  # a\n".toList reader ∧
        StandsBehind "# y \"\"\"  ".toList "# a".toList "# y \"\"\"  # a\n".toList := by
  have hcomments : comments? legend =
      some [⟨2, "# a".toList, true⟩, ⟨3, "# b".toList, true⟩] := by decide +kernel
  have hdocumented : (Grammar.statements? legend).map Docstring.ofModule = some [] := by
    decide +kernel
  have hlines : endedLines legend = ["x = \"\"\"\n".toList, "# y \"\"\"  # a\n".toList,
      "# b\n".toList] := by decide +kernel
  refine ⟨?_, _, ⟨["x = \"\"\"\n".toList], ["# b\n".toList], hlines, rfl, rfl⟩, ['\n'],
    by decide, fun _ h => by cases h; rfl⟩
  have hruns : (Group.runs [⟨2, "# a".toList, true⟩, ⟨3, "# b".toList, true⟩]).map Group.ofRun =
      [⟨2, ["# a".toList, "# b".toList]⟩] := by decide
  rw [groups?_eq hcomments hdocumented, hruns, List.append_nil, inOrder, List.mergeSort_singleton]

end RouteDoc.Source
