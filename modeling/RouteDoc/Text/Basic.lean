/-! Texts as lists of characters, and the cuts, joins and trims that every reader of the library
uses. -/

namespace RouteDoc

/-- A text, character by character. -/
abbrev Text := List Char

namespace Text

/-- The text before the first separator, and the pieces after it. -/
def cutWhen (sep : Char → Bool) : Text → Text × List Text
  | [] => ([], [])
  | c :: rest =>
    let (piece, pieces) := cutWhen sep rest
    if sep c then ([], piece :: pieces) else (c :: piece, pieces)

/-- The pieces between separators; there is always one. -/
def splitWhen (sep : Char → Bool) (t : Text) : List Text :=
  (cutWhen sep t).1 :: (cutWhen sep t).2

/-- The pieces between occurrences of one character. -/
def splitOn (sep : Char) (t : Text) : List Text := splitWhen (· == sep) t

/-- The pieces left by cutting at the first `n` occurrences of a character. -/
def splitAtMost (sep : Char) : Nat → Text → List Text
  | 0, t => [t]
  | n + 1, t =>
    match t.dropWhile (· != sep) with
    | [] => [t]
    | _ :: rest => t.takeWhile (· != sep) :: splitAtMost sep n rest

/-- The pieces with a text between each two. -/
def join (between : Text) (pieces : List Text) : Text := between.intercalate pieces

/-- Drop the longest run at the start whose characters satisfy `p`. -/
def trimStart (p : Char → Bool) (t : Text) : Text := t.dropWhile p

/-- Drop the longest run at the end whose characters satisfy `p`. -/
def trimEnd (p : Char → Bool) (t : Text) : Text := (t.reverse.dropWhile p).reverse

def trim (p : Char → Bool) (t : Text) : Text := trimEnd p (trimStart p t)

/-- What follows `start` in a text that begins with it. -/
def dropStart? : (start : Text) → Text → Option Text
  | [], t => some t
  | _ :: _, [] => none
  | c :: start, d :: t => if c = d then dropStart? start t else none

def startsWith (start t : Text) : Bool := (dropStart? start t).isSome

def fill (c : Char) (n : Nat) : Text := List.replicate n c

def ofNat (n : Nat) : Text := (Nat.repr n).toList

/-- The decimal digits of a number, behind a sign if it is negative. -/
def ofInt : Int → Text
  | .ofNat n => ofNat n
  | .negSucc n => '-' :: ofNat (n + 1)

/-- The digits of `n` in base sixteen, lower case, at least `width` of them. -/
def ofHex (width n : Nat) : Text :=
  let digits := Nat.toDigits 16 n
  fill '0' (width - digits.length) ++ digits

/-- The lower case of the ASCII letters; every other character stays. -/
def toLowerAscii (t : Text) : Text := t.map Char.toLower

theorem dropStart?_eq_some_iff {start t rest : Text} :
    dropStart? start t = some rest ↔ t = start ++ rest := by
  induction start generalizing t with
  | nil => simp [dropStart?]
  | cons c start ih =>
    cases t with
    | nil => simp [dropStart?]
    | cons d t =>
      by_cases h : c = d
      · simp [dropStart?, h, ih]
      · simp [dropStart?, h, Ne.symm h]

theorem startsWith_iff {start t : Text} : startsWith start t = true ↔ start <+: t := by
  rw [startsWith, Option.isSome_iff_exists]
  exact exists_congr fun rest => dropStart?_eq_some_iff.trans eq_comm

theorem join_cons_cons (between piece next : Text) (pieces : List Text) :
    join between (piece :: next :: pieces) = piece ++ between ++ join between (next :: pieces) := by
  simp [join, List.intercalate, List.intersperse]

theorem join_append_head (between start piece : Text) (pieces : List Text) :
    join between ((start ++ piece) :: pieces) = start ++ join between (piece :: pieces) := by
  cases pieces with
  | nil => simp [join, List.intercalate]
  | cons next pieces => simp [join_cons_cons]

/-- Joining the pieces by the character they were cut at gives the text again. -/
theorem join_splitOn (sep : Char) (t : Text) : join [sep] (splitOn sep t) = t := by
  induction t with
  | nil => simp [splitOn, splitWhen, cutWhen, join, List.intercalate]
  | cons c t ih =>
    simp only [splitOn, splitWhen] at ih ⊢
    by_cases h : c = sep
    · simp [cutWhen, h, join_cons_cons, ih]
    · cases hp : (cutWhen (· == sep) t).2 with
      | nil => simp_all [cutWhen, join, List.intercalate]
      | cons next pieces => simp_all [cutWhen, join_cons_cons]

theorem fst_cutWhen (sep : Char → Bool) (t : Text) :
    (cutWhen sep t).1 = t.takeWhile fun c => !sep c := by
  induction t with
  | nil => rfl
  | cons c t ih => cases h : sep c <;> simp [cutWhen, h, ih]

theorem splitWhen_eq_singleton {sep : Char → Bool} {t : Text} (h : ∀ c ∈ t, sep c = false) :
    splitWhen sep t = [t] := by
  induction t with
  | nil => rfl
  | cons c t ih =>
    have hrest := ih fun d hd => h d (List.mem_cons_of_mem c hd)
    obtain ⟨hpiece, hpieces⟩ := List.cons.inj hrest
    simp [splitWhen, cutWhen, h c List.mem_cons_self, hpiece, hpieces]

theorem splitWhen_append {sep : Char → Bool} {c : Char} (hc : sep c = true) (s t : Text) :
    splitWhen sep (s ++ c :: t) = splitWhen sep s ++ splitWhen sep t := by
  induction s with
  | nil => simp [splitWhen, cutWhen, hc]
  | cons d s ih =>
    obtain ⟨hpiece, hpieces⟩ := List.cons.inj ih
    cases hd : sep d <;> simp [splitWhen, cutWhen, hd, hpiece, hpieces]

theorem splitOn_of_not_mem {sep : Char} {t : Text} (h : sep ∉ t) : splitOn sep t = [t] :=
  splitWhen_eq_singleton fun _ hc => beq_eq_false_iff_ne.mpr fun hsep => h (hsep ▸ hc)

theorem splitOn_append (sep : Char) (s t : Text) :
    splitOn sep (s ++ sep :: t) = splitOn sep s ++ splitOn sep t :=
  @splitWhen_append (· == sep) sep (beq_self_eq_true sep) s t

/-- Cutting a joined text cuts its pieces. -/
theorem splitOn_join_eq_flatMap (sep : Char) (piece : Text) (pieces : List Text) :
    splitOn sep (join [sep] (piece :: pieces)) = (piece :: pieces).flatMap (splitOn sep) := by
  induction pieces generalizing piece with
  | nil => simp [join]
  | cons next pieces ih =>
    have hjoin : join [sep] (piece :: next :: pieces) =
        piece ++ sep :: join [sep] (next :: pieces) := by
      rw [join_cons_cons, List.append_assoc, List.singleton_append]
    rw [hjoin, splitOn_append, ih, List.flatMap_cons, List.flatMap_cons, List.flatMap_cons]

/-- Cutting at a character that no piece holds gives the pieces that were joined by it. -/
theorem splitOn_join {sep : Char} {piece : Text} {pieces : List Text}
    (h : ∀ p ∈ piece :: pieces, sep ∉ p) :
    splitOn sep (join [sep] (piece :: pieces)) = piece :: pieces := by
  rw [splitOn_join_eq_flatMap]
  generalize piece :: pieces = all at h
  induction all with
  | nil => rfl
  | cons p all ih =>
    obtain ⟨hp, hall⟩ := List.forall_mem_cons.mp h
    rw [List.flatMap_cons, splitOn_of_not_mem hp, ih hall]
    rfl

/-- No piece holds a separator. -/
theorem sep_eq_false_of_mem_splitWhen {sep : Char → Bool} {t piece : Text}
    (hp : piece ∈ splitWhen sep t) {c : Char} (hc : c ∈ piece) : sep c = false := by
  induction t generalizing piece with
  | nil => simp_all [splitWhen, cutWhen]
  | cons d t ih =>
    simp only [splitWhen, cutWhen] at hp ih
    by_cases h : sep d = true
    · simp only [h, if_true, List.mem_cons] at hp
      rcases hp with rfl | hp
      · simp at hc
      · exact ih (List.mem_cons.mpr hp) hc
    · simp only [h, if_false, Bool.false_eq_true, List.mem_cons] at hp
      rcases hp with rfl | hp
      · rcases List.mem_cons.mp hc with rfl | hc
        · exact Bool.eq_false_iff.mpr h
        · exact ih (List.mem_cons_self ..) hc
      · exact ih (List.mem_cons_of_mem _ hp) hc

end Text

end RouteDoc
