import RouteDoc.Proofs.Outcome
import RouteDoc.Proofs.Tag.Scan

/-! Tag texts as authors write them: pairs behind any number of spaces, with any literal that has
the value. Reading such a text gives a tag for each pair. -/

namespace RouteDoc.Tag

/-- What a pair is read from: a key, a colon and a literal. -/
theorem exists_key_of_readPair {t rest : Text} {tag : Tag} (h : readPair t = .ok (tag, rest)) :
    ∃ key literal value, key ≠ [] ∧ (∀ c ∈ key, isKeyChar c = true) ∧
      t = key ++ ':' :: literal ∧ Json.Literal.decode? literal = some (value, rest) ∧
      tag = ofValue key value := by
  unfold readPair at h
  dsimp only at h
  rw [readLiteral?_eq] at h
  split at h
  · exact nomatch h
  next hkey =>
  split at h
  next hroom =>
    split at h
    · exact nomatch h
    next hcolon =>
    split at h
    · exact nomatch h
    split at h
    · next value rest hliteral =>
      cases h
      have hdrop := List.drop_eq_getElem_cons (Nat.lt_of_succ_lt hroom)
      rw [not_not.mp hcolon] at hdrop
      refine ⟨t.take (keyEnd t), _, value, fun hnil => ?_, fun c hc => ?_, ?_, hliteral, rfl⟩
      · rcases List.take_eq_nil_iff.mp hnil with hzero | rfl
        · exact hkey hzero
        · exact nomatch hroom
      · rw [take_keyEnd] at hc
        exact List.mem_takeWhile_imp hc
      · rw [← hdrop, List.take_append_drop]
    · exact nomatch h
  · exact nomatch h

theorem readPair_append {key literal value rest : Text} (nonempty : key ≠ [])
    (isKey : ∀ c ∈ key, isKeyChar c = true)
    (reads : Json.Literal.decode? literal = some (value, rest)) :
    readPair (key ++ ':' :: literal) = .ok (ofValue key value, rest) := by
  obtain ⟨body, rfl, -, -⟩ := exists_body_of_decode? reads
  have hkey : key.length ≠ 0 := fun h => nonempty (List.length_eq_zero_iff.mp h)
  have hdrop : (key ++ ':' :: '\x22' :: (body ++ '\x22' :: rest)).drop (key.length + 1) =
      '\x22' :: (body ++ '\x22' :: rest) := by
    rw [List.drop_length_add_append, List.drop_succ_cons, List.drop_zero]
  simp only [readPair, keyEnd_append isKey, readLiteral?_eq]
  rw [if_neg hkey, dif_pos (by simp), if_neg (by simp),
    if_neg (by simp [List.getElem_append_right]), hdrop, reads, List.take_left' rfl]

/-- A pair as it is written: some spaces, a key, and a literal that is read as its value wherever it
stands. -/
structure Written where
  spaces : Nat
  key : Text
  literal : Text
  value : Text
  nonempty : key ≠ []
  isKey : ∀ c ∈ key, isKeyChar c = true
  reads : ∀ rest, Json.Literal.decode? (literal ++ rest) = some (value, rest)

namespace Written

/-- The text of a pair. -/
def text (pair : Written) : Text :=
  Text.fill ' ' pair.spaces ++ (pair.key ++ ':' :: pair.literal)

/-- The tag of a pair. -/
def tag (pair : Written) : Tag := ofValue pair.key pair.value

/-- The text of pairs and of the spaces behind them. -/
def textOf (pairs : List Written) (trailing : Nat) : Text :=
  pairs.flatMap text ++ Text.fill ' ' trailing

theorem readPair_eq (pair : Written) (rest : Text) :
    readPair (pair.key ++ ':' :: (pair.literal ++ rest)) = .ok (pair.tag, rest) :=
  readPair_append pair.nonempty pair.isKey (pair.reads rest)

theorem trimStart_spaces (n : Nat) (t : Text) :
    Text.trimStart (· == ' ') (Text.fill ' ' n ++ t) = Text.trimStart (· == ' ') t :=
  List.dropWhile_append_of_pos fun _ hc => by simp [List.eq_of_mem_replicate hc]

theorem trimStart_key (pair : Written) (t : Text) :
    Text.trimStart (· == ' ') (pair.key ++ t) = pair.key ++ t := by
  obtain ⟨c, key, hkey⟩ := List.exists_cons_of_ne_nil pair.nonempty
  have hc := pair.isKey c (by simp [hkey])
  have hspace : (c == ' ') = false := by
    refine beq_eq_false_iff_ne.mpr ?_
    rintro rfl
    exact nomatch hc
  simp [Text.trimStart, hkey, hspace]

theorem readPairs_textOf {fuel : Nat} (pairs : List Written) (trailing : Nat)
    (enough : (textOf pairs trailing).length ≤ fuel) :
    readPairs fuel (textOf pairs trailing) = .ok (pairs.map tag) := by
  induction pairs generalizing fuel with
  | nil =>
    cases fuel with
    | zero => rfl
    | succ fuel =>
      have hblank : Text.trimStart (· == ' ') (textOf [] trailing) = [] := by
        have := trimStart_spaces trailing []
        rw [List.append_nil] at this
        exact this
      simp only [readPairs, hblank, List.map_nil]
  | cons pair pairs ih =>
    have htext : textOf (pair :: pairs) trailing =
        Text.fill ' ' pair.spaces ++
          (pair.key ++ ':' :: (pair.literal ++ textOf pairs trailing)) := by
      simp [textOf, text]
    rw [htext, List.length_append, List.length_append, List.length_cons, List.length_append]
      at enough
    obtain ⟨fuel, rfl⟩ : ∃ k, fuel = k + 1 := ⟨fuel - 1, by omega⟩
    have hrest : readPairs fuel (textOf pairs trailing) = .ok (pairs.map tag) := ih (by omega)
    have hpair := pair.readPair_eq (textOf pairs trailing)
    have htrim := pair.trimStart_key (':' :: (pair.literal ++ textOf pairs trailing))
    obtain ⟨c, key, hkey⟩ := List.exists_cons_of_ne_nil pair.nonempty
    rw [hkey, List.cons_append] at hpair htrim
    rw [htext, hkey, List.cons_append, readPairs, trimStart_spaces, htrim]
    simp only [hpair, hrest, bind, Except.bind, pure, Except.pure, List.map_cons]

/-- A text of written pairs has a tag for each of them. -/
theorem parse_textOf (pairs : List Written) (trailing : Nat) :
    parse (textOf pairs trailing) = .ok (pairs.map tag) :=
  readPairs_textOf pairs trailing (Nat.le_refl _)

/-- A text is read piece by piece, if each piece is one of a written pair. -/
theorem exists_parse_flatMap {α : Type} {piece : α → Text} {R : α → Tag → Prop} {xs : List α}
    (h : ∀ x ∈ xs, ∃ pair : Written, pair.text = piece x ∧ R x pair.tag) (trailing : Nat) :
    ∃ tags, parse (xs.flatMap piece ++ Text.fill ' ' trailing) = .ok tags ∧
      List.Forall₂ R xs tags := by
  obtain ⟨pairs, hpairs⟩ := exists_forall₂_iff.mpr h
  have htext : xs.flatMap piece = pairs.flatMap text := by
    clear h
    induction hpairs with
    | nil => rfl
    | cons hpair _ ih => rw [List.flatMap_cons, List.flatMap_cons, ih, hpair.1]
  refine ⟨pairs.map tag, ?_, List.forall₂_map_right_iff.mpr (hpairs.imp fun _ _ => And.right)⟩
  rw [htext]
  exact parse_textOf pairs trailing

end Written

end RouteDoc.Tag
