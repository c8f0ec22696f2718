import Mathlib.Data.List.TakeWhile
import RouteDoc.Proofs.Json.Grammar
import RouteDoc.Tag.Reader

/-! The scans of tag texts. A key ends where its characters do, and the mark that a scan finds is
the one at which a literal of JSON ends: what stands up to the mark is a literal exactly when the
text begins with one. -/

namespace RouteDoc.Tag

open Json.Literal

section Scan

variable {stop : Char → Bool} {skip : Char → Nat} {c : Char}

theorem scan_of_length_le {t : Text} {i : Nat} (h : t.length ≤ i) (fuel : Nat) :
    scan stop skip t fuel i = i := by
  cases fuel with
  | zero => rfl
  | succ fuel => rw [scan, dif_neg (Nat.not_lt.mpr h)]

theorem scan_of_stop (h : stop c = true) (before rest : Text) (fuel : Nat) :
    scan stop skip (before ++ c :: rest) (fuel + 1) before.length = before.length := by
  simp [scan, h]

theorem scan_of_not_stop (h : stop c = false) (before rest : Text) (fuel : Nat) :
    scan stop skip (before ++ c :: rest) (fuel + 1) before.length =
      scan stop skip (before ++ c :: rest) fuel (before.length + skip c + 1) := by
  simp [scan, h]

end Scan

/-! ### Keys -/

theorem scan_key (before t : Text) {fuel : Nat} (enough : t.length ≤ fuel) :
    scan (!isKeyChar ·) (fun _ => 0) (before ++ t) fuel before.length =
      before.length + (t.takeWhile isKeyChar).length := by
  induction t generalizing before fuel with
  | nil =>
    rw [List.append_nil]
    exact scan_of_length_le (Nat.le_refl _) fuel
  | cons c t ih =>
    obtain ⟨fuel, rfl⟩ : ∃ k, fuel = k + 1 := ⟨fuel - 1, by simp at enough; omega⟩
    by_cases hkey : isKeyChar c = true
    · have hrest := ih (before ++ [c]) (Nat.le_of_succ_le_succ enough)
      rw [List.append_assoc, List.singleton_append, List.length_append, List.length_singleton]
        at hrest
      rw [scan_of_not_stop (by simp [hkey]), Nat.add_zero, hrest, List.takeWhile_cons_of_pos hkey,
        List.length_cons]
      omega
    · rw [scan_of_stop (by simpa using hkey), List.takeWhile_cons_of_neg hkey]
      rfl

theorem keyEnd_eq (t : Text) : keyEnd t = (t.takeWhile isKeyChar).length := by
  have hscan := scan_key [] t (Nat.le_refl _)
  rw [List.nil_append, List.length_nil, Nat.zero_add] at hscan
  exact hscan

theorem take_keyEnd (t : Text) : t.take (keyEnd t) = t.takeWhile isKeyChar := by
  rw [keyEnd_eq]
  exact (List.prefix_iff_eq_take.mp (List.takeWhile_prefix _)).symm

theorem keyEnd_append {key : Text} (isKey : ∀ c ∈ key, isKeyChar c = true) (rest : Text) :
    keyEnd (key ++ ':' :: rest) = key.length := by
  rw [keyEnd_eq, List.takeWhile_append_of_pos isKey,
    List.takeWhile_cons_of_neg (by decide), List.append_nil]

/-! ### Literals -/

/-- A scan for the closing mark passes over a piece of a literal, whatever stands around it, and has
as much fuel left as it needs for what follows. -/
def Passed (piece : Text) : Prop :=
  ∀ (before rest : Text) (fuel : Nat), ∃ left, fuel ≤ left ∧
    toMark (before ++ (piece ++ rest)) (fuel + piece.length) before.length =
      toMark (before ++ (piece ++ rest)) left (before.length + piece.length)

namespace Passed

theorem nil : Passed [] := fun _ _ fuel => ⟨fuel, Nat.le_refl _, rfl⟩

theorem append {piece other : Text} (h : Passed piece) (hother : Passed other) :
    Passed (piece ++ other) := by
  intro before rest fuel
  obtain ⟨middle, hmiddle, hpiece⟩ := h before (other ++ rest) (fuel + other.length)
  obtain ⟨left, hleft, hrest⟩ := hother (before ++ piece) rest (middle - other.length)
  refine ⟨left, by omega, ?_⟩
  have hfuel : fuel + (piece.length + other.length) = fuel + other.length + piece.length := by omega
  have hroom : middle - other.length + other.length = middle := by omega
  simp only [List.length_append, List.append_assoc, hroom] at hpiece hrest ⊢
  rw [hfuel, hpiece, hrest, Nat.add_assoc]

theorem plain {c : Char} (mark : c ≠ '\x22') (slash : c ≠ '\\') : Passed [c] := by
  intro before rest fuel
  refine ⟨fuel, Nat.le_refl _, ?_⟩
  have hmark : (c == '\x22') = false := beq_eq_false_iff_ne.mpr mark
  refine (@scan_of_not_stop (· == '\x22') _ c hmark before rest fuel).trans ?_
  rw [if_neg slash]
  rfl

theorem escape (c : Char) : Passed ['\\', c] := by
  intro before rest fuel
  exact ⟨fuel + 1, Nat.le_succ _, scan_of_not_stop rfl before (c :: rest) (fuel + 1)⟩

theorem digit {c : Char} {value : Nat} (h : IsHexDigit c value) : Passed [c] := by
  have hlower : ∀ e ∈ "0123456789abcdef".toList.zipIdx, e.1 ≠ '\x22' ∧ e.1 ≠ '\\' := by decide
  have hupper : ∀ e ∈ "0123456789ABCDEF".toList.zipIdx, e.1 ≠ '\x22' ∧ e.1 ≠ '\\' := by decide
  obtain ⟨mark, slash⟩ : c ≠ '\x22' ∧ c ≠ '\\' := h.elim (hlower _) (hupper _)
  exact plain mark slash

theorem unit {a b c d : Char} {n : Nat} (h : IsUnit a b c d n) :
    Passed ['\\', 'u', a, b, c, d] := by
  obtain ⟨x, y, z, w, ha, hb, hc, hd, -⟩ := h
  have hdigits : Passed [a, b, c, d] :=
    (digit ha).append ((digit hb).append ((digit hc).append (digit hd)))
  exact (escape 'u').append hdigits

end Passed

theorem passed_of_spells {body : Text} {points : List Nat} (h : Spells body points) :
    Passed body := by
  induction h with
  | nil => exact .nil
  | plain _ mark slash _ ih => exact (Passed.plain mark slash).append ih
  | short _ _ ih => exact (Passed.escape _).append ih
  | unit hunit _ ih => exact (Passed.unit hunit).append ih
  | pair hhigh hlow _ _ _ ih => exact (Passed.unit hhigh).append ((Passed.unit hlow).append ih)

theorem closingMark_of_passed {body : Text} (h : Passed body) (rest : Text) :
    closingMark ('\x22' :: (body ++ '\x22' :: rest)) = body.length + 1 := by
  obtain ⟨left, hleft, hscan⟩ := h ['\x22'] ('\x22' :: rest) (rest.length + 2)
  obtain ⟨left, rfl⟩ : ∃ k, left = k + 1 := ⟨left - 1, by omega⟩
  have hlength : ('\x22' :: (body ++ '\x22' :: rest)).length = rest.length + 2 + body.length := by
    simp only [List.length_cons, List.length_append]
    omega
  have hmark := @scan_of_stop (· == '\x22') (fun c => if c = '\\' then 1 else 0) '\x22' rfl
    ('\x22' :: body) rest left
  rw [closingMark, hlength]
  have hbehind : ['\x22'].length + body.length = ('\x22' :: body).length := Nat.add_comm 1 _
  rw [hbehind] at hscan
  exact hscan.trans hmark

/-- A text that begins with a literal is read up to a mark between which and the first one the scan
passes over everything, and the literal is read so whatever follows it. -/
theorem exists_body_of_decode? {t value rest : Text} (h : decode? t = some (value, rest)) :
    ∃ body, t = '\x22' :: (body ++ '\x22' :: rest) ∧ Passed body ∧
      ∀ other, decode? ('\x22' :: (body ++ '\x22' :: other)) = some (value, other) := by
  obtain ⟨body, points, rfl, hspells⟩ := spells_of_decode? h
  obtain ⟨found, hreads, -⟩ := decode?_of_spells hspells
  obtain ⟨rfl, -⟩ := Prod.mk.inj (Option.some.inj ((hreads rest).symm.trans h))
  exact ⟨body, rfl, passed_of_spells hspells, hreads⟩

/-- The scan stops where the decoder does: a text begins with a literal exactly when the scan finds
a mark and what stands up to this mark is that literal and nothing else. -/
theorem decode?_eq_some_iff {t value rest : Text} :
    decode? t = some (value, rest) ↔ closingMark t < t.length ∧
      decode? (t.take (closingMark t + 1)) = some (value, []) ∧
      t.drop (closingMark t + 1) = rest := by
  constructor
  · intro h
    obtain ⟨body, rfl, hpassed, hreads⟩ := exists_body_of_decode? h
    have hsplit : '\x22' :: (body ++ '\x22' :: rest) = ('\x22' :: (body ++ ['\x22'])) ++ rest := by
      simp
    have hlength : ('\x22' :: (body ++ ['\x22'])).length = body.length + 1 + 1 := by simp
    rw [closingMark_of_passed hpassed, hsplit]
    refine ⟨by simp, ?_, List.drop_left' hlength⟩
    rw [List.take_left' hlength]
    exact hreads []
  · rintro ⟨-, hslice, rfl⟩
    obtain ⟨body, hbody, -, hreads⟩ := exists_body_of_decode? hslice
    have hsplit := List.take_append_drop (closingMark t + 1) t
    rw [hbody, List.cons_append, List.append_assoc, List.singleton_append] at hsplit
    conv_lhs => rw [← hsplit]
    exact hreads _

/-- A literal is read up to the mark that the scan finds as it is without a scan. -/
theorem readLiteral?_eq (t : Text) : readLiteral? t = decode? t := by
  refine Option.ext fun ⟨value, rest⟩ => ?_
  rw [decode?_eq_some_iff]
  unfold readLiteral?
  dsimp only
  split
  · next hmark => exact ⟨nofun, fun h => absurd h.1 (Nat.not_lt.mpr hmark)⟩
  next hmark =>
  split
  · next found hslice =>
    simp only [hslice, Option.some.injEq, Prod.mk.injEq, and_true]
    exact ⟨fun h => ⟨Nat.not_le.mp hmark, h⟩, And.right⟩
  · next hslice => exact ⟨nofun, fun h => absurd h.2.1 (hslice value)⟩

end RouteDoc.Tag
