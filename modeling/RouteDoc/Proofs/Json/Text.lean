import RouteDoc.Proofs.Json.RoundTrip

/-! The texts of RFC 8259. The text of a value in which all numbers are finite is one of them, in
every layout. -/

namespace RouteDoc.Json

open Numeral

/-! ### The grammar -/

/-- The string literals of RFC 8259. -/
def IsString (t : Text) : Prop :=
  ∃ body points, Literal.Spells body points ∧ t = '\x22' :: (body ++ ['\x22'])

/-- A part of a text between two gaps. -/
structure Padded where
  before : Text
  part : Text
  after : Text
  gaps : IsGap before ∧ IsGap after

def Padded.text (p : Padded) : Text := p.before ++ (p.part ++ p.after)

/-- A member of an object: its name and its value. -/
def memberText (m : Padded × Padded) : Text := m.1.text ++ ':' :: m.2.text

/-- The values of RFC 8259 as texts. -/
inductive IsValue : Text → Prop
  | word {t : Text} : t ∈ ["null", "true", "false"].map String.toList → IsValue t
  | number {t : Text} : IsNumber t → IsValue t
  | string {t : Text} : IsString t → IsValue t
  | emptyArray {gap : Text} : IsGap gap → IsValue ('[' :: (gap ++ [']']))
  | array {items : List Padded} : items ≠ [] → (∀ item ∈ items, IsValue item.part) →
    IsValue ('[' :: (Text.join [','] (items.map Padded.text) ++ [']']))
  | emptyObject {gap : Text} : IsGap gap → IsValue ('\x7b' :: (gap ++ ['\x7d']))
  | object {members : List (Padded × Padded)} : members ≠ [] →
    (∀ m ∈ members, IsString m.1.part) → (∀ m ∈ members, IsValue m.2.part) →
    IsValue ('\x7b' :: (Text.join [','] (members.map memberText) ++ ['\x7d']))

/-- The texts of RFC 8259: one value between two gaps. -/
def IsText (t : Text) : Prop := ∃ p : Padded, IsValue p.part ∧ t = p.text

/-! ### The text of a value -/

variable {layout : Layout} {depth : Nat}

theorem isString_encode (t : Text) : IsString (Literal.encode t) :=
  ⟨_, _, Literal.isWriting_encodeChar.flatMap t, rfl⟩

/-- The items of an array stand between commas. -/
theorem exists_padded_items {P : Text → Prop} {item : Json} {items : List Json}
    (h : ∀ i ∈ item :: items, P (renderAt layout depth i)) {gap closing : Text}
    (hgap : IsGap gap) (hclosing : IsGap closing) :
    ∃ ps : List Padded, ps ≠ [] ∧ (∀ p ∈ ps, P p.part) ∧
      Text.join [','] (ps.map Padded.text) =
        gap ++ (renderAt layout depth item ++ (renderItems layout depth items ++ closing)) := by
  induction items generalizing item gap with
  | nil =>
    refine ⟨[⟨gap, renderAt layout depth item, closing, hgap, hclosing⟩], List.cons_ne_nil _ _,
      List.forall_mem_singleton.mpr (h item List.mem_cons_self), ?_⟩
    simp [Text.join, Padded.text, renderItems]
  | cons next items ih =>
    obtain ⟨hitem, hitems⟩ := List.forall_mem_cons.mp h
    obtain ⟨space, hbetween, hspace⟩ := between_eq layout depth
    obtain ⟨ps, hne, hps, hjoin⟩ := ih hitems hspace
    obtain ⟨p, ps, rfl⟩ := List.exists_cons_of_ne_nil hne
    refine ⟨⟨gap, renderAt layout depth item, [], hgap, List.forall_mem_nil _⟩ :: p :: ps,
      List.cons_ne_nil _ _, List.forall_mem_cons.mpr ⟨hitem, hps⟩, ?_⟩
    rw [List.map_cons] at hjoin
    rw [List.map_cons, List.map_cons, Text.join_cons_cons, hjoin, renderItems, hbetween]
    simp [Padded.text]

theorem exists_padded_members {P : Text → Prop} {name : Text} {value : Json}
    {members : List (Text × Json)}
    (h : ∀ m ∈ (name, value) :: members, P (renderAt layout depth m.2)) {gap closing : Text}
    (hgap : IsGap gap) (hclosing : IsGap closing) :
    ∃ ps : List (Padded × Padded), ps ≠ [] ∧ (∀ p ∈ ps, IsString p.1.part) ∧
      (∀ p ∈ ps, P p.2.part) ∧ Text.join [','] (ps.map memberText) =
        gap ++ (Literal.encode name ++ (':' :: ' ' :: (renderAt layout depth value ++
          (renderMembers layout depth members ++ closing)))) := by
  have hspace : IsGap [' '] := List.forall_mem_singleton.mpr rfl
  have hnone : IsGap [] := List.forall_mem_nil _
  induction members generalizing name value gap with
  | nil =>
    refine ⟨[(⟨gap, Literal.encode name, [], hgap, hnone⟩,
        ⟨[' '], renderAt layout depth value, closing, hspace, hclosing⟩)], List.cons_ne_nil _ _,
      List.forall_mem_singleton.mpr (isString_encode name),
      List.forall_mem_singleton.mpr (h _ List.mem_cons_self), ?_⟩
    simp [Text.join, memberText, Padded.text, renderMembers]
  | cons next members ih =>
    obtain ⟨other, sibling⟩ := next
    obtain ⟨hvalue, hmembers⟩ := List.forall_mem_cons.mp h
    obtain ⟨space, hbetween, hgap'⟩ := between_eq layout depth
    obtain ⟨ps, hne, hnames, hvalues, hjoin⟩ := ih hmembers hgap'
    obtain ⟨p, ps, rfl⟩ := List.exists_cons_of_ne_nil hne
    refine ⟨(⟨gap, Literal.encode name, [], hgap, hnone⟩,
        ⟨[' '], renderAt layout depth value, [], hspace, hnone⟩) :: p :: ps,
      List.cons_ne_nil _ _, List.forall_mem_cons.mpr ⟨isString_encode name, hnames⟩,
      List.forall_mem_cons.mpr ⟨hvalue, hvalues⟩, ?_⟩
    rw [List.map_cons] at hjoin
    rw [List.map_cons, List.map_cons, Text.join_cons_cons, hjoin, renderMembers, hbetween]
    simp [memberText, Padded.text]

theorem isValue_array {items : List Json}
    (h : ∀ item ∈ items, ∀ depth, IsValue (renderAt layout depth item)) :
    IsValue (renderAt layout depth (.array items)) := by
  cases items with
  | nil =>
    rw [renderAt]
    exact .emptyArray (List.forall_mem_nil _)
  | cons item items =>
    obtain ⟨ps, hne, hps, hjoin⟩ := exists_padded_items (fun i hi => h i hi (depth + 1))
      (isGap_edge layout (depth + 1)) (isGap_edge layout depth)
    have hvalue := IsValue.array hne hps
    rw [hjoin] at hvalue
    simpa [renderAt] using hvalue

theorem isValue_object {members : List (Text × Json)}
    (h : ∀ m ∈ members, ∀ depth, IsValue (renderAt layout depth m.2)) :
    IsValue (renderAt layout depth (.object members)) := by
  cases members with
  | nil =>
    rw [renderAt]
    exact .emptyObject (List.forall_mem_nil _)
  | cons member members =>
    obtain ⟨name, value⟩ := member
    obtain ⟨ps, hne, hnames, hvalues, hjoin⟩ := exists_padded_members
      (fun m hm => h m hm (depth + 1)) (isGap_edge layout (depth + 1)) (isGap_edge layout depth)
    have hvalue := IsValue.object hne hnames hvalues
    rw [hjoin] at hvalue
    simpa [renderAt] using hvalue

theorem isValue_renderAt {v : Json} (wellFormed : v.WellFormed) (finite : v.Finite) (depth : Nat) :
    IsValue (renderAt layout depth v) := by
  induction wellFormed generalizing depth with
  | @intro v root below ih =>
    obtain ⟨hroot, hbelow⟩ := every_iff.mp finite
    cases v with
    | null => exact .word (by simp [renderAt])
    | bool value => cases value <;> exact .word (by simp [renderAt])
    | int n => exact .number (isNumber_ofInt n)
    | float x =>
      cases x with
      | finite negative m e => exact .number (isNumber_render root)
      | infinite negative => exact absurd hroot Bool.false_ne_true
      | nan => exact absurd hroot Bool.false_ne_true
    | string t => exact .string (isString_encode t)
    | array items =>
      exact isValue_array fun item hitem depth => ih item hitem (hbelow item hitem) depth
    | object members =>
      refine isValue_object fun m hm depth => ?_
      have hmem : m.2 ∈ (object members).children := List.mem_map.mpr ⟨m, hm, rfl⟩
      exact ih m.2 hmem (hbelow m.2 hmem) depth

end RouteDoc.Json
