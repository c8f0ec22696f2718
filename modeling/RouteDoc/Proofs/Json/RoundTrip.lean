import RouteDoc.Proofs.Entries
import RouteDoc.Proofs.Json.Encoding
import RouteDoc.Proofs.Json.Number
import RouteDoc.Proofs.Json.Tree

/-! The text of a value is read back as the value, in every layout, and whether or not its numbers
are finite. -/

namespace RouteDoc.Json

open Numeral

/-! ### Gaps -/

/-- Blanks between tokens. -/
def IsGap (t : Text) : Prop := ∀ c ∈ t, isGap c = true

theorem skipGap_append {gap : Text} (h : IsGap gap) (t : Text) : skipGap (gap ++ t) = skipGap t :=
  List.dropWhile_append_of_pos h

theorem skipGap_cons {c : Char} (h : isGap c = false) (t : Text) : skipGap (c :: t) = c :: t :=
  List.dropWhile_cons_of_neg (by simp [h])

variable {layout : Layout} {depth : Nat}

theorem isGap_edge (layout : Layout) (depth : Nat) : IsGap (layout.edge depth) := by
  cases layout with
  | none => exact List.forall_mem_nil _
  | some width =>
    refine List.forall_mem_cons.mpr ⟨rfl, fun c hc => ?_⟩
    rw [List.eq_of_mem_replicate hc]
    rfl

theorem between_eq (layout : Layout) (depth : Nat) :
    ∃ gap, layout.between depth = ',' :: gap ∧ IsGap gap := by
  cases layout with
  | none => exact ⟨[' '], rfl, List.forall_mem_singleton.mpr rfl⟩
  | some width => exact ⟨Layout.edge (some width) depth, rfl, isGap_edge (some width) depth⟩

/-! ### One value -/

/-- The reader finds the value of a text, behind a gap and before what cannot belong to a number.
The fuel is enough when there is twice as much as the text is long. -/
def Reads (t : Text) (v : Json) : Prop :=
  ∀ (gap rest : Text) (fuel : Nat), IsGap gap → (∀ c ∈ rest.head?, isNumberChar c = false) →
    2 * t.length ≤ fuel → readValue fuel (gap ++ (t ++ rest)) = some (v, rest)

/-- A character that begins a word or a number. -/
def BeginsScalar (c : Char) : Prop :=
  isGap c = false ∧ c ≠ '[' ∧ c ≠ '\x7b' ∧ c ≠ '\x22'

theorem reads_of_scalar {c : Char} {t : Text} {v : Json} (hc : BeginsScalar c)
    (h : ∀ rest : Text, (∀ c ∈ rest.head?, isNumberChar c = false) →
      scalar? (c :: t ++ rest) = some (v, rest)) : Reads (c :: t) v := by
  obtain ⟨hgap, harray, hobject, hstring⟩ := hc
  intro gap rest fuel hskip hrest hfuel
  rw [List.length_cons] at hfuel
  obtain ⟨fuel, rfl⟩ : ∃ f, fuel = f + 1 := ⟨fuel - 1, by omega⟩
  rw [readValue, skipGap_append hskip, List.cons_append, skipGap_cons hgap]
  split
  · next heq => exact absurd (List.cons.inj heq).1 harray
  · next heq => exact absurd (List.cons.inj heq).1 hobject
  · next heq => exact absurd (List.cons.inj heq).1 hstring
  · exact h rest hrest

theorem reads_of_mem_keywords {word : Text} {v : Json} (h : (word, v) ∈ keywords) :
    Reads word v := by
  have hhead : ∃ c t, word = c :: t ∧ BeginsScalar c := by
    simp only [keywords, List.mem_cons, List.not_mem_nil, or_false, Prod.mk.injEq] at h
    rcases h with ⟨rfl, -⟩ | ⟨rfl, -⟩ | ⟨rfl, -⟩ | ⟨rfl, -⟩ | ⟨rfl, -⟩ | ⟨rfl, -⟩
    all_goals exact ⟨_, _, rfl, by decide, by decide, by decide, by decide⟩
  obtain ⟨c, t, rfl, hc⟩ := hhead
  exact reads_of_scalar hc fun rest _ => scalar?_of_mem_keywords h rest

theorem reads_number {t : Text} {v : Json} (h : IsNumber t) (hvalue : number? t = some v) :
    Reads t v := by
  obtain ⟨negative, d, body, rfl, hd⟩ := h.head
  have hother : ∀ c : Char, c.isDigit = false → d ≠ c := by
    rintro c hc rfl
    exact nomatch hc.symm.trans hd
  have hdigit : BeginsScalar d := by
    refine ⟨?_, hother _ rfl, hother _ rfl, hother _ rfl⟩
    simp [isGap, hother ' ' rfl, hother '\n' rfl, hother '\r' rfl, hother '\t' rfl]
  cases negative with
  | true =>
    exact reads_of_scalar ⟨by decide, by decide, by decide, by decide⟩ fun rest hrest =>
      scalar?_of_isNumber h hvalue hrest
  | false => exact reads_of_scalar hdigit fun rest hrest => scalar?_of_isNumber h hvalue hrest

theorem reads_string (t : Text) : Reads (Literal.encode t) (.string t) := by
  intro gap rest fuel hskip _ hfuel
  have hpos : 0 < (Literal.encode t).length := Nat.succ_pos _
  obtain ⟨fuel, rfl⟩ : ∃ f, fuel = f + 1 := ⟨fuel - 1, by omega⟩
  have hread := Literal.decode?_encode t rest
  rw [Literal.encode, List.cons_append, List.cons_append] at hread
  rw [readValue, skipGap_append hskip, Literal.encode, List.cons_append, List.cons_append,
    skipGap_cons (by decide)]
  simp only [hread]
  rfl

theorem reads_float {x : Binary64} (h : x.Canonical) :
    Reads (x.render numberLayout) (.float x) := by
  cases x with
  | finite negative m e => exact reads_number (isNumber_render h) (number?_render h)
  | infinite negative =>
    cases negative with
    | true =>
      have hword : ("-Infinity".toList, .float (.infinite true)) ∈ keywords := by simp [keywords]
      exact reads_of_mem_keywords hword
    | false =>
      have hword : ("Infinity".toList, .float (.infinite false)) ∈ keywords := by simp [keywords]
      exact reads_of_mem_keywords hword
  | nan =>
    have hword : ("NaN".toList, .float .nan) ∈ keywords := by simp [keywords]
    exact reads_of_mem_keywords hword

/-! ### Containers -/

/-- What separates or closes items belongs to no number. -/
theorem isNumberChar_of_isGap {c : Char} (h : isGap c = true) : isNumberChar c = false := by
  simp only [isGap, Bool.or_eq_true, beq_iff_eq] at h
  rcases h with ((rfl | rfl) | rfl) | rfl <;> rfl

theorem head_gap_append {gap t : Text} (hgap : IsGap gap)
    (h : ∀ c ∈ t.head?, isNumberChar c = false) :
    ∀ c ∈ (gap ++ t).head?, isNumberChar c = false := by
  cases gap with
  | nil => exact h
  | cons g gap =>
    intro c hc
    obtain rfl : g = c := Option.some.inj hc
    exact isNumberChar_of_isGap (hgap g List.mem_cons_self)

theorem head_of_isNumberChar {c : Char} (h : isNumberChar c = false) (t : Text) :
    ∀ d ∈ (c :: t).head?, isNumberChar d = false := by
  intro d hd
  obtain rfl : c = d := Option.some.inj hd
  exact h

theorem head_renderItems_append {items : List Json} {closing : Text} (hclosing : IsGap closing)
    (rest : Text) : ∀ c ∈ (renderItems layout depth items ++ (closing ++ ']' :: rest)).head?,
      isNumberChar c = false := by
  cases items with
  | nil =>
    rw [renderItems, List.nil_append]
    exact head_gap_append hclosing (head_of_isNumberChar rfl rest)
  | cons item items =>
    obtain ⟨space, hbetween, -⟩ := between_eq layout depth
    rw [renderItems, hbetween]
    exact head_of_isNumberChar rfl _

/-- One item of an array is read, and a comma or the bracket behind it is looked for. -/
theorem readItems_succ {t gap rest : Text} {item : Json} {fuel : Nat} (h : Reads t item)
    (hgap : IsGap gap) (hrest : ∀ c ∈ rest.head?, isNumberChar c = false)
    (hfuel : 2 * t.length ≤ fuel) :
    readItems (fuel + 1) (gap ++ (t ++ rest)) =
      match skipGap rest with
      | ',' :: rest => (readItems fuel rest).map fun (items, rest) => (item :: items, rest)
      | ']' :: rest => some ([item], rest)
      | _ => none := by
  rw [readItems, h gap rest fuel hgap hrest hfuel]
  simp only [Option.bind_eq_bind, Option.bind_some, Option.map_eq_bind]
  rfl

/-- The items of an array are read up to its end. -/
theorem readItems_render {item : Json} {items : List Json}
    (h : ∀ i ∈ item :: items, Reads (renderAt layout depth i) i) {gap closing : Text}
    (hgap : IsGap gap) (hclosing : IsGap closing) (rest : Text) (fuel : Nat)
    (hfuel : 2 * (renderAt layout depth item ++ renderItems layout depth items).length < fuel) :
    readItems fuel (gap ++ (renderAt layout depth item ++
      (renderItems layout depth items ++ (closing ++ ']' :: rest)))) =
        some (item :: items, rest) := by
  induction items generalizing item gap fuel with
  | nil =>
    obtain ⟨fuel, rfl⟩ : ∃ f, fuel = f + 1 := ⟨fuel - 1, by omega⟩
    rw [renderItems, List.append_nil] at hfuel
    rw [renderItems, List.nil_append, readItems_succ (h item List.mem_cons_self) hgap
      (head_gap_append hclosing (head_of_isNumberChar rfl rest)) (by omega),
      skipGap_append hclosing]
    rfl
  | cons next items ih =>
    obtain ⟨fuel, rfl⟩ : ∃ f, fuel = f + 1 := ⟨fuel - 1, by omega⟩
    obtain ⟨space, hbetween, hspace⟩ := between_eq layout depth
    obtain ⟨hitem, hitems⟩ := List.forall_mem_cons.mp h
    simp only [renderItems, hbetween, List.cons_append, List.append_assoc, List.length_cons,
      List.length_append] at hfuel ⊢
    rw [readItems_succ hitem hgap (head_of_isNumberChar rfl _) (by omega), skipGap_cons rfl]
    have hmore := ih hitems hspace fuel (by rw [List.length_append]; omega)
    show (readItems fuel _).map _ = _
    rw [hmore]
    rfl

/-- One member of an object is read, and a comma or the brace behind it is looked for. -/
theorem readMembers_succ {name t gap rest : Text} {value : Json} {before : Entries Text Json}
    {fuel : Nat} (h : Reads t value) (fresh : name ∉ before.keys) (hgap : IsGap gap)
    (hrest : ∀ c ∈ rest.head?, isNumberChar c = false) (hfuel : 2 * t.length ≤ fuel) :
    readMembers (fuel + 1) before (gap ++ (Literal.encode name ++ (':' :: ' ' :: (t ++ rest)))) =
      match skipGap rest with
      | ',' :: rest => readMembers fuel (before ++ [(name, value)]) rest
      | '\x7d' :: rest => some (before ++ [(name, value)], rest)
      | _ => none := by
  have hname : ∀ u : Text, Literal.decode? (skipGap (gap ++ (Literal.encode name ++ u))) =
      some (name, u) := by
    intro u
    rw [skipGap_append hgap, Literal.encode, List.cons_append, List.cons_append,
      skipGap_cons rfl]
    exact Literal.decode?_encode name u
  have hspace : IsGap [' '] := List.forall_mem_singleton.mpr rfl
  have hvalue := h [' '] rest fuel hspace hrest hfuel
  rw [List.singleton_append] at hvalue
  have hcolon : isGap ':' = false := rfl
  rw [readMembers, hname]
  simp only [Option.bind_eq_bind, Option.bind_some, skipGap_cons hcolon, hvalue,
    Entries.put_eq_append fresh]
  rfl

theorem not_mem_keys_of_nodup {name : Text} {value : Json} {members before : Entries Text Json}
    (h : (before.keys ++ Entries.keys ((name, value) :: members)).Nodup) : name ∉ before.keys :=
  fun hmem => (List.nodup_append.mp h).2.2 name hmem name List.mem_cons_self rfl

/-- The members of an object are read up to its end, when their names are new and differ. -/
theorem readMembers_render {name : Text} {value : Json} {members : List (Text × Json)}
    (h : ∀ m ∈ (name, value) :: members, Reads (renderAt layout depth m.2) m.2)
    {before : Entries Text Json}
    (distinct : (before.keys ++ Entries.keys ((name, value) :: members)).Nodup)
    {gap closing : Text} (hgap : IsGap gap) (hclosing : IsGap closing) (rest : Text) (fuel : Nat)
    (hfuel : 2 * (renderAt layout depth value ++ renderMembers layout depth members).length <
      fuel) :
    readMembers fuel before (gap ++ (Literal.encode name ++ (':' :: ' ' ::
      (renderAt layout depth value ++
        (renderMembers layout depth members ++ (closing ++ '\x7d' :: rest)))))) =
          some (before ++ (name, value) :: members, rest) := by
  induction members generalizing name value before gap fuel with
  | nil =>
    obtain ⟨fuel, rfl⟩ : ∃ f, fuel = f + 1 := ⟨fuel - 1, by omega⟩
    rw [renderMembers, List.append_nil] at hfuel
    rw [renderMembers, List.nil_append, readMembers_succ (h _ List.mem_cons_self)
      (not_mem_keys_of_nodup distinct) hgap
      (head_gap_append hclosing (head_of_isNumberChar rfl rest)) (by dsimp only; omega),
      skipGap_append hclosing]
    rfl
  | cons next members ih =>
    obtain ⟨other, sibling⟩ := next
    obtain ⟨fuel, rfl⟩ : ∃ f, fuel = f + 1 := ⟨fuel - 1, by omega⟩
    obtain ⟨space, hbetween, hspace⟩ := between_eq layout depth
    obtain ⟨hvalue, hmembers⟩ := List.forall_mem_cons.mp h
    have hkeys : (before ++ [(name, value)]).keys ++ Entries.keys ((other, sibling) :: members) =
        before.keys ++ Entries.keys ((name, value) :: (other, sibling) :: members) := by
      simp [Entries.keys]
    simp only [renderMembers, hbetween, List.cons_append, List.nil_append, List.append_assoc,
      List.length_cons, List.length_append] at hfuel ⊢
    have hmore := ih hmembers (hkeys ▸ distinct) hspace fuel (by rw [List.length_append]; omega)
    rw [readMembers_succ hvalue (not_mem_keys_of_nodup distinct) hgap
      (head_of_isNumberChar rfl _) (by dsimp only; omega), skipGap_cons rfl]
    show readMembers fuel _ _ = _
    rw [hmore]
    simp

/-! ### Every value -/

/-- A text with a value does not begin with a closing bracket. -/
theorem Reads.skipGap_ne {t rest : Text} {v : Json} (h : Reads t v)
    (hrest : ∀ c ∈ rest.head?, isNumberChar c = false) (after : Text) :
    skipGap (t ++ rest) ≠ ']' :: after := by
  intro heq
  have hread := h [] rest (2 * t.length + 1) (List.forall_mem_nil _) hrest (Nat.le_succ _)
  have hnone : scalar? (']' :: after) = none := rfl
  rw [List.nil_append, readValue, heq] at hread
  exact nomatch hnone.symm.trans hread

theorem readValue_array {gap rest : Text} (hgap : IsGap gap) (hrest : ∀ t, skipGap rest ≠ ']' :: t)
    (fuel : Nat) : readValue (fuel + 1) (gap ++ '[' :: rest) =
      (readItems fuel rest).map fun (items, rest) => (Json.array items, rest) := by
  have hopening : isGap '[' = false := rfl
  simp only [readValue, skipGap_append hgap, skipGap_cons hopening]

theorem readValue_object {gap rest : Text} (hgap : IsGap gap)
    (hrest : ∀ t, skipGap rest ≠ '\x7d' :: t) (fuel : Nat) :
    readValue (fuel + 1) (gap ++ '\x7b' :: rest) =
      (readMembers fuel [] rest).map fun (members, rest) => (Json.object members, rest) := by
  have hopening : isGap '\x7b' = false := rfl
  simp only [readValue, skipGap_append hgap, skipGap_cons hopening]

theorem reads_array {items : List Json}
    (h : ∀ item ∈ items, ∀ depth, Reads (renderAt layout depth item) item) :
    Reads (renderAt layout depth (.array items)) (.array items) := by
  intro gap rest fuel hgap _ hfuel
  cases items with
  | nil =>
    obtain ⟨fuel, rfl⟩ : ∃ f, fuel = f + 1 := ⟨fuel - 1, by simp [renderAt] at hfuel; omega⟩
    rw [readValue, skipGap_append hgap, renderAt]
    rfl
  | cons item items =>
    simp only [renderAt, List.cons_append, List.nil_append, List.append_assoc, List.length_cons,
      List.length_append] at hfuel ⊢
    obtain ⟨fuel, rfl⟩ : ∃ f, fuel = f + 1 := ⟨fuel - 1, by omega⟩
    have hedge := isGap_edge layout (depth + 1)
    have hitems := readItems_render (fun i hi => h i hi (depth + 1)) hedge
      (isGap_edge layout depth) rest fuel (by rw [List.length_append]; omega)
    rw [readValue_array hgap, hitems]
    · rfl
    · intro t
      rw [skipGap_append hedge]
      exact (h item List.mem_cons_self (depth + 1)).skipGap_ne
        (head_renderItems_append (isGap_edge layout depth) rest) t

theorem reads_object {members : List (Text × Json)} (distinct : (Entries.keys members).Nodup)
    (h : ∀ m ∈ members, ∀ depth, Reads (renderAt layout depth m.2) m.2) :
    Reads (renderAt layout depth (.object members)) (.object members) := by
  intro gap rest fuel hgap _ hfuel
  cases members with
  | nil =>
    obtain ⟨fuel, rfl⟩ : ∃ f, fuel = f + 1 := ⟨fuel - 1, by simp [renderAt] at hfuel; omega⟩
    rw [readValue, skipGap_append hgap, renderAt]
    rfl
  | cons member members =>
    obtain ⟨name, value⟩ := member
    simp only [renderAt, List.cons_append, List.nil_append, List.append_assoc, List.length_cons,
      List.length_append] at hfuel ⊢
    obtain ⟨fuel, rfl⟩ : ∃ f, fuel = f + 1 := ⟨fuel - 1, by omega⟩
    have hedge := isGap_edge layout (depth + 1)
    have hnames : (Entries.keys ([] : Entries Text Json) ++
        Entries.keys ((name, value) :: members)).Nodup := distinct
    have hmembers := readMembers_render (fun m hm => h m hm (depth + 1)) hnames
      hedge (isGap_edge layout depth) rest fuel (by rw [List.length_append]; omega)
    rw [readValue_object hgap, hmembers]
    · rfl
    · intro t
      rw [skipGap_append hedge, Literal.encode, List.cons_append, List.cons_append,
        skipGap_cons rfl]
      exact fun heq => nomatch (List.cons.inj heq).1

theorem reads_renderAt {v : Json} (h : v.WellFormed) (depth : Nat) :
    Reads (renderAt layout depth v) v := by
  induction h generalizing depth with
  | @intro v root below ih =>
    cases v with
    | null => exact reads_of_mem_keywords (by simp [keywords, renderAt])
    | bool value => cases value <;> exact reads_of_mem_keywords (by simp [keywords, renderAt])
    | int n => exact reads_number (isNumber_ofInt n) (number?_ofInt n)
    | float x => exact reads_float root
    | string t => exact reads_string t
    | array items => exact reads_array fun item hitem depth => ih item hitem depth
    | object members =>
      refine reads_object root fun m hm depth => ih m.2 ?_ depth
      exact List.mem_map.mpr ⟨m, hm, rfl⟩

/-- The text of a value, in every layout, holds the value. -/
theorem parse?_render (layout : Layout) {v : Json} (h : v.WellFormed) :
    parse? (render layout v) = some v := by
  have hreads : Reads (render layout v) v := reads_renderAt h 0
  have hread := hreads [] [] (2 * (render layout v).length + 1)
    (List.forall_mem_nil _) (fun _ hc => nomatch hc) (Nat.le_succ _)
  rw [List.nil_append, List.append_nil] at hread
  rw [parse?, hread]
  rfl

end RouteDoc.Json
