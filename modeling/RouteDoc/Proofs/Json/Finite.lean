import RouteDoc.Proofs.Json.Text

/-! Texts with numbers that are not finite. The words for these numbers have letters that stand
nowhere in a text of RFC 8259 outside its literals, so the text of a value is such a text only when
the numbers in the value are finite. -/

namespace RouteDoc.Json

variable {layout : Layout} {depth : Nat}

/-! ### What stands outside the literals -/

/-- The characters of a text outside its literals, where the text begins inside one or outside. -/
def outside : (inside : Bool) → Text → Text
  | _, [] => []
  | false, '\x22' :: t => outside true t
  | false, c :: t => c :: outside false t
  | true, '\x22' :: t => outside false t
  | true, '\\' :: _ :: t => outside true t
  | true, _ :: t => outside true t

/-- A text that begins and ends outside of literals shows certain characters, whatever follows. -/
def Shows (t shown : Text) : Prop := ∀ u, outside false (t ++ u) = shown ++ outside false u

theorem Shows.unique {t shown other : Text} (h : Shows t shown) (h' : Shows t other) :
    shown = other := by
  have hsame := (h []).symm.trans (h' [])
  rwa [outside, List.append_nil, List.append_nil] at hsame

theorem Shows.append {s t shown other : Text} (h : Shows s shown) (h' : Shows t other) :
    Shows (s ++ t) (shown ++ other) := by
  intro u
  rw [List.append_assoc, h, h', List.append_assoc]

theorem outside_plain {c : Char} (h : c ≠ '\x22') (t : Text) :
    outside false (c :: t) = c :: outside false t := by
  rw [outside]
  simpa using h

theorem inside_plain {c : Char} (hmark : c ≠ '\x22') (hslash : c ≠ '\\') (t : Text) :
    outside true (c :: t) = outside true t := by
  rw [outside]
  · simpa using hmark
  · simp [hslash]

theorem inside_unit {a b c d : Char} {n : Nat} (h : Literal.IsUnit a b c d n) (t : Text) :
    outside true ('\\' :: 'u' :: a :: b :: c :: d :: t) = outside true t := by
  have hdigit : ∀ {c : Char} {value : Nat}, Literal.IsHexDigit c value → c ≠ '\x22' ∧ c ≠ '\\' := by
    intro c value hc
    constructor <;>
    · rintro rfl
      simp [Literal.IsHexDigit] at hc
  obtain ⟨_, _, _, _, ha, hb, hc, hd, -⟩ := h
  show outside true (a :: b :: c :: d :: t) = _
  rw [inside_plain (hdigit ha).1 (hdigit ha).2, inside_plain (hdigit hb).1 (hdigit hb).2,
    inside_plain (hdigit hc).1 (hdigit hc).2, inside_plain (hdigit hd).1 (hdigit hd).2]

theorem inside_spells {body : Text} {points : List Nat} (h : Literal.Spells body points)
    (u : Text) : outside true (body ++ '\x22' :: u) = outside false u := by
  induction h with
  | nil => rfl
  | plain _ hmark hslash _ ih => exact (inside_plain hmark hslash _).trans ih
  | short _ _ ih => exact ih
  | unit hunit _ ih => exact (inside_unit hunit _).trans ih
  | pair hhigh hlow _ _ _ ih => exact ((inside_unit hhigh _).trans (inside_unit hlow _)).trans ih

theorem shows_string {t : Text} (h : IsString t) : Shows t [] := by
  obtain ⟨body, points, hbody, rfl⟩ := h
  intro u
  show outside true ((body ++ ['\x22']) ++ u) = _
  rw [List.append_assoc]
  exact inside_spells hbody u

theorem shows_plain {t : Text} (h : '\x22' ∉ t) : Shows t t := by
  intro u
  induction t with
  | nil => rfl
  | cons c t ih =>
    obtain ⟨hc, ht⟩ := not_or.mp (List.mem_cons.not.mp h)
    rw [List.cons_append, outside_plain (Ne.symm hc), ih ht, List.cons_append]

/-- A character that does not begin the word for a number without a finite value. -/
def IsCalm (c : Char) : Prop := c ≠ 'I' ∧ c ≠ 'N'

instance (c : Char) : Decidable (IsCalm c) := inferInstanceAs (Decidable (_ ∧ _))

/-- A text that shows nothing of these words. -/
def ShowsCalm (t : Text) : Prop := ∃ shown, Shows t shown ∧ ∀ c ∈ shown, IsCalm c

theorem ShowsCalm.append {s t : Text} (hs : ShowsCalm s) (ht : ShowsCalm t) :
    ShowsCalm (s ++ t) := by
  obtain ⟨shown, hshown, hcalm⟩ := hs
  obtain ⟨other, hother, hcalm'⟩ := ht
  exact ⟨shown ++ other, hshown.append hother, List.forall_mem_append.mpr ⟨hcalm, hcalm'⟩⟩

theorem showsCalm_string {t : Text} (h : IsString t) : ShowsCalm t :=
  ⟨[], shows_string h, List.forall_mem_nil _⟩

theorem showsCalm_plain {t : Text} (h : ∀ c ∈ t, c ≠ '\x22' ∧ IsCalm c) : ShowsCalm t :=
  ⟨t, shows_plain fun hmem => (h _ hmem).1 rfl, fun c hc => (h c hc).2⟩

theorem showsCalm_cons {c : Char} {t : Text} (hc : c ≠ '\x22' ∧ IsCalm c) (ht : ShowsCalm t) :
    ShowsCalm (c :: t) :=
  (showsCalm_plain (List.forall_mem_singleton.mpr hc)).append ht

theorem showsCalm_between {c d : Char} {t : Text} (hc : c ≠ '\x22' ∧ IsCalm c)
    (hd : d ≠ '\x22' ∧ IsCalm d) (ht : ShowsCalm t) : ShowsCalm (c :: (t ++ [d])) :=
  showsCalm_cons hc (ht.append (showsCalm_plain (List.forall_mem_singleton.mpr hd)))

theorem showsCalm_gap {t : Text} (h : IsGap t) : ShowsCalm t := by
  refine showsCalm_plain fun c hc => ?_
  have hgap := h c hc
  simp only [isGap, Bool.or_eq_true, beq_iff_eq] at hgap
  rcases hgap with ((rfl | rfl) | rfl) | rfl <;> decide

theorem showsCalm_number {t : Text} (h : IsNumber t) : ShowsCalm t := by
  refine showsCalm_plain fun c hc => ?_
  have hchar := h.isNumberChar c hc
  refine ⟨?_, ?_, ?_⟩ <;>
  · rintro rfl
    exact nomatch hchar

theorem Padded.showsCalm {p : Padded} (h : ShowsCalm p.part) : ShowsCalm p.text :=
  (showsCalm_gap p.gaps.1).append (h.append (showsCalm_gap p.gaps.2))

theorem showsCalm_join {ts : List Text} (h : ∀ t ∈ ts, ShowsCalm t) :
    ShowsCalm (Text.join [','] ts) := by
  induction ts with
  | nil => exact showsCalm_plain (List.forall_mem_nil _)
  | cons t ts ih =>
    obtain ⟨ht, hts⟩ := List.forall_mem_cons.mp h
    cases ts with
    | nil => simpa [Text.join] using ht
    | cons next ts =>
      rw [Text.join_cons_cons, List.append_assoc]
      exact ht.append (showsCalm_cons (by decide) (ih hts))

theorem IsValue.showsCalm {t : Text} (h : IsValue t) : ShowsCalm t := by
  induction h with
  | word h =>
    simp only [List.map_cons, List.map_nil, List.mem_cons, List.not_mem_nil, or_false] at h
    rcases h with rfl | rfl | rfl <;> exact showsCalm_plain (by simp [IsCalm])
  | number h => exact showsCalm_number h
  | string h => exact showsCalm_string h
  | emptyArray h => exact showsCalm_between (by decide) (by decide) (showsCalm_gap h)
  | array _ _ ih =>
    refine showsCalm_between (by decide) (by decide) (showsCalm_join ?_)
    exact List.forall_mem_map.mpr fun p hp => p.showsCalm (ih p hp)
  | emptyObject h => exact showsCalm_between (by decide) (by decide) (showsCalm_gap h)
  | object _ hnames _ ih =>
    refine showsCalm_between (by decide) (by decide) (showsCalm_join ?_)
    refine List.forall_mem_map.mpr fun m hm => ?_
    exact (m.1.showsCalm (showsCalm_string (hnames m hm))).append
      (showsCalm_cons (by decide) (m.2.showsCalm (ih m hm)))

theorem IsText.showsCalm {t : Text} (h : IsText t) : ShowsCalm t := by
  obtain ⟨p, hp, rfl⟩ := h
  exact p.showsCalm hp.showsCalm

/-! ### The words for numbers that are not finite -/

/-- What a text shows says whether something holds. -/
def Tells (t : Text) (P : Prop) : Prop :=
  ∃ shown, Shows t shown ∧ ((∀ c ∈ shown, IsCalm c) → P)

theorem Tells.append {s t : Text} {P Q : Prop} (hs : Tells s P) (ht : Tells t Q) :
    Tells (s ++ t) (P ∧ Q) := by
  obtain ⟨shown, hshown, hP⟩ := hs
  obtain ⟨other, hother, hQ⟩ := ht
  refine ⟨shown ++ other, hshown.append hother, fun hcalm => ?_⟩
  obtain ⟨hcalm, hcalm'⟩ := List.forall_mem_append.mp hcalm
  exact ⟨hP hcalm, hQ hcalm'⟩

theorem Tells.of_calm {t : Text} {P : Prop} (h : ShowsCalm t) (hP : P) : Tells t P := by
  obtain ⟨shown, hshown, -⟩ := h
  exact ⟨shown, hshown, fun _ => hP⟩

theorem Tells.mono {t : Text} {P Q : Prop} (h : Tells t P) (hPQ : P → Q) : Tells t Q := by
  obtain ⟨shown, hshown, hP⟩ := h
  exact ⟨shown, hshown, fun hcalm => hPQ (hP hcalm)⟩

/-- What a text says that shows no such word is true. -/
theorem ShowsCalm.of_tells {t : Text} {P : Prop} (h : ShowsCalm t) (ht : Tells t P) : P := by
  obtain ⟨shown, hshown, hcalm⟩ := h
  obtain ⟨other, hother, hP⟩ := ht
  exact hP (hshown.unique hother ▸ hcalm)

theorem tells_word {t : Text} {P : Prop} (hmark : '\x22' ∉ t) (h : ∃ c ∈ t, ¬IsCalm c) :
    Tells t P := by
  obtain ⟨c, hc, hloud⟩ := h
  exact ⟨t, shows_plain hmark, fun hcalm => absurd (hcalm c hc) hloud⟩

theorem tells_float {x : Binary64} (h : x.Canonical) :
    Tells (x.render numberLayout) (Json.Finite (.float x)) := by
  have hfloat : Json.Finite (.float x) ↔ x.isFinite = true :=
    every_iff.trans (and_iff_left (List.forall_mem_nil _))
  rw [hfloat]
  cases x with
  | finite negative m e => exact .of_calm (showsCalm_number (isNumber_render h)) rfl
  | infinite negative =>
    cases negative with
    | true => exact tells_word (by decide) ⟨'I', by decide, by decide⟩
    | false => exact tells_word (by decide) ⟨'I', by decide, by decide⟩
  | nan => exact tells_word (by decide) ⟨'N', by decide, by decide⟩

theorem showsCalm_edge (layout : Layout) (depth : Nat) : ShowsCalm (layout.edge depth) :=
  showsCalm_gap (isGap_edge layout depth)

theorem showsCalm_comma (layout : Layout) (depth : Nat) : ShowsCalm (layout.between depth) := by
  obtain ⟨space, hbetween, hspace⟩ := between_eq layout depth
  rw [hbetween]
  exact showsCalm_cons (by decide) (showsCalm_gap hspace)

theorem tells_items {items : List Json}
    (h : ∀ item ∈ items, Tells (renderAt layout depth item) item.Finite) :
    Tells (renderItems layout depth items) (∀ item ∈ items, item.Finite) := by
  induction items with
  | nil => exact .of_calm (showsCalm_plain (List.forall_mem_nil _)) (List.forall_mem_nil _)
  | cons item items ih =>
    obtain ⟨hitem, hitems⟩ := List.forall_mem_cons.mp h
    have hcomma := Tells.of_calm (showsCalm_comma layout depth) trivial
    rw [renderItems]
    refine ((hcomma.append hitem).append (ih hitems)).mono ?_
    rintro ⟨⟨-, hitem⟩, hitems⟩
    exact List.forall_mem_cons.mpr ⟨hitem, hitems⟩

theorem showsCalm_name (name : Text) : ShowsCalm (Literal.encode name ++ [':', ' ']) :=
  (showsCalm_string (isString_encode name)).append (showsCalm_plain (by simp [IsCalm]))

theorem tells_members {members : List (Text × Json)}
    (h : ∀ m ∈ members, Tells (renderAt layout depth m.2) m.2.Finite) :
    Tells (renderMembers layout depth members) (∀ m ∈ members, m.2.Finite) := by
  induction members with
  | nil => exact .of_calm (showsCalm_plain (List.forall_mem_nil _)) (List.forall_mem_nil _)
  | cons member members ih =>
    obtain ⟨name, value⟩ := member
    obtain ⟨hvalue, hmembers⟩ := List.forall_mem_cons.mp h
    have hstart :=
      Tells.of_calm ((showsCalm_comma layout depth).append (showsCalm_name name)) trivial
    rw [renderMembers, List.append_assoc (layout.between depth)]
    refine ((hstart.append hvalue).append (ih hmembers)).mono ?_
    rintro ⟨⟨-, hvalue⟩, hmembers⟩
    exact List.forall_mem_cons.mpr ⟨hvalue, hmembers⟩

theorem tells_array {items : List Json}
    (h : ∀ item ∈ items, ∀ depth, Tells (renderAt layout depth item) item.Finite) :
    Tells (renderAt layout depth (.array items)) (Json.Finite (.array items)) := by
  cases items with
  | nil =>
    rw [renderAt]
    exact .of_calm (showsCalm_plain (by simp [IsCalm]))
      (every_array.mpr ⟨trivial, List.forall_mem_nil _⟩)
  | cons item items =>
    obtain ⟨hitem, hitems⟩ := List.forall_mem_cons.mp h
    have hopen : ShowsCalm ('[' :: layout.edge (depth + 1)) :=
      showsCalm_cons (by decide) (showsCalm_edge layout (depth + 1))
    have hclose : ShowsCalm (layout.edge depth ++ [']']) :=
      (showsCalm_edge layout depth).append (showsCalm_plain (by simp [IsCalm]))
    have hall := (((Tells.of_calm hopen trivial).append (hitem (depth + 1))).append
      (tells_items fun i hi => hitems i hi (depth + 1))).append (.of_calm hclose trivial)
    rw [renderAt]
    simp only [List.append_assoc, List.cons_append] at hall ⊢
    refine hall.mono ?_
    rintro ⟨⟨⟨-, hitem⟩, hitems⟩, -⟩
    exact every_array.mpr ⟨trivial, List.forall_mem_cons.mpr ⟨hitem, hitems⟩⟩

theorem tells_object {members : List (Text × Json)}
    (h : ∀ m ∈ members, ∀ depth, Tells (renderAt layout depth m.2) m.2.Finite) :
    Tells (renderAt layout depth (.object members)) (Json.Finite (.object members)) := by
  cases members with
  | nil =>
    rw [renderAt]
    exact .of_calm (showsCalm_plain (by simp [IsCalm]))
      (every_object.mpr ⟨trivial, List.forall_mem_nil _⟩)
  | cons member members =>
    obtain ⟨name, value⟩ := member
    obtain ⟨hvalue, hmembers⟩ := List.forall_mem_cons.mp h
    have hopen : ShowsCalm ('\x7b' :: layout.edge (depth + 1) ++
        (Literal.encode name ++ [':', ' '])) :=
      (showsCalm_cons (by decide) (showsCalm_edge layout (depth + 1))).append (showsCalm_name name)
    have hclose : ShowsCalm (layout.edge depth ++ ['\x7d']) :=
      (showsCalm_edge layout depth).append (showsCalm_plain (by simp [IsCalm]))
    have hall := (((Tells.of_calm hopen trivial).append (hvalue (depth + 1))).append
      (tells_members fun m hm => hmembers m hm (depth + 1))).append (.of_calm hclose trivial)
    rw [renderAt]
    simp only [List.append_assoc, List.cons_append] at hall ⊢
    refine hall.mono ?_
    rintro ⟨⟨⟨-, hvalue⟩, hmembers⟩, -⟩
    exact every_object.mpr ⟨trivial, List.forall_mem_cons.mpr ⟨hvalue, hmembers⟩⟩

/-- The text of a value tells whether the numbers in it are finite. -/
theorem tells_renderAt {v : Json} (h : v.WellFormed) (depth : Nat) :
    Tells (renderAt layout depth v) v.Finite := by
  induction h generalizing depth with
  | @intro v root below ih =>
    have hleaf : v.IsFinite → v.children = [] → v.Finite := by
      intro hfinite hchildren
      rw [Json.Finite, every_iff, hchildren]
      exact ⟨hfinite, List.forall_mem_nil _⟩
    cases v with
    | null => exact .of_calm (showsCalm_plain (by simp [renderAt, IsCalm])) (hleaf trivial rfl)
    | bool value =>
      cases value <;>
        exact .of_calm (showsCalm_plain (by simp [renderAt, IsCalm])) (hleaf trivial rfl)
    | int n => exact .of_calm (showsCalm_number (isNumber_ofInt n)) (hleaf trivial rfl)
    | float x => exact tells_float root
    | string t => exact .of_calm (showsCalm_string (isString_encode t)) (hleaf trivial rfl)
    | array items => exact tells_array fun item hitem depth => ih item hitem depth
    | object members =>
      exact tells_object fun m hm depth => ih m.2 (List.mem_map.mpr ⟨m, hm, rfl⟩) depth

/-- The text of a value is a text of RFC 8259 exactly when all numbers in the value are finite. -/
theorem isText_render_iff (layout : Layout) {v : Json} (h : v.WellFormed) :
    IsText (render layout v) ↔ v.Finite := by
  constructor
  · exact fun htext => htext.showsCalm.of_tells (tells_renderAt h 0)
  · intro finite
    have hnone : IsGap [] := List.forall_mem_nil _
    refine ⟨⟨[], render layout v, [], hnone, hnone⟩, isValue_renderAt h finite 0, ?_⟩
    exact (List.append_nil _).symm

end RouteDoc.Json
