import RouteDoc.Proofs.Number.Numeral
import RouteDoc.Proofs.Schema.Overrun

/-! Chains of rules: for each rule the last option that concerns it decides, whatever else is in the
chain and wherever the options of other rules stand. -/

namespace RouteDoc.Rule

open Text

/-- What stands behind the mark of a rule, in the options that concern it. -/
def payloads (rule : Rule) (options : List Text) : List Text :=
  options.filterMap (dropStart? rule.mark)

/-- What the last option for a rule says, when the chain has the rule. -/
def last? (rules : List Rule) (options : List Text) (rule : Rule) : Option Text :=
  if rule ∈ rules then (payloads rule options).getLast? else none

/-- The whole number that a text names. -/
def integerValue? (value : Text) : Option Int :=
  (Numeral.integer? value).map fun (negative, digits) => Numeral.toInt negative digits

/-- The bound that a text names. -/
def boundValue? (value : Text) : Option Bound := (Numeral.float? value).map .real

/-- A schema with what is said to each rule; where nothing is said, the schema keeps its own. -/
def settle (said : Rule → Option Text) (schema : Schema) : Schema :=
  { schema with
    length := (said .length).elim schema.length integerValue?
    enum := (said .enum).elim schema.enum (splitOn ',')
    maximum := (said .maximum).elim schema.maximum boundValue?
    minimum := (said .minimum).elim schema.minimum boundValue? }

/-- A rule has a value for what stands behind its mark. -/
def Reads : Rule → Text → Prop
  | .length, value => ∃ signed, Numeral.integer? value = some signed ∧
      signed.2.length ≤ Failure.digitLimit
  | .enum, _ => True
  | .maximum, value | .minimum, value => ∃ x, Numeral.float? value = some x

/-- An option is one of a rule but has no value for it; the form is the one asked for. -/
inductive Misspells (option : Text) : Rule → Text → Prop
  | length {value : Text} : option = mark .length ++ value → ¬Numeral.IsInteger value →
    Misspells option .length "len=1".toList
  | maximum {value : Text} : option = mark .maximum ++ value → Numeral.float? value = none →
    Misspells option .maximum "max=12".toList
  | minimum {value : Text} : option = mark .minimum ++ value → Numeral.float? value = none →
    Misspells option .minimum "min=1".toList

/-- Some rule of a chain finds an option misspelt. -/
def Rejects (rules : List Rule) (option form : Text) : Prop :=
  ∃ rule ∈ rules, Misspells option rule form

/-! ### The last option of each rule -/

theorem payloads_append (rule : Rule) (before after : List Text) :
    payloads rule (before ++ after) = payloads rule before ++ payloads rule after :=
  List.filterMap_append

theorem last?_append (rules : List Rule) (before after : List Text) (rule : Rule) :
    last? rules (before ++ after) rule = (last? rules after rule).or (last? rules before rule) := by
  unfold last?
  split
  · rw [payloads_append, List.getLast?_append]
  · rfl

theorem last?_cons (other : Rule) (rules : List Rule) (options : List Text) (rule : Rule) :
    last? (other :: rules) options rule =
      (last? rules options rule).or (last? [other] options rule) := by
  simp only [last?, List.mem_cons, List.not_mem_nil, or_false]
  by_cases hother : rule = other
  · subst hother
    by_cases hrule : rule ∈ rules <;> simp [hrule]
  · simp [hother]

theorem last?_congr {rules others : List Rule} {options : List Text}
    (same : ∀ rule, rule ∈ others ↔ rule ∈ rules) : last? others options = last? rules options := by
  funext rule
  simp only [last?, same]

theorem settle_settle (earlier later : Rule → Option Text) (schema : Schema) :
    settle later (settle earlier schema) =
      settle (fun rule => (later rule).or (earlier rule)) schema := by
  have helim : ∀ {α : Type} (s t : Option Text) (a : α) (f : Text → α),
      t.elim (s.elim a f) f = (t.or s).elim a f := by
    intro α s t a f
    cases t <;> rfl
  simp only [settle, helim]

theorem payloads_singleton (rule : Rule) (option : Text) :
    payloads rule [option] = (dropStart? rule.mark option).toList := by
  unfold payloads
  cases h : dropStart? rule.mark option <;> simp [h]

theorem last?_singleton (rule : Rule) (option : Text) :
    last? [rule] [option] = fun r => if r = rule then dropStart? rule.mark option else none := by
  funext r
  by_cases h : r = rule
  · subst h
    rw [last?, payloads_singleton]
    cases dropStart? r.mark option <;> simp
  · simp [last?, h]

theorem settle_none (schema : Schema) : settle (fun _ => none) schema = schema := by
  cases schema
  rfl

/-! ### Options that are accepted -/

theorem exactLength_eq_ok_iff {option value : Text} {n : Int} :
    exactLength option value = .ok n ↔ Reads .length value ∧ integerValue? value = some n := by
  unfold exactLength integerValue?
  cases hvalue : Numeral.integer? value with
  | none => simp
  | some signed =>
    have hreads : Reads .length value ↔ signed.2.length ≤ Failure.digitLimit := by
      simp only [Reads, hvalue, Option.some.injEq, exists_eq_left']
    rw [hreads]
    by_cases h : Failure.digitLimit < signed.2.length
    · simp [h, Nat.not_le.mpr h]
    · simp [h, Nat.not_lt.mp h]

theorem apply_eq_ok_iff {rule : Rule} {schema constrained : Schema} {option : Text} :
    rule.apply schema option = .ok constrained ↔
      (∀ value ∈ payloads rule [option], rule.Reads value) ∧
        constrained = settle (last? [rule] [option]) schema := by
  rw [payloads_singleton, last?_singleton, apply_eq_map_effect, map_eq_ok_iff]
  unfold effect
  cases dropStart? rule.mark option with
  | none => simp [settle_none, eq_comm]
  | some value =>
    simp only [Option.toList_some, List.forall_mem_singleton]
    cases rule with
    | enum =>
      simp [settle, Reads, eq_comm]
    | length =>
      simp only [map_eq_ok_iff, exactLength_eq_ok_iff]
      constructor
      · rintro ⟨_, ⟨n, ⟨hread, hn⟩, rfl⟩, rfl⟩
        exact ⟨hread, by simp [settle, hn]⟩
      · rintro ⟨hread, rfl⟩
        obtain ⟨signed, hsigned, -⟩ := id hread
        have hn : integerValue? value = some (Numeral.toInt signed.1 signed.2) := by
          rw [integerValue?, hsigned]
          rfl
        exact ⟨_, ⟨_, ⟨hread, hn⟩, rfl⟩, by simp [settle, hn]⟩
    | maximum | minimum =>
      simp only [map_eq_ok_iff, bound_eq_ok_iff]
      constructor
      · rintro ⟨_, ⟨b, ⟨x, hx, rfl⟩, rfl⟩, rfl⟩
        exact ⟨⟨x, hx⟩, by simp [settle, boundValue?, hx]⟩
      · rintro ⟨⟨x, hx⟩, rfl⟩
        exact ⟨_, ⟨_, ⟨x, hx, rfl⟩, rfl⟩, by simp [settle, boundValue?, hx]⟩

theorem foldlM_apply_eq_ok_iff {rules : List Rule} {schema constrained : Schema} {option : Text} :
    rules.foldlM (fun s rule => rule.apply s option) schema = .ok constrained ↔
      (∀ rule ∈ rules, ∀ value ∈ payloads rule [option], rule.Reads value) ∧
        constrained = settle (last? rules [option]) schema := by
  induction rules generalizing schema with
  | nil =>
    have hnone : last? [] [option] = fun _ => none := by
      funext rule
      simp [last?]
    simp [hnone, settle_none, eq_comm, pure, Except.pure]
  | cons rule rules ih =>
    have hsaid : last? (rule :: rules) [option] =
        fun r => (last? rules [option] r).or (last? [rule] [option] r) :=
      funext (last?_cons rule rules [option])
    rw [List.foldlM_cons, bind_eq_ok_iff, List.forall_mem_cons, hsaid, ← settle_settle]
    simp only [apply_eq_ok_iff, ih]
    constructor
    · rintro ⟨s, ⟨hrule, rfl⟩, hrules, rfl⟩
      exact ⟨⟨hrule, hrules⟩, rfl⟩
    · rintro ⟨⟨hrule, hrules⟩, rfl⟩
      exact ⟨_, ⟨hrule, rfl⟩, hrules, rfl⟩

theorem applyAll_eq_ok_iff {rules : List Rule} {schema constrained : Schema} {options : List Text} :
    applyAll rules schema options = .ok constrained ↔
      (∀ rule ∈ rules, ∀ value ∈ payloads rule options, rule.Reads value) ∧
        constrained = settle (last? rules options) schema := by
  unfold applyAll
  induction options generalizing schema with
  | nil =>
    have hnone : last? rules [] = fun _ => none := by
      funext rule
      simp [last?, payloads]
    simp [hnone, payloads, settle_none, eq_comm, pure, Except.pure]
  | cons option options ih =>
    have hsaid : last? rules (option :: options) =
        fun r => (last? rules options r).or (last? rules [option] r) :=
      funext (last?_append rules [option] options)
    have hpayloads : ∀ rule : Rule, payloads rule (option :: options) =
        payloads rule [option] ++ payloads rule options :=
      fun rule => payloads_append rule [option] options
    rw [List.foldlM_cons, bind_eq_ok_iff, hsaid, ← settle_settle]
    simp only [foldlM_apply_eq_ok_iff, ih, hpayloads, List.forall_mem_append]
    constructor
    · rintro ⟨s, ⟨hoption, rfl⟩, hrest, rfl⟩
      exact ⟨fun rule hrule => ⟨hoption rule hrule, hrest rule hrule⟩, rfl⟩
    · rintro ⟨h, rfl⟩
      exact ⟨_, ⟨fun rule hrule => (h rule hrule).1, rfl⟩, fun rule hrule => (h rule hrule).2, rfl⟩

/-! ### Options that are rejected -/

theorem Misspells.eq_mark_append {option form : Text} {rule : Rule}
    (h : Misspells option rule form) : ∃ value, option = rule.mark ++ value := by
  cases h with
  | length hoption | maximum hoption | minimum hoption => exact ⟨_, hoption⟩

/-- An option is misspelt in one way only, for it is one of no other rule. -/
theorem Rejects.form_unique {rules : List Rule} {option form other : Text}
    (h : Rejects rules option form) (h' : Rejects rules option other) : form = other := by
  obtain ⟨rule, -, h⟩ := h
  obtain ⟨rule', -, h'⟩ := h'
  obtain ⟨value, hvalue⟩ := h.eq_mark_append
  obtain ⟨value', hvalue'⟩ := h'.eq_mark_append
  have hrule : rule = rule' := by
    refine Classical.byContradiction fun hne => ?_
    have hnone := dropStart?_mark_of_ne hne value'
    rw [← hvalue', dropStart?_eq_some_iff.mpr hvalue] at hnone
    exact Option.some_ne_none _ hnone
  subst hrule
  cases h <;> cases h' <;> rfl

theorem exactLength_eq_error_iff {option value : Text} {failure : Failure}
    (short : ∀ digits, ¬IsOverlong (mark .length ++ value) digits) :
    exactLength option value = .error failure ↔
      ¬Numeral.IsInteger value ∧ failure = .schema (.constraint option "len=1".toList) := by
  rw [← Numeral.integer?_eq_none_iff]
  unfold exactLength
  cases hvalue : Numeral.integer? value with
  | none => simp [eq_comm]
  | some signed =>
    have hlimit : ¬Failure.digitLimit < signed.2.length := fun hlimit =>
      short _ ⟨value, signed.1, signed.2, rfl, hvalue, rfl, hlimit⟩
    simp [hlimit]

section

variable {option : Text} (short : ∀ digits, ¬IsOverlong option digits)
include short

theorem effect_eq_error_iff {rule : Rule} {failure : Failure} :
    rule.effect option = .error failure ↔
      ∃ form, Misspells option rule form ∧ failure = .schema (.constraint option form) := by
  unfold effect
  constructor
  · intro h
    split at h
    · cases h
    · next value hvalue =>
      have hoption := dropStart?_eq_some_iff.mp hvalue
      cases rule with
      | enum => cases h
      | length =>
        rw [hoption] at short
        obtain ⟨hinteger, rfl⟩ := (exactLength_eq_error_iff short).mp (map_eq_error_iff.mp h)
        exact ⟨_, .length hoption hinteger, rfl⟩
      | maximum =>
        obtain ⟨hnone, rfl⟩ := bound_eq_error_iff.mp (map_eq_error_iff.mp h)
        exact ⟨_, .maximum hoption hnone, rfl⟩
      | minimum =>
        obtain ⟨hnone, rfl⟩ := bound_eq_error_iff.mp (map_eq_error_iff.mp h)
        exact ⟨_, .minimum hoption hnone, rfl⟩
  · rintro ⟨form, h, rfl⟩
    cases h with
    | length hoption hinteger =>
      rw [dropStart?_eq_some_iff.mpr hoption]
      rw [hoption] at short
      exact map_eq_error_iff.mpr ((exactLength_eq_error_iff short).mpr ⟨hinteger, rfl⟩)
    | maximum hoption hnone | minimum hoption hnone =>
      rw [dropStart?_eq_some_iff.mpr hoption]
      exact map_eq_error_iff.mpr (bound_eq_error_iff.mpr ⟨hnone, rfl⟩)

theorem accepts_iff {rules : List Rule} :
    Accepts rules option ↔ ∀ form, ¬Rejects rules option form := by
  constructor
  · rintro h form ⟨rule, hrule, hform⟩
    obtain ⟨change, hchange⟩ := h rule hrule
    rw [(effect_eq_error_iff short).mpr ⟨form, hform, rfl⟩] at hchange
    cases hchange
  · intro h rule hrule
    refine exists_ok_of_ne_error fun failure hfailure => ?_
    obtain ⟨form, hform, -⟩ := (effect_eq_error_iff short).mp hfailure
    exact h form ⟨rule, hrule, hform⟩

theorem mapM_effect_eq_error_iff {rules : List Rule} {failure : Failure} :
    (rules.mapM fun rule => rule.effect option) = .error failure ↔
      ∃ form, Rejects rules option form ∧ failure = .schema (.constraint option form) := by
  have hform : ∀ {failure}, (rules.mapM fun rule => rule.effect option) = .error failure →
      ∃ form, Rejects rules option form ∧ failure = .schema (.constraint option form) := by
    intro failure h
    obtain ⟨before, rule, after, rfl, -, hrule⟩ := mapM_eq_error_iff.mp h
    obtain ⟨form, hform, rfl⟩ := (effect_eq_error_iff short).mp hrule
    exact ⟨form, ⟨rule, by simp, hform⟩, rfl⟩
  refine ⟨hform, ?_⟩
  rintro ⟨form, hrejects, rfl⟩
  cases hresult : rules.mapM fun rule => rule.effect option with
  | ok changes =>
    have haccepts := exists_mapM_effect_iff.mp ⟨changes, hresult⟩
    exact absurd hrejects ((accepts_iff short).mp haccepts form)
  | error failure =>
    obtain ⟨other, hother, rfl⟩ := hform hresult
    rw [hrejects.form_unique hother]

end

/-- The first option that a chain rejects, and the form that it asks for there. -/
def FirstRejected (rules : List Rule) (options : List Text) (option form : Text) : Prop :=
  ∃ before after, options = before ++ option :: after ∧
    (∀ o ∈ before, ∀ f, ¬Rejects rules o f) ∧ Rejects rules option form

theorem applyAll_eq_error_iff {rules : List Rule} {schema : Schema} {options : List Text}
    (short : ∀ option ∈ options, ∀ digits, ¬IsOverlong option digits) {failure : Failure} :
    applyAll rules schema options = .error failure ↔ ∃ option form,
      FirstRejected rules options option form ∧ failure = .schema (.constraint option form) := by
  rw [applyAll_eq_map_effects, map_eq_error_iff, effects, mapM_eq_error_iff]
  simp only [exists_mapM_effect_iff]
  constructor
  · rintro ⟨before, option, after, rfl, hbefore, h⟩
    obtain ⟨hshort, hrest⟩ := List.forall_mem_append.mp short
    have hoption := (List.forall_mem_cons.mp hrest).1
    obtain ⟨form, hform, rfl⟩ := (mapM_effect_eq_error_iff hoption).mp h
    have hnone : ∀ o ∈ before, ∀ f, ¬Rejects rules o f :=
      fun o ho => (accepts_iff (hshort o ho)).mp (hbefore o ho)
    exact ⟨option, form, ⟨before, after, rfl, hnone, hform⟩, rfl⟩
  · rintro ⟨option, form, ⟨before, after, rfl, hbefore, hform⟩, rfl⟩
    obtain ⟨hshort, hrest⟩ := List.forall_mem_append.mp short
    have hoption := (List.forall_mem_cons.mp hrest).1
    refine ⟨before, option, after, rfl, fun o ho => ?_, ?_⟩
    · exact (accepts_iff (hshort o ho)).mpr (hbefore o ho)
    · exact (mapM_effect_eq_error_iff hoption).mpr ⟨form, hform, rfl⟩

theorem applyAll_of_not_rejects {rules : List Rule} {options : List Text}
    (short : ∀ option ∈ options, ∀ digits, ¬IsOverlong option digits)
    (h : ∀ option ∈ options, ∀ form, ¬Rejects rules option form) (schema : Schema) :
    applyAll rules schema options = .ok (settle (last? rules options) schema) := by
  have hok : ∃ constrained, applyAll rules schema options = .ok constrained := by
    refine exists_ok_of_ne_error fun failure hfailure => ?_
    obtain ⟨option, form, ⟨before, after, rfl, -, hform⟩, -⟩ :=
      (applyAll_eq_error_iff short).mp hfailure
    exact h option (by simp) form hform
  obtain ⟨constrained, hconstrained⟩ := hok
  rw [hconstrained, (applyAll_eq_ok_iff.mp hconstrained).2]

/-- Only options of many characters can have too many digits. -/
theorem not_isOverlong {option : Text} (h : option.length ≤ Failure.digitLimit) (digits : Nat) :
    ¬IsOverlong option digits := by
  rintro ⟨value, negative, ds, rfl, hvalue, rfl, hlimit⟩
  have hdigits := Numeral.length_le_of_integer? hvalue
  rw [List.length_append] at h
  omega

/-! ### What does not matter -/

/-- The order of a chain and the repetitions in it make no difference, not even to the failure. -/
theorem applyAll_congr_rules {rules others : List Rule} {options : List Text}
    (short : ∀ option ∈ options, ∀ digits, ¬IsOverlong option digits)
    (same : ∀ rule, rule ∈ others ↔ rule ∈ rules) (schema : Schema) :
    applyAll others schema options = applyAll rules schema options := by
  have hrejects : ∀ option form, Rejects others option form ↔ Rejects rules option form := by
    intro option form
    simp only [Rejects, same]
  cases h : applyAll rules schema options with
  | ok constrained =>
    rw [applyAll_eq_ok_iff] at h ⊢
    rw [last?_congr same]
    exact ⟨fun rule hrule => h.1 rule ((same rule).mp hrule), h.2⟩
  | error failure =>
    rw [applyAll_eq_error_iff short] at h ⊢
    simpa only [FirstRejected, hrejects] using h

/-- Options for different rules can change places, and options for no rule of the chain be left
out. -/
theorem applyAll_congr_payloads {rules : List Rule} {options others : List Text}
    (same : ∀ rule ∈ rules, payloads rule others = payloads rule options)
    {schema constrained : Schema} :
    applyAll rules schema others = .ok constrained ↔
      applyAll rules schema options = .ok constrained := by
  have hlast : last? rules others = last? rules options := by
    funext rule
    unfold last?
    split
    · next hrule => rw [same rule hrule]
    · rfl
  rw [applyAll_eq_ok_iff, applyAll_eq_ok_iff, hlast]
  refine and_congr_left fun _ => forall₂_congr fun rule hrule => ?_
  rw [same rule hrule]

theorem applyAll_twice (rules : List Rule) (schema : Schema) (options : List Text) :
    (applyAll rules schema options >>= fun s => applyAll rules s options) =
      applyAll rules schema options := by
  cases h : applyAll rules schema options with
  | error failure => rfl
  | ok constrained =>
    obtain ⟨hreads, rfl⟩ := applyAll_eq_ok_iff.mp h
    refine applyAll_eq_ok_iff.mpr ⟨hreads, ?_⟩
    simp only [settle_settle, Option.or_self]

/-- A chain of rules, in any order and with any repetitions, is decided by the last option for each
of its rules. It fails with the first option that is misspelt for one of them; otherwise the last
options are what the schema gets, and it keeps everything else. -/
theorem applyAll_by_last (rules : List Rule) (schema : Schema) (options : List Text)
    (short : ∀ option ∈ options, ∀ digits, ¬IsOverlong option digits) :
    (∀ failure, applyAll rules schema options = .error failure ↔ ∃ option form,
      FirstRejected rules options option form ∧ failure = .schema (.constraint option form)) ∧
    ((∀ option ∈ options, ∀ form, ¬Rejects rules option form) →
      applyAll rules schema options = .ok (settle (last? rules options) schema)) ∧
    (∀ others : List Rule, (∀ rule, rule ∈ others ↔ rule ∈ rules) →
      applyAll others schema options = applyAll rules schema options) ∧
    (∀ others : List Text, (∀ rule ∈ rules, payloads rule others = payloads rule options) →
      ∀ constrained, applyAll rules schema others = .ok constrained ↔
        applyAll rules schema options = .ok constrained) ∧
    (applyAll rules schema options >>= fun s => applyAll rules s options) =
      applyAll rules schema options :=
  ⟨fun _ => applyAll_eq_error_iff short, fun h => applyAll_of_not_rejects short h schema,
    fun _ same => applyAll_congr_rules short same schema,
    fun _ same _ => applyAll_congr_payloads same, applyAll_twice rules schema options⟩

theorem applyAll_maximum :
    applyAll [.maximum, .enum, .maximum] .object ["max=1".toList, "len=a".toList, "max= 2".toList] =
      .ok { Schema.object with maximum := some (.real (.ofDecimal false 2 0)) } ∧
    applyAll [.maximum, .length] .object ["max=1".toList, "len=a".toList, "max=b".toList] =
      .error (.schema (.constraint "len=a".toList "len=1".toList)) := by
  have short : ∀ options : List Text, (∀ option ∈ options, option.length ≤ 6) →
      ∀ option ∈ options, ∀ digits, ¬IsOverlong option digits :=
    fun _ h option hoption => not_isOverlong (Nat.le_trans (h option hoption) (by decide))
  have last := short ["max=1".toList, "len=a".toList, "max= 2".toList] (by decide)
  have fault := short ["max=1".toList, "len=a".toList, "max=b".toList] (by decide)
  have accepts : ∀ option ∈ ["max=1".toList, "len=a".toList, "max= 2".toList],
      Accepts [.maximum, .enum, .maximum] option := by
    simp only [Accepts, List.forall_mem_cons]
    exact ⟨⟨⟨_, rfl⟩, ⟨_, rfl⟩, ⟨_, rfl⟩, List.forall_mem_nil _⟩, ⟨⟨_, rfl⟩, ⟨_, rfl⟩, ⟨_, rfl⟩,
      List.forall_mem_nil _⟩, ⟨⟨_, rfl⟩, ⟨_, rfl⟩, ⟨_, rfl⟩, List.forall_mem_nil _⟩,
      List.forall_mem_nil _⟩
  have first : FirstRejected [.maximum, .length] ["max=1".toList, "len=a".toList, "max=b".toList]
      "len=a".toList "len=1".toList := by
    have accepts : Accepts [.maximum, .length] "max=1".toList := by
      simp only [Accepts, List.forall_mem_cons]
      exact ⟨⟨_, rfl⟩, ⟨_, rfl⟩, List.forall_mem_nil _⟩
    refine ⟨["max=1".toList], ["max=b".toList], rfl, List.forall_mem_singleton.mpr ?_,
      .length, by decide, .length rfl (Numeral.integer?_eq_none_iff.mp (by decide))⟩
    exact (accepts_iff (fault _ List.mem_cons_self)).mp accepts
  constructor
  · exact (applyAll_by_last _ .object _ last).2.1 fun option hoption =>
      (accepts_iff (last option hoption)).mp (accepts option hoption)
  · exact ((applyAll_by_last _ .object _ fault).1 _).mpr ⟨_, _, first, rfl⟩

end RouteDoc.Rule
