import Mathlib.Data.List.Perm.Basic
import RouteDoc.Proofs.Number.Numeral
import RouteDoc.Proofs.Schema.Rule
import RouteDoc.Proofs.Tag.Constraint

/-! Constraints as authors write them. Each option is that of one rule, and whatever else is in the
chain, the schema gets what was written. -/

namespace RouteDoc

open Text

/-- A constraint in a `validate` tag. A bound is a text, with the number that it names. -/
inductive Constraint where
  | length (n : Int)
  | enum (values : List Text)
  | maximum (text : Text) (value : Binary64)
  | minimum (text : Text) (value : Binary64)

namespace Constraint

def rule : Constraint → Rule
  | .length _ => .length
  | .enum _ => .enum
  | .maximum _ _ => .maximum
  | .minimum _ _ => .minimum

/-- What stands behind the mark of the rule. -/
def payload : Constraint → Text
  | .length n => ofInt n
  | .enum values => join [','] values
  | .maximum text _ | .minimum text _ => text

def option (c : Constraint) : Text := c.rule.mark ++ c.payload

/-- A length has no more digits than are read, values have neither the comma between them nor the
sign of an option, and the text of a bound is that of its number. -/
def IsWritable : Constraint → Prop
  | .length n => (ofNat n.natAbs).length ≤ Failure.digitLimit
  | .enum values => values ≠ [] ∧ ∀ value ∈ values, ',' ∉ value ∧ '=' ∉ value
  | .maximum text value | .minimum text value => ',' ∉ text ∧ Numeral.float? text = some value

/-- A schema with a constraint in place of one of its kind. -/
def set : Constraint → Schema → Schema
  | .length n, schema => { schema with length := some n }
  | .enum values, schema => { schema with enum := values }
  | .maximum _ value, schema => { schema with maximum := some (.real value) }
  | .minimum _ value, schema => { schema with minimum := some (.real value) }

/-- A schema with constraints, the last of each kind. -/
def setAll (constraints : List Constraint) (schema : Schema) : Schema :=
  constraints.foldl (fun s c => c.set s) schema

theorem set_set (c : Constraint) (schema : Schema) : c.set (c.set schema) = c.set schema := by
  cases c <;> rfl

theorem splitOn_values {values : List Text} (hne : values ≠ [])
    (h : ∀ value ∈ values, ',' ∉ value) : splitOn ',' (join [','] values) = values := by
  obtain ⟨value, values, rfl⟩ := List.exists_cons_of_ne_nil hne
  exact splitOn_join h

/-! ### The chain of rules -/

theorem effect_option {c : Constraint} (h : c.IsWritable) : c.rule.effect c.option = .ok c.set := by
  have hvalue : dropStart? c.rule.mark c.option = some c.payload :=
    dropStart?_eq_some_iff.mpr rfl
  rw [Rule.effect, hvalue]
  cases c with
  | length n =>
    have hlength : Rule.exactLength (option (.length n)) (ofInt n) = .ok n := by
      have hsmall : ¬Failure.digitLimit < (ofNat n.natAbs).length := Nat.not_lt.mpr h
      simp only [Rule.exactLength, Numeral.integer?_ofInt, List.length_map, hsmall, if_false,
        Numeral.toInt_ofNat]
    simp only [rule, payload, hlength]
    rfl
  | enum values =>
    have hvalues := splitOn_values h.1 fun value hmem => (h.2 value hmem).1
    simp only [rule, payload, hvalues]
    rfl
  | maximum text value | minimum text value =>
    simp only [rule, payload, Rule.bound, h.2]
    rfl

/-- A chain makes of an option what its rule does, however often the rule is in it. -/
theorem foldlM_apply_option {c : Constraint} (h : c.IsWritable) (rules : List Rule)
    (schema : Schema) : rules.foldlM (fun s rule => rule.apply s c.option) schema =
      .ok (if c.rule ∈ rules then c.set schema else schema) := by
  induction rules generalizing schema with
  | nil => rfl
  | cons rule rules ih =>
    rw [List.foldlM_cons, Rule.apply_eq_map_effect]
    by_cases hrule : rule = c.rule
    · subst hrule
      rw [effect_option h]
      refine (ih (c.set schema)).trans ?_
      simp [set_set]
    · rw [option, Rule.effect_of_ne hrule]
      refine (ih schema).trans ?_
      simp [Ne.symm hrule]

theorem applyAll_options {rules : List Rule} (complete : ∀ rule, rule ∈ rules)
    {constraints : List Constraint} (h : ∀ c ∈ constraints, c.IsWritable) (schema : Schema) :
    Rule.applyAll rules schema (constraints.map option) = .ok (setAll constraints schema) := by
  induction constraints generalizing schema with
  | nil => rfl
  | cons c constraints ih =>
    obtain ⟨hc, hrest⟩ := List.forall_mem_cons.mp h
    rw [List.map_cons, Rule.applyAll, List.foldlM_cons, foldlM_apply_option hc,
      if_pos (complete c.rule)]
    exact ih hrest _

/-- One constraint of each kind makes the same schema in every order. -/
theorem setAll_of_perm {constraints : List Constraint} {n : Int} {values : List Text} {a b : Text}
    {x y : Binary64}
    (perm : constraints.Perm [.enum values, .length n, .maximum a x, .minimum b y])
    (schema : Schema) : setAll constraints schema = { schema with
      enum := values, length := some n, maximum := some (.real x), minimum := some (.real y) } := by
  have comm : ∀ c ∈ constraints, ∀ d ∈ constraints, ∀ s, d.set (c.set s) = c.set (d.set s) := by
    intro c hc d hd s
    have hc := perm.mem_iff.mp hc
    have hd := perm.mem_iff.mp hd
    simp only [List.mem_cons, List.not_mem_nil, or_false] at hc hd
    rcases hc with rfl | rfl | rfl | rfl <;> rcases hd with rfl | rfl | rfl | rfl <;> rfl
  exact perm.foldl_eq' comm schema

/-! ### The text of a tag -/

theorem mem_mark (rule : Rule) : '=' ∈ rule.mark ∧ ',' ∉ rule.mark := by
  cases rule <;> decide

theorem comma_not_mem_ofInt (n : Int) : ',' ∉ ofInt n := by
  have hdigits : ∀ m, ',' ∉ ofNat m := fun m h => nomatch Numeral.isDigit_of_mem_ofNat h
  cases n with
  | ofNat n => exact hdigits n
  | negSucc n => exact List.not_mem_cons_of_ne_of_not_mem (by decide) (hdigits (n + 1))

theorem isOption_of_comma_not_mem {c : Constraint} (h : ',' ∉ c.payload) :
    Tag.IsOption c.option := by
  obtain ⟨hequals, hcomma⟩ := mem_mark c.rule
  have hoption : ',' ∉ c.option := fun hmem => (List.mem_append.mp hmem).elim hcomma h
  exact ⟨c.option, [], splitOn_of_not_mem hoption, List.mem_append_left _ hequals,
    List.forall_mem_nil _, fun hne => absurd rfl hne⟩

/-- Only the values after the first are cut off an option, and they have no equals sign. -/
theorem isOption_of_isWritable {c : Constraint} (h : c.IsWritable) : Tag.IsOption c.option := by
  cases c with
  | length n => exact isOption_of_comma_not_mem (comma_not_mem_ofInt n)
  | maximum text value => exact isOption_of_comma_not_mem h.1
  | minimum text value => exact isOption_of_comma_not_mem h.1
  | enum values =>
    obtain ⟨value, values, rfl⟩ := List.exists_cons_of_ne_nil h.1
    obtain ⟨hvalue, hvalues⟩ := List.forall_mem_cons.mp h.2
    obtain ⟨hequals, hcomma⟩ := mem_mark .enum
    have hoption : option (.enum (value :: values)) =
        join [','] ((Rule.mark .enum ++ value) :: values) := (join_append_head ..).symm
    refine ⟨Rule.mark .enum ++ value, values, ?_, List.mem_append_left _ hequals,
      fun v hv => (hvalues v hv).2, fun _ => startsWith_iff.mpr (List.prefix_append _ _)⟩
    rw [hoption]
    refine splitOn_join (List.forall_mem_cons.mpr ⟨fun hmem => ?_, fun v hv => (hvalues v hv).1⟩)
    exact (List.mem_append.mp hmem).elim hcomma hvalue.1

end Constraint

end RouteDoc
