import Mathlib.Data.List.Induction
import RouteDoc.Proofs.Entries
import RouteDoc.Schema.Synthesis

/-! The shares of fields: what one field gives to the object of its model, apart from the other
fields, and the object that a list of shares makes. -/

namespace RouteDoc

/-- What a field gives to the object of its model: a property, or the schema of a model that it
embeds. -/
inductive Share where
  | property (name : Text) (isRequired : Bool) (schema : Schema)
  | embedded (schema : Schema)

namespace Share

/-- An object with a share added. -/
def addTo (object : Schema) : Share → Schema
  | .property name isRequired schema => Schema.putProperty name isRequired schema object
  | .embedded schema => Schema.embed schema object

/-- The object that shares make, in order. -/
def collect (shares : List Share) : Schema := shares.foldl addTo Schema.object

/-- The schema that a share has for a name as a property of its own. -/
def own? (name : Text) : Share → Option Schema
  | .property n _ schema => if n = name then some schema else none
  | .embedded _ => none

/-- The schema that a share has for a name in the model it embeds. -/
def embedded? (name : Text) : Share → Option Schema
  | .property .. => none
  | .embedded schema => Entries.get? name schema.properties

/-- The names of the properties that a share gives. -/
def names : Share → List Text
  | .property name _ _ => [name]
  | .embedded schema => Entries.keys schema.properties

/-- The names that a share requires. -/
def required : Share → List Text
  | .property name isRequired _ => if isRequired then [name] else []
  | .embedded schema => schema.required

theorem get?_addTo (name : Text) (object : Schema) (share : Share) :
    Entries.get? name (share.addTo object).properties =
      ((share.own? name).or (Entries.get? name object.properties)).or (share.embedded? name) := by
  cases share with
  | property n isRequired schema =>
    simp only [addTo, Schema.putProperty, Entries.get?_put, own?, embedded?, Option.or_none]
    by_cases h : n = name <;> simp [h]
  | embedded schema =>
    simp only [addTo, Schema.embed, own?, embedded?, Option.none_or]
    exact Entries.get?_foldl_putNew name schema.properties object.properties

theorem keys_addTo (object : Schema) (share : Share) :
    Entries.keys (share.addTo object).properties =
      share.names.foldl (fun acc name => addNew name acc) (Entries.keys object.properties) := by
  cases share with
  | property n isRequired schema => exact Entries.keys_put n schema object.properties
  | embedded schema => exact Entries.keys_foldl_putNew schema.properties object.properties

theorem required_addTo (object : Schema) (share : Share) :
    (share.addTo object).required =
      share.required.foldl (fun acc name => addNew name acc) object.required := by
  cases share with
  | property n isRequired schema => cases isRequired <;> rfl
  | embedded schema => rfl

/-- Shares change an object in its properties and required names only. -/
theorem addTo_eq (object : Schema) (share : Share) :
    share.addTo object = { object with
      properties := (share.addTo object).properties
      required := (share.addTo object).required } := by
  cases share <;> rfl

theorem collect_append (shares : List Share) (share : Share) :
    collect (shares ++ [share]) = share.addTo (collect shares) := by
  simp [collect, List.foldl_append]

/-- Under a name stands the last property of a field's own, or else the first that is embedded. -/
theorem get?_collect (name : Text) (shares : List Share) :
    Entries.get? name (collect shares).properties =
      (shares.reverse.findSome? (own? name)).or (shares.findSome? (embedded? name)) := by
  induction shares using List.reverseRecOn with
  | nil => rfl
  | append_singleton shares share ih =>
    rw [collect_append, get?_addTo, ih]
    simp only [List.reverse_append, List.reverse_singleton, List.findSome?_append,
      findSome?_cons_or, List.findSome?_nil, Option.or_none, Option.or_assoc]

/-- The properties stand in the order in which fields first mention them. -/
theorem keys_collect (shares : List Share) :
    Entries.keys (collect shares).properties = (shares.flatMap names).eraseDups := by
  rw [← foldl_addNew_nil]
  induction shares using List.reverseRecOn with
  | nil => rfl
  | append_singleton shares share ih =>
    rw [collect_append, keys_addTo, ih, List.flatMap_append, List.foldl_append]
    simp

/-- The required names stand in the order in which fields first ask for them. -/
theorem required_collect (shares : List Share) :
    (collect shares).required = (shares.flatMap required).eraseDups := by
  rw [← foldl_addNew_nil]
  induction shares using List.reverseRecOn with
  | nil => rfl
  | append_singleton shares share ih =>
    rw [collect_append, required_addTo, ih, List.flatMap_append, List.foldl_append]
    simp

/-- A field takes the place of an embedded property, which stays required. -/
example : collect [
    .embedded {
      type := .object, properties := [(['n'], { type := .integer })], required := [['n']] },
    .property ['n'] false { type := .string }] =
      { type := .object, properties := [(['n'], { type := .string })], required := [['n']] } := rfl

theorem collect_eq (shares : List Share) :
    collect shares = { Schema.object with
      properties := (collect shares).properties
      required := (collect shares).required } := by
  induction shares using List.reverseRecOn with
  | nil => rfl
  | append_singleton shares share ih =>
    rw [collect_append, addTo_eq]
    rw [ih]

theorem own?_eq_none {name : Text} {share : Share} (h : name ∉ share.names) :
    share.own? name = none := by
  cases share with
  | property n isRequired schema => exact if_neg fun hn => h (List.mem_singleton.mpr hn.symm)
  | embedded schema => rfl

theorem embedded?_eq_none {name : Text} {share : Share} (h : name ∉ share.names) :
    share.embedded? name = none := by
  cases share with
  | property n isRequired schema => rfl
  | embedded schema => exact Option.not_isSome_iff_eq_none.mp (Entries.has_eq_true_iff.not.mpr h)

theorem findSome?_own?_eq_none {name : Text} {shares : List Share}
    (h : ∀ share ∈ shares, name ∉ share.names) : shares.reverse.findSome? (own? name) = none :=
  List.findSome?_eq_none_iff.mpr fun share hmem => own?_eq_none (h share (List.mem_reverse.mp hmem))

theorem findSome?_embedded?_eq_none {name : Text} {shares : List Share}
    (h : ∀ share ∈ shares, name ∉ share.names) : shares.findSome? (embedded? name) = none :=
  List.findSome?_eq_none_iff.mpr fun share hmem => embedded?_eq_none (h share hmem)

/-- The object of shares is known from the names they give and require, and the schema that it has
under each name. -/
theorem collect_congr {shares others : List Share}
    (hnames : (shares.flatMap names).eraseDups = (others.flatMap names).eraseDups)
    (hrequired : (shares.flatMap required).eraseDups = (others.flatMap required).eraseDups)
    (h : ∀ name, Entries.get? name (collect shares).properties =
      Entries.get? name (collect others).properties) : collect shares = collect others := by
  have hproperties : (collect shares).properties = (collect others).properties := by
    refine Entries.eq_of_get? ?_ ?_ h
    · rw [keys_collect]
      exact nodup_eraseDups _
    · rw [keys_collect, keys_collect, hnames]
  rw [collect_eq shares, collect_eq others, hproperties, required_collect, required_collect,
    hrequired]

/-- Shares that nothing else shares a name with make the same object whether they stand by
themselves or are collected first and embedded. -/
theorem collect_embedded {before inner after : List Share}
    (apart : ∀ name ∈ Entries.keys (collect inner).properties, ∀ share ∈ before ++ after,
      name ∉ share.names) :
    collect (before ++ .embedded (collect inner) :: after) =
      collect (before ++ inner ++ after) := by
  refine collect_congr ?_ ?_ fun name => ?_
  · simp only [List.flatMap_append, List.flatMap_cons, names, keys_collect, ← List.append_assoc]
    exact eraseDups_append_eraseDups_append _ _ _
  · simp only [List.flatMap_append, List.flatMap_cons, required, required_collect,
      ← List.append_assoc]
    exact eraseDups_append_eraseDups_append _ _ _
  -- Under a name that the inner shares give stands what these make of it, under any other what the
  -- outer ones do.
  by_cases h : name ∈ Entries.keys (collect inner).properties
  · obtain ⟨hbefore, hafter⟩ := List.forall_mem_append.mp (apart name h)
    simp only [get?_collect, List.reverse_append, List.reverse_cons, List.findSome?_append,
      findSome?_cons_or, List.findSome?_nil, findSome?_own?_eq_none hbefore,
      findSome?_own?_eq_none hafter, findSome?_embedded?_eq_none hbefore,
      findSome?_embedded?_eq_none hafter, own?, embedded?,
      Option.none_or, Option.or_none]
  · have hinner : ∀ share ∈ inner, name ∉ share.names := fun share hmem hname => by
      rw [keys_collect, List.mem_eraseDups, List.mem_flatMap] at h
      exact h ⟨share, hmem, hname⟩
    have hembedded : embedded? name (.embedded (collect inner)) = none := embedded?_eq_none h
    simp only [get?_collect, List.reverse_append, List.reverse_cons, List.findSome?_append,
      findSome?_cons_or, List.findSome?_nil, findSome?_own?_eq_none hinner,
      findSome?_embedded?_eq_none hinner, hembedded, own?,
      Option.none_or, Option.or_none]

end Share

end RouteDoc
