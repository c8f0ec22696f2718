import RouteDoc.Proofs.Json.Encoding
import RouteDoc.Proofs.Parameter.Lookup
import RouteDoc.Proofs.Schema.Constraint
import RouteDoc.Proofs.Tag.Reader

/-! From the text of a tag to schemas and parameters: constraints that are added to the tag of a
field are added to its schema, in bodies and in requests, and change nothing else. -/

namespace RouteDoc

open Text

/-- A field with options added to its `validate` tag, which has no options without them. The tag is
a pair of the text of the field, in any place where no pair before it has its key. -/
inductive Field.Adds (options : List Text) : Field → Field → Prop
  | intro {name : Text} {type : TypeExpr} {front back : List Tag.Written}
    {bare pair : Tag.Written} {first : Text} {trailing : Nat} :
    (∀ p ∈ front, p.key ≠ Tag.Key.validate) → ',' ∉ first →
    bare.key = Tag.Key.validate → bare.value = first →
    pair.key = Tag.Key.validate → pair.value = join [','] (first :: options) →
    Adds options ⟨name, type, Tag.Written.textOf (front ++ bare :: back) trailing⟩
      ⟨name, type, Tag.Written.textOf (front ++ pair :: back) trailing⟩

namespace FieldTags

theorem ofField_textOf (name : Text) (type : TypeExpr) (pairs : List Tag.Written)
    (trailing : Nat) :
    ofField ⟨name, type, Tag.Written.textOf pairs trailing⟩ = .ok (pairs.map Tag.Written.tag) := by
  rw [ofField, Tag.Written.parse_textOf]

theorem sameNames_of_options (front back : FieldTags) (key name : Text)
    (options others : List Text) :
    SameNames (front ++ ⟨key, name, options⟩ :: back) (front ++ ⟨key, name, others⟩ :: back) := by
  intro k _
  simp only [name?, get?, List.find?_append, List.find?_cons]
  cases front.find? fun tag => tag.key = k with
  | some tag => rfl
  | none => by_cases h : key = k <;> simp [h]

end FieldTags

/-- What the tags of a field and of the field without constraints have in common. -/
theorem Field.Adds.tags {constraints : List Constraint} {bare field : Field}
    (adds : Field.Adds (constraints.map Constraint.option) bare field)
    (writable : ∀ c ∈ constraints, c.IsWritable) :
    field.type = bare.type ∧ ∃ plain tags, FieldTags.ofField bare = .ok plain ∧
      FieldTags.ofField field = .ok tags ∧ plain.SameNames tags ∧ plain.constraints = [] ∧
      tags.constraints = constraints.map Constraint.option := by
  obtain @⟨name, type, front, back, bare, pair, first, trailing, hfront, hfirst, hbare, hbvalue,
    hpair, hpvalue⟩ := adds
  have hbtag : bare.tag = ⟨Tag.Key.validate, first, []⟩ := by
    have hvalue : bare.value = join [','] [first] := by simp [hbvalue, join]
    rw [Tag.Written.tag, hbare, hvalue, Tag.ofValue_join hfirst]
    rfl
  have hptag : pair.tag = ⟨Tag.Key.validate, first,
      (constraints.map Constraint.option).flatMap (splitOn ',')⟩ := by
    rw [Tag.Written.tag, hpair, hpvalue, Tag.ofValue_join hfirst]
  have hfronttags : ∀ t ∈ front.map Tag.Written.tag, t.key ≠ Tag.Key.validate := by
    intro t ht
    obtain ⟨p, hp, rfl⟩ := List.mem_map.mp ht
    exact hfront p hp
  refine ⟨rfl, _, _, FieldTags.ofField_textOf .., FieldTags.ofField_textOf .., ?_, ?_, ?_⟩
  · rw [List.map_append, List.map_append, List.map_cons, List.map_cons, hbtag, hptag]
    exact FieldTags.sameNames_of_options _ _ _ _ _ _
  · rw [List.map_append, List.map_cons, hbtag, FieldTags.constraints,
      @FieldTags.get?_of_not_mem _ ⟨Tag.Key.validate, first, []⟩ hfronttags]
    rfl
  · rw [List.map_append, List.map_cons, hptag, FieldTags.constraints,
      @FieldTags.get?_of_not_mem _ ⟨Tag.Key.validate, first, _⟩ hfronttags]
    refine Tag.regroup_flatMap_splitOn fun option hmem => ?_
    obtain ⟨c, hc, rfl⟩ := List.mem_map.mp hmem
    exact Constraint.isOption_of_isWritable (writable c hc)

namespace Constraint

theorem setAll_annotate (constraints : List Constraint) (tags : FieldTags) (schema : Schema) :
    tags.annotate (setAll constraints schema) = setAll constraints (tags.annotate schema) := by
  induction constraints generalizing schema with
  | nil => rfl
  | cons c constraints ih =>
    have hset : tags.annotate (c.set schema) = c.set (tags.annotate schema) := by cases c <;> rfl
    rw [setAll, List.foldl_cons, ← setAll, ih, hset]
    rfl

end Constraint

namespace Field.Adds

variable {catalog : Catalog} {rules : List Rule} {constraints : List Constraint}
  {bare field : Field} (adds : Field.Adds (constraints.map Constraint.option) bare field)
  (complete : ∀ rule, rule ∈ rules) (writable : ∀ c ∈ constraints, c.IsWritable)
include adds complete writable

/-- The property of a field takes the constraints. -/
theorem yields {read : TypeExpr → Except Failure Schema} {json : Text} {required : Bool}
    {property : Schema} (h : Synthesis.Yields rules read bare (.property json required property)) :
    Synthesis.Yields rules read field
      (.property json required (Constraint.setAll constraints property)) := by
  obtain ⟨htype, plain, tags, hplain, htags, hsame, hnone, hconstraints⟩ := adds.tags writable
  cases h with
  | @property plain' _ schema _ hplain' hembed hname hread hrules =>
    obtain rfl := Except.ok.inj (hplain.symm.trans hplain')
    rw [hnone] at hrules
    obtain rfl := Except.ok.inj hrules
    rw [hsame.isRequired_eq, ← Constraint.setAll_annotate, hsame.annotate_eq]
    refine .property htags ((hsame.has_eq (by decide)).symm.trans hembed)
      ((hsame _ (by decide)).symm.trans hname) (htype ▸ hread) ?_
    rw [hconstraints]
    exact Constraint.applyAll_options complete writable schema

/-- The parameter of a field takes the constraints, and what the field takes in stays. -/
theorem contributes {plain : FieldTags} {taken : List Parameter} {location : Location}
    {name : Text} {p : Parameter} (hplain : FieldTags.ofField bare = .ok plain)
    (htaken : Extraction.TakesIn catalog rules bare plain taken)
    (hbinds : plain.Binds location name)
    (hp : Extraction.parameter catalog rules bare plain location name = .ok p) :
    Extraction.Contributes catalog rules field
      (taken ++ [{ p with schema := Constraint.setAll constraints p.schema }]) := by
  obtain ⟨htype, plain', tags, hplain', htags, hsame, hnone, hconstraints⟩ := adds.tags writable
  obtain rfl := Except.ok.inj (hplain'.symm.trans hplain)
  have htakes : Extraction.TakesIn catalog rules field tags taken := by
    cases htaken with
    | model hembed hform hfound =>
      exact .model ((hsame.has_eq (by decide)).symm.trans hembed) (htype ▸ hform) (htype ▸ hfound)
    | nothing hother =>
      refine .nothing fun hembed => ?_
      rw [htype]
      exact hother ((hsame.has_eq (by decide)).trans hembed)
  refine ⟨tags, taken, _, htags, htakes, ?_, rfl⟩
  obtain ⟨schema, hschema, rfl⟩ := Extraction.parameter_eq_ok_iff.mp hp
  obtain ⟨unconstrained, hread, hrules⟩ := bind_eq_ok_iff.mp hschema
  rw [hnone] at hrules
  obtain rfl := Except.ok.inj hrules
  have hconstrained : Synthesis.constrained catalog rules field.type tags.constraints =
      .ok (Constraint.setAll constraints unconstrained) := by
    rw [hconstraints, htype]
    exact bind_eq_ok_iff.mpr
      ⟨unconstrained, hread, Constraint.applyAll_options complete writable unconstrained⟩
  have hbinding : tags.binding? = some (location, name) := by
    rw [← hsame.binding?_eq]
    exact FieldTags.binding?_eq_some_iff.mpr hbinds
  refine .bound (FieldTags.binding?_eq_some_iff.mp hbinding) rfl rfl
    (Extraction.parameter_eq_ok_iff.mpr ⟨_, hconstrained, ?_⟩)
  rw [← hsame.annotated_eq, Extraction.annotated, Constraint.setAll_annotate]
  rfl

end Field.Adds

namespace Extraction

open Synthesis

variable {catalog : Catalog} {rules : List Rule}

theorem forall_mem_middle {α : Type} {P : α → Prop} {before after : List α} {x : α} (hx : P x) :
    (∀ y ∈ before ++ x :: after, P y) ↔ ∀ y ∈ before ++ after, P y := by
  simp only [List.forall_mem_append, List.forall_mem_cons, hx, true_and]

theorem exists_schemaOfModel_iff_others {model : Text} {before after : List Field}
    {field : Field} {share : Share}
    (hfields : catalog.fields model = .ok (before ++ field :: after))
    (h : Yields rules (schemaOf catalog rules) field share) :
    (∃ schema, schemaOfModel catalog rules model = .ok schema) ↔
      ∀ f ∈ before ++ after, ∃ share, Yields rules (schemaOf catalog rules) f share := by
  rw [exists_schemaOfModel_iff, hfields]
  simp only [Except.ok.injEq, exists_eq_left']
  exact forall_mem_middle ⟨share, h⟩

theorem exists_parametersOfModel_iff_others {model : Text} {before after : List Field}
    {field : Field} {part : List Parameter}
    (hfields : catalog.fields model = .ok (before ++ field :: after))
    (h : Contributes catalog rules field part) :
    (∃ parameters, parametersOfModel catalog rules model = .ok parameters) ↔
      ∀ f ∈ before ++ after, ∃ part, Contributes catalog rules f part := by
  rw [exists_parametersOfModel_iff, hfields]
  simp only [Except.ok.injEq, exists_eq_left', ofField_eq_ok_iff_contributes]
  exact forall_mem_middle ⟨part, h⟩

/-- What a field contributes stands in its place among the parts of the other fields. -/
theorem parametersOfModel_eq_of_contributes {model : Text} {before after : List Field}
    {field : Field} {part parameters : List Parameter}
    (hfields : catalog.fields model = .ok (before ++ field :: after))
    (h : Contributes catalog rules field part)
    (hparameters : parametersOfModel catalog rules model = .ok parameters) :
    ∃ front back, List.Forall₂ (Contributes catalog rules) before front ∧
      List.Forall₂ (Contributes catalog rules) after back ∧
      parameters = front.flatten ++ part ++ back.flatten := by
  obtain ⟨fields, parts, hfields', hparts, rfl⟩ := parametersOfModel_eq_ok_iff.mp hparameters
  obtain rfl := Except.ok.inj (hfields.symm.trans hfields')
  obtain ⟨front, part', back, rfl, hfront, hpart, hback⟩ := forall₂_append_cons hparts
  have hsame := (ofField_eq_ok_iff_contributes.mpr h).symm.trans hpart
  obtain rfl := Except.ok.inj hsame
  exact ⟨front, back, hfront.imp fun _ _ => ofField_eq_ok_iff_contributes.mp,
    hback.imp fun _ _ => ofField_eq_ok_iff_contributes.mp, by simp⟩

/-- Constraints that are written in a tag reach the schema unchanged. Let a field have one option of
each kind, in any order, behind the name in its `validate` tag, and let the chain have every rule.
Where the field without them yields a property, its model has a schema whenever the other fields
yield shares, and the property has the four constraints and is else the same. Where the field
without them gives a parameter, its model has parameters whenever the other fields contribute, and
the parameter has the four constraints in its schema and is else the same, in its place. -/
theorem constraints_arrive (type : TypeExpr) (model : Text)
    (isModel : type.describe catalog = .composite model) (complete : ∀ rule, rule ∈ rules)
    {before after : List Field} {bare field : Field}
    (hfields : catalog.fields model = .ok (before ++ field :: after)) {n : Int}
    {values : List Text} {a b : Text} {x y : Binary64} {constraints : List Constraint}
    (perm : constraints.Perm [.enum values, .length n, .maximum a x, .minimum b y])
    (writable : ∀ c ∈ constraints, c.IsWritable)
    (adds : Field.Adds (constraints.map Constraint.option) bare field) :
    (∀ json required property,
      Yields rules (schemaOf catalog rules) bare (.property json required property) →
      ((∃ schema, schemaOf catalog rules type = .ok schema) ↔
        ∀ f ∈ before ++ after, ∃ share, Yields rules (schemaOf catalog rules) f share) ∧
      ∀ schema, schemaOf catalog rules type = .ok schema →
        (∀ later ∈ after, ∀ t, FieldTags.ofField later = .ok t →
          t.has Tag.Key.embed = false → t.name? Tag.Key.json ≠ some json) →
        Entries.get? json schema.properties = some { property with
          enum := values, length := some n, maximum := some (.real x),
          minimum := some (.real y) }) ∧
    ∀ tags taken location name p, FieldTags.ofField bare = .ok tags →
      TakesIn catalog rules bare tags taken → tags.Binds location name →
      parameter catalog rules bare tags location name = .ok p →
      ((∃ parameters, parametersOf catalog rules type = .ok parameters) ↔
        ∀ f ∈ before ++ after, ∃ part, Contributes catalog rules f part) ∧
      ∀ parameters, parametersOf catalog rules type = .ok parameters →
        ∃ front back, List.Forall₂ (Contributes catalog rules) before front ∧
          List.Forall₂ (Contributes catalog rules) after back ∧
          parameters = front.flatten ++ (taken ++ [{ p with schema := { p.schema with
            enum := values, length := some n, maximum := some (.real x),
            minimum := some (.real y) } }]) ++ back.flatten := by
  rw [schemaOf_composite isModel, parametersOf_composite isModel]
  constructor
  · intro json required property hbare
    have hyields := adds.yields complete writable hbare
    rw [Constraint.setAll_of_perm perm] at hyields
    refine ⟨exists_schemaOfModel_iff_others hfields hyields, fun schema hschema last => ?_⟩
    exact get?_properties_of_yields hfields hyields hschema last
  · intro tags taken location name p htags htaken hbinds hp
    have hcontributes := adds.contributes complete writable htags htaken hbinds hp
    rw [Constraint.setAll_of_perm perm] at hcontributes
    refine ⟨exists_parametersOfModel_iff_others hfields hcontributes, fun parameters h => ?_⟩
    exact parametersOfModel_eq_of_contributes hfields hcontributes h

/-- A pair with the literal of a value. -/
def pair (key value : Text) (nonempty : key ≠ []) (isKey : key.all Tag.isKeyChar = true) :
    Tag.Written :=
  ⟨1, key, Json.Literal.encode value, value, nonempty, List.all_eq_true.mp isKey,
    Json.Literal.decode?_encode value⟩

/-- A colour in bodies and queries, where the `validate` tag has a value. -/
def colour (value : Text) : Field :=
  ⟨"colour".toList, .ofClass .str, Tag.Written.textOf
    [pair "json".toList "colour".toList (by decide) (by decide),
      pair "validate".toList value (by decide) (by decide),
      pair "query".toList "c".toList (by decide) (by decide)] 0⟩

/-- A quotation mark and an empty text among the values of an option between others. -/
def colours : List Constraint :=
  [.length (-12), .enum [['\x22'], [], "red".toList], .maximum "1e2".toList (.ofDecimal false 1 2),
    .minimum "-1".toList (.ofDecimal true 1 0)]

/-- Paints of a colour. -/
def paints : Catalog :=
  [⟨"Paint".toList, .plain, [colour (join [','] (['w'] :: colours.map Constraint.option))], []⟩]

theorem schemaOf_paint : ∃ schema parameters,
    schemaOf paints Rule.standard (.ref "Paint".toList) = .ok schema ∧
    (Entries.get? "colour".toList schema.properties).map Schema.enum =
      some [['\x22'], [], "red".toList] ∧
    parametersOf paints Rule.standard (.ref "Paint".toList) = .ok parameters ∧
    parameters.map (fun p => p.schema.length) = [some (-12)] := by
  have isModel : (TypeExpr.ref "Paint".toList).describe paints = .composite "Paint".toList := rfl
  have complete : ∀ rule, rule ∈ Rule.standard := by
    intro rule
    cases rule <;> decide
  have writable : ∀ c ∈ colours, c.IsWritable := by
    have hlength : (Constraint.length (-12)).IsWritable := by
      show (ofNat 12).length ≤ 4300
      decide
    simp only [colours, List.forall_mem_cons]
    exact ⟨hlength, ⟨by decide, by decide⟩, ⟨by decide, rfl⟩, ⟨by decide, rfl⟩, by simp⟩
  have adds : Field.Adds (colours.map Constraint.option) (colour ['w'])
      (colour (join [','] (['w'] :: colours.map Constraint.option))) :=
    @Field.Adds.intro _ _ _ [_] [_] _ _ ['w'] 0 (by decide) (by decide) rfl rfl rfl rfl
  obtain ⟨bodies, requests⟩ := @constraints_arrive paints Rule.standard _ _ isModel complete [] []
    _ _ rfl _ _ _ _ _ _ colours (.swap _ _ _) writable adds
  have hbare : FieldTags.ofField (colour ['w']) = .ok [⟨"json".toList, "colour".toList, []⟩,
      ⟨"validate".toList, ['w'], []⟩, ⟨"query".toList, ['c'], []⟩] := by rfl
  have hyields : Yields Rule.standard (schemaOf paints Rule.standard) (colour ['w'])
      (.property "colour".toList false { type := .string }) :=
    @Yields.property _ _ _ _ _ { type := .string } _ hbare rfl rfl rfl rfl
  obtain ⟨found, hproperty⟩ := bodies _ _ _ hyields
  obtain ⟨schema, hschema⟩ := found.mpr (List.forall_mem_nil _)
  obtain ⟨given, hparameters⟩ :=
    requests _ [] .query ['c'] _ hbare (.nothing nofun) (.query rfl) rfl
  obtain ⟨parameters, hfound⟩ := given.mpr (List.forall_mem_nil _)
  obtain ⟨front, back, hfront, hback, rfl⟩ := hparameters parameters hfound
  cases hfront
  cases hback
  refine ⟨schema, _, hschema, ?_, hfound, rfl⟩
  rw [hproperty schema hschema (List.forall_mem_nil _)]
  rfl

end Extraction

end RouteDoc
