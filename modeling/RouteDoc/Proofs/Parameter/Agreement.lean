import RouteDoc.Proofs.Parameter.Descent
import RouteDoc.Proofs.Schema.Composition

/-! Bodies and parameters read the same tags alike. A model that has a schema has parameters, and
what a field is as a parameter it is as a property too: the two readings differ only for a field
that embeds a model and is bound itself. -/

namespace RouteDoc

/-- In a fold where the last counts, a property stands whose name no later share has as its own. -/
theorem Share.get?_collect_property {before after : List Share} {name : Text} {isRequired : Bool}
    {schema : Schema} (last : ∀ later ∈ after, later.own? name = none) :
    Entries.get? name (collect (before ++ .property name isRequired schema :: after)).properties =
      some schema := by
  have hlast : (before ++ .property name isRequired schema :: after).reverse.findSome?
      (own? name) = some schema :=
    findSome?_reverse_eq_some_iff.mpr ⟨before, _, after, rfl, by simp [own?], last⟩
  rw [get?_collect, hlast, Option.some_or]

namespace Extraction

open Relation Synthesis

variable {catalog : Catalog} {rules : List Rule}

/-- A model embeds another: one of its fields embeds, and the other is its type. -/
def Embeds (catalog : Catalog) (a b : Text) : Prop :=
  ∃ fields, catalog.fields a = .ok fields ∧ ∃ field ∈ fields, ∃ tags,
    FieldTags.ofField field = .ok tags ∧ tags.has Tag.Key.embed = true ∧
      field.type.describe catalog = .composite b

/-- No field of a model that embeds is bound to a part of the request as well. -/
def KeepsApart (catalog : Catalog) (name : Text) : Prop :=
  ∀ fields, catalog.fields name = .ok fields → ∀ field ∈ fields, ∀ tags,
    FieldTags.ofField field = .ok tags → tags.has Tag.Key.embed = true → tags.binding? = none

/-- A named field yields the property with its name, whose schema is that of its type with what the
tags say about it. -/
theorem eq_property_of_yields {read : TypeExpr → Except Failure Schema} {field : Field}
    {share : Share} {tags : FieldTags} {name : Text} (yields : Yields rules read field share)
    (htags : FieldTags.ofField field = .ok tags) (hembed : tags.has Tag.Key.embed = false)
    (hname : tags.name? Tag.Key.json = some name) : ∃ plain schema,
      read field.type = .ok plain ∧ Rule.applyAll rules plain tags.constraints = .ok schema ∧
        share = .property name tags.isRequired (tags.annotate schema) := by
  obtain ⟨json, plain, schema, hjson, hplain, hrules, rfl⟩ :=
    (yields_iff_of_not_embeds htags hembed).mp yields
  obtain rfl := Option.some.inj (hname.symm.trans hjson)
  exact ⟨plain, schema, hplain, hrules, rfl⟩

/-- A field that is not named so yields no property of its own with a name. -/
theorem own?_eq_none_of_yields {read : TypeExpr → Except Failure Schema} {field : Field}
    {share : Share} {name : Text} (yields : Yields rules read field share)
    (other : ∀ tags, FieldTags.ofField field = .ok tags → tags.has Tag.Key.embed = false →
      tags.name? Tag.Key.json ≠ some name) : share.own? name = none := by
  cases yields with
  | embedded _ _ _ => rfl
  | property htags hembed hname _ _ =>
    have hne := other _ htags hembed
    rw [hname, ne_eq, Option.some.injEq] at hne
    rw [Share.own?, if_neg hne]

theorem eq_of_yields {field : Field} {share other : Share}
    (h : Yields rules (schemaOf catalog rules) field share)
    (hother : Yields rules (schemaOf catalog rules) field other) : share = other := by
  have hshare : Synthesis.share catalog rules (schemaOfModel catalog rules) [] field = .ok share :=
    share_eq_ok_iff.mpr h
  exact Except.ok.inj (hshare.symm.trans (share_eq_ok_iff.mpr hother))

/-- The property that a field yields is that of its model, unless a later field takes its name. What
later fields embed does not count: an embedded name yields to one that is there. -/
theorem get?_properties_of_yields {name : Text} {before after : List Field} {field : Field}
    {json : Text} {isRequired : Bool} {property schema : Schema}
    (hfields : catalog.fields name = .ok (before ++ field :: after))
    (h : Yields rules (schemaOf catalog rules) field (.property json isRequired property))
    (hschema : schemaOfModel catalog rules name = .ok schema)
    (last : ∀ later ∈ after, ∀ t, FieldTags.ofField later = .ok t →
      t.has Tag.Key.embed = false → t.name? Tag.Key.json ≠ some json) :
    Entries.get? json schema.properties = some property := by
  obtain ⟨fields, shares, hfields', hshares, rfl⟩ := schemaOfModel_eq_ok_iff.mp hschema
  obtain rfl := Except.ok.inj (hfields.symm.trans hfields')
  obtain ⟨sharesBefore, share, sharesAfter, rfl, -, hshare, hafter⟩ := forall₂_append_cons hshares
  obtain rfl := eq_of_yields hshare h
  refine Share.get?_collect_property fun later hlater => ?_
  obtain ⟨f, hf, hyields⟩ := exists_mem_of_forall₂ hafter hlater
  exact own?_eq_none_of_yields hyields (last f hf)

/-- What has a schema with constraints as a type of the body has it as a parameter. -/
theorem constrained_eq_ok {type : TypeExpr} {options : List Text} {plain schema : Schema}
    (hplain : schemaOf catalog rules type = .ok plain)
    (hrules : Rule.applyAll rules plain options = .ok schema) :
    constrained catalog rules type options = .ok schema :=
  bind_eq_ok_iff.mpr ⟨plain, hplain, hrules⟩

/-- A field that yields a share gives parameters, unless it embeds and is bound as well: what it
embeds is found by hypothesis, and its own schema is that of the share. -/
theorem exists_ofField_of_yields {model : Text → Except Failure Schema} {field : Field}
    {share : Share} (below : ∀ n, Descent.Below Synthesis.refusal (model n)
      (schemaOfModel catalog rules n))
    (yields : Yields rules (fun type => (type.describe catalog).schema model) field share)
    (apart : ∀ tags, FieldTags.ofField field = .ok tags → tags.has Tag.Key.embed = true →
      tags.binding? = none)
    (found : ∀ tags name schema, FieldTags.ofField field = .ok tags →
      tags.has Tag.Key.embed = true → field.type.describe catalog = .composite name →
      model name = .ok schema →
      ∃ parameters, parametersOfModel catalog rules name = .ok parameters) :
    ∃ part, ofField catalog rules (parametersOfModel catalog rules) field = .ok part := by
  cases yields with
  | @embedded tags schema htags hembed hschema =>
    refine exists_ofField_iff.mpr ⟨tags, htags, fun name hname => ?_, fun binding hbinding => ?_⟩
    · have hform := (embedded?_eq_some_iff.mp hname).2
      rw [hform] at hschema
      exact found tags name schema htags hembed hform hschema
    · exact nomatch (apart tags htags hembed).symm.trans hbinding
  | @property tags _ _ _ htags hembed _ hplain hrules =>
    refine exists_ofField_iff.mpr ⟨tags, htags, fun name hname => ?_, fun _ _ => ?_⟩
    · exact nomatch hembed.symm.trans (embedded?_eq_some_iff.mp hname).1
    · exact ⟨_, constrained_eq_ok ((schema_below below _).ok hplain) hrules⟩

/-- A model that has a schema has parameters, if the models that it embeds keep embedding and
binding apart. -/
theorem exists_parametersOfModel_of_schema {name : Text} {schema : Schema}
    (h : schemaOfModel catalog rules name = .ok schema)
    (apart : ∀ m, ReflTransGen (Embeds catalog) name m → KeepsApart catalog m) :
    ∃ parameters, parametersOfModel catalog rules name = .ok parameters := by
  refine schemaOfModel_induction
    (fun name x => ∀ s, x = .ok s →
      (∀ m, ReflTransGen (Embeds catalog) name m → KeepsApart catalog m) →
      ∃ parameters, parametersOfModel catalog rules name = .ok parameters)
    (fun name x model below found _ hx s hs apart => ?_) (Descent.settled_ok schema) h schema rfl
    apart
  -- The induction follows the schema: the schema of an embedded model is nested in it.
  subst hs
  obtain ⟨fields, shares, hfields, hshares, -⟩ := Catalog.gather_eq_ok_iff.mp hx
  refine exists_parametersOfModel_iff.mpr ⟨fields, hfields, fun field hmem => ?_⟩
  obtain ⟨share, hshare⟩ := exists_forall₂_iff.mp ⟨shares, hshares⟩ field hmem
  refine exists_ofField_of_yields below (share_eq_ok_iff.mp hshare)
    (apart name .refl fields hfields field hmem) fun tags child t htags hembed hform ht => ?_
  have hembeds : Embeds catalog name child :=
    ⟨fields, hfields, field, hmem, tags, htags, hembed, hform⟩
  exact found child (.ok t) (Descent.settled_ok t) ht t rfl fun m hm => apart m (.head hembeds hm)

theorem parametersOf_composite {type : TypeExpr} {name : Text}
    (h : type.describe catalog = .composite name) :
    parametersOf catalog rules type = parametersOfModel catalog rules name := by
  have hsome : type.isNothing = false := by
    cases type with
    | nothing => exact nomatch h
    | _ => rfl
  rw [parametersOf_eq, hsome, h]
  rfl

/-- A field that does not embed and is bound gives its own parameter. -/
theorem ofField_eq_singleton {field : Field} {tags : FieldTags} {location : Location} {name : Text}
    {part : List Parameter}
    (hpart : ofField catalog rules (parametersOfModel catalog rules) field = .ok part)
    (htags : FieldTags.ofField field = .ok tags) (hembed : tags.has Tag.Key.embed = false)
    (hbinding : tags.binding? = some (location, name)) :
    ∃ p, part = [p] ∧ parameter catalog rules field tags location name = .ok p := by
  obtain ⟨tags, found, own, htags', hfound, hown, rfl⟩ := ofField_eq_ok_iff.mp hpart
  obtain rfl := Except.ok.inj (htags.symm.trans htags')
  have hnone : embedded? catalog field tags = none := by
    rw [Option.eq_none_iff_forall_ne_some]
    intro name hname
    exact nomatch hembed.symm.trans (embedded?_eq_some_iff.mp hname).1
  rw [embeddedOf, hnone] at hfound
  obtain rfl := Except.ok.inj hfound
  simp only [bound, hbinding] at hown
  obtain ⟨p, hp, hown⟩ := bind_eq_ok_iff.mp hown
  obtain rfl := Except.ok.inj hown
  exact ⟨p, rfl, hp⟩

/-- The parameter of a field that does not embed and is bound stands behind those of the fields
before it. -/
theorem exists_parameter_of_bound {name : Text} {parameters : List Parameter}
    (hparameters : parametersOfModel catalog rules name = .ok parameters)
    {before after : List Field} {field : Field} {tags : FieldTags} {location : Location}
    {bound : Text} (hfields : catalog.fields name = .ok (before ++ field :: after))
    (htags : FieldTags.ofField field = .ok tags) (hembed : tags.has Tag.Key.embed = false)
    (hbinding : tags.binding? = some (location, bound)) :
    ∃ front p back, parameters = front ++ p :: back ∧
      (before.mapM (ofField catalog rules (parametersOfModel catalog rules))).map List.flatten =
        .ok front ∧
      parameter catalog rules field tags location bound = .ok p := by
  obtain ⟨fields, parts, hfields', hparts, rfl⟩ := parametersOfModel_eq_ok_iff.mp hparameters
  obtain rfl := Except.ok.inj (hfields.symm.trans hfields')
  obtain ⟨partsBefore, part, partsAfter, rfl, hbefore, hpart, -⟩ := forall₂_append_cons hparts
  obtain ⟨p, rfl, hp⟩ := ofField_eq_singleton hpart htags hembed hbinding
  exact ⟨partsBefore.flatten, p, partsAfter.flatten, by simp,
    map_eq_ok_iff.mpr ⟨partsBefore, mapM_eq_ok_iff.mpr hbefore, rfl⟩, hp⟩

/-- The schema of a parameter is that of its type with what the tags say about it. -/
theorem schema_of_parameter {field : Field} {tags : FieldTags} {plain schema : Schema}
    {location : Location} {name : Text} {p : Parameter}
    (hp : parameter catalog rules field tags location name = .ok p)
    (hplain : schemaOf catalog rules field.type = .ok plain)
    (hrules : Rule.applyAll rules plain tags.constraints = .ok schema) :
    p.schema = tags.annotate schema ∧ p.required = tags.isRequired := by
  obtain ⟨found, hfound, rfl⟩ := parameter_eq_ok_iff.mp hp
  obtain rfl := Except.ok.inj (hfound.symm.trans (constrained_eq_ok hplain hrules))
  exact ⟨rfl, rfl⟩

/-- The tags of a field say the same of its property and of its parameter. A field that is named in
bodies and bound to a part of the request gives one parameter, behind those of the fields before it;
if no later field takes its name, its property is the schema of the parameter, and it is required in
bodies where the parameter is. -/
theorem parameter_agrees {name : Text} {schema : Schema} {parameters : List Parameter}
    (hschema : schemaOfModel catalog rules name = .ok schema)
    (hparameters : parametersOfModel catalog rules name = .ok parameters)
    {before after : List Field} {field : Field} {tags : FieldTags} {json bound : Text}
    {location : Location} (hfields : catalog.fields name = .ok (before ++ field :: after))
    (htags : FieldTags.ofField field = .ok tags) (hembed : tags.has Tag.Key.embed = false)
    (hjson : tags.name? Tag.Key.json = some json)
    (hbinding : tags.binding? = some (location, bound))
    (last : ∀ later ∈ after, ∀ t, FieldTags.ofField later = .ok t →
      t.has Tag.Key.embed = false → t.name? Tag.Key.json ≠ some json) :
    ∃ front p back, parameters = front ++ p :: back ∧
      (before.mapM (ofField catalog rules (parametersOfModel catalog rules))).map List.flatten =
        .ok front ∧
      parameter catalog rules field tags location bound = .ok p ∧
      Entries.get? json schema.properties = some p.schema ∧
      (p.required = true → json ∈ schema.required) := by
  obtain ⟨front, p, back, rfl, hfront, hp⟩ :=
    exists_parameter_of_bound hparameters hfields htags hembed hbinding
  obtain ⟨fields, shares, hfields', hshares, rfl⟩ := schemaOfModel_eq_ok_iff.mp hschema
  obtain rfl := Except.ok.inj (hfields.symm.trans hfields')
  obtain ⟨sharesBefore, share, sharesAfter, rfl, -, hshare, -⟩ := forall₂_append_cons hshares
  obtain ⟨plain, constrained, hplain, hrules, rfl⟩ :=
    eq_property_of_yields hshare htags hembed hjson
  obtain ⟨hpschema, hprequired⟩ := schema_of_parameter hp hplain hrules
  refine ⟨front, p, back, rfl, hfront, hp, ?_, fun hrequired => ?_⟩
  · rw [hpschema]
    exact get?_properties_of_yields hfields hshare hschema last
  · rw [Share.required_collect, List.mem_eraseDups, List.mem_flatMap]
    refine ⟨_, List.mem_append_right _ List.mem_cons_self, ?_⟩
    rw [Share.required, ← hprequired, hrequired]
    exact List.mem_singleton_self json

/-- Bodies and parameters agree. Where no model that is embedded has a field that both embeds and is
bound, a type whose schema is found as a body has parameters as a request, and every field that is
named for bodies and bound to a part of the request has one schema in both. -/
theorem parametersOf_agrees (catalog : Catalog) (rules : List Rule) (type : TypeExpr) (model : Text)
    (isModel : type.describe catalog = .composite model)
    (apart : ∀ m, ReflTransGen (Embeds catalog) model m → KeepsApart catalog m) (schema : Schema)
    (found : schemaOf catalog rules type = .ok schema) :
    ∃ parameters, parametersOf catalog rules type = .ok parameters ∧
      ∀ before field after tags json location name,
        catalog.fields model = .ok (before ++ field :: after) →
        FieldTags.ofField field = .ok tags → tags.has Tag.Key.embed = false →
        tags.name? Tag.Key.json = some json → tags.binding? = some (location, name) →
        (∀ later ∈ after, ∀ t, FieldTags.ofField later = .ok t →
          t.has Tag.Key.embed = false → t.name? Tag.Key.json ≠ some json) →
        ∃ front p back, parameters = front ++ p :: back ∧
          (before.mapM (ofField catalog rules (parametersOfModel catalog rules))).map
            List.flatten = .ok front ∧
          parameter catalog rules field tags location name = .ok p ∧
          Entries.get? json schema.properties = some p.schema ∧
          (p.required = true → json ∈ schema.required) := by
  rw [schemaOf_composite isModel] at found
  obtain ⟨parameters, hparameters⟩ := exists_parametersOfModel_of_schema found apart
  refine ⟨parameters, (parametersOf_composite isModel).trans hparameters, ?_⟩
  intro before field after tags json location name hfields htags hembed hjson hbinding last
  exact parameter_agrees found hparameters hfields htags hembed hjson hbinding last

/-- A page of results, and a search that embeds it and has an order in both readings. -/
def searches : Catalog := [
  ⟨"Page".toList, .plain,
    [⟨"limit".toList, .ofClass .int, "json:\"limit\" query:\"limit\"".toList⟩], []⟩,
  ⟨"Search".toList, .plain,
    [⟨"page".toList, .ref "Page".toList, "embed:\"\"".toList⟩,
      ⟨"order".toList, .tupleOf (.ofClass .str),
        "json:\"sort\" query:\"order\" validate:\"required,len=2\"".toList⟩], []⟩]

theorem keepsApart_searches (name : Text) : KeepsApart searches name := by
  intro fields hfields field hmem tags htags hembed
  have happly : ∀ model ∈ searches, ∀ field ∈ model.fields,
      (FieldTags.ofField field).toOption.all
        (fun tags => !tags.has Tag.Key.embed || tags.binding?.isNone) = true := by decide
  rcases Catalog.fields_eq_ok hfields with rfl | ⟨model, hmodel, rfl⟩
  · exact nomatch hmem
  · have := happly model hmodel field hmem
    simpa [htags, Except.toOption, hembed] using this

theorem parametersOf_searches :
    (∀ m, ReflTransGen (Embeds searches) "Search".toList m → KeepsApart searches m) ∧
    ∃ schema parameters p, schemaOf searches Rule.standard (.ref "Search".toList) = .ok schema ∧
      parametersOf searches Rule.standard (.ref "Search".toList) = .ok parameters ∧
      p ∈ parameters ∧ Entries.get? "sort".toList schema.properties = some p.schema ∧
      "sort".toList ∈ schema.required := by
  have apart : ∀ m, ReflTransGen (Embeds searches) "Search".toList m → KeepsApart searches m :=
    fun m _ => keepsApart_searches m
  obtain ⟨schema, hschema⟩ :
      ∃ schema, schemaOf searches Rule.standard (.ref "Search".toList) = .ok schema := ⟨_, rfl⟩
  obtain ⟨parameters, hparameters, agree⟩ := parametersOf_agrees searches Rule.standard
    (.ref "Search".toList) _ rfl apart schema hschema
  obtain ⟨front, p, back, rfl, -, hp, hproperty, hrequired⟩ :=
    agree [_] _ [] _ _ _ _ rfl rfl rfl rfl rfl (by simp)
  have hisRequired : p.required = true := by
    obtain ⟨_, _, hp⟩ := bind_eq_ok_iff.mp hp
    obtain rfl := Except.ok.inj hp
    rfl
  exact ⟨apart, schema, _, p, hschema, hparameters, by simp, hproperty, hrequired hisRequired⟩

end Extraction

end RouteDoc
