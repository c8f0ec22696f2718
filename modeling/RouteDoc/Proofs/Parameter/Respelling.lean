import RouteDoc.Proofs.Model.Descriptor
import RouteDoc.Proofs.Parameter.Lookup

/-! Tag texts count for no more than what is looked up in them. Two catalogs that differ in nothing
but the spelling of their tag texts have the same schemas and parameters, and fail in the same
cases for the same reasons. -/

namespace RouteDoc

/-- A field whose tag text is spelled in another way: both texts can be read, and under each key
with a meaning the first tag is the same. -/
structure Field.Respells (field other : Field) : Prop where
  name : field.name = other.name
  type : field.type = other.type
  tags : ∃ tags others, FieldTags.ofField field = .ok tags ∧ FieldTags.ofField other = .ok others ∧
    tags.Agree others

/-- A model whose fields are spelled in another way. -/
structure Model.Respells (model other : Model) : Prop where
  name : model.name = other.name
  kind : model.kind = other.kind
  fields : List.Forall₂ Field.Respells model.fields other.fields
  written : model.written.map (fun type => type.unwrap.1) =
    other.written.map fun type => type.unwrap.1

/-- A catalog whose models are spelled in another way. -/
def Catalog.Respells : Catalog → Catalog → Prop := List.Forall₂ Model.Respells

/-- A declaration whose fields are spelled in another way. -/
structure Declaration.Respells (declaration other : Declaration) : Prop where
  name : declaration.name = other.name
  kind : declaration.kind = other.kind
  base : declaration.base = other.base
  fields : List.Forall₂ (fun field other =>
    (Field.ofType field.1 field.2).Respells (Field.ofType other.1 other.2))
    declaration.fields other.fields

namespace Catalog.Respells

variable {catalog other : Catalog} (respells : Catalog.Respells catalog other)
include respells

theorem find? (name : Text) :
    (catalog.find? name = none ∧ other.find? name = none) ∨
    ∃ model model', catalog.find? name = some model ∧ other.find? name = some model' ∧
      model.Respells model' := by
  induction respells with
  | nil => exact .inl ⟨rfl, rfl⟩
  | @cons model model' _ _ h _ ih =>
    unfold Catalog.find?
    rw [List.find?_cons, List.find?_cons, ← h.name]
    split
    · exact .inr ⟨model, model', rfl, rfl, h⟩
    · exact ih

theorem isSome_find? (name : Text) :
    (catalog.find? name).isSome = (other.find? name).isSome := by
  rcases respells.find? name with ⟨h, h'⟩ | ⟨_, _, h, h', -⟩ <;>
    simp [h, h']

theorem describe (type : TypeExpr) : type.describe catalog = type.describe other :=
  TypeExpr.describe_congr respells.isSome_find? type

theorem firstUnknown? {model model' : Model} (h : model.Respells model') :
    catalog.firstUnknown? model = other.firstUnknown? model' := by
  -- Only the types without the tag texts around them are the same, and these refer to as much.
  have hreferences : ∀ types : List TypeExpr, types.flatMap TypeExpr.references =
      (types.map fun type => type.unwrap.1).flatMap TypeExpr.references := fun types => by
    rw [List.flatMap_map]
    exact List.flatMap_congr fun type _ => type.references_unwrap.symm
  unfold Catalog.firstUnknown?
  rw [hreferences, h.written, ← hreferences]
  simp only [← Option.not_isSome, respells.isSome_find?]

theorem fields (name : Text) :
    (∃ fault, catalog.fields name = .error fault ∧ other.fields name = .error fault) ∨
    ∃ fields others, catalog.fields name = .ok fields ∧ other.fields name = .ok others ∧
      List.Forall₂ Field.Respells fields others := by
  unfold Catalog.fields
  rcases respells.find? name with ⟨hnone, hother⟩ | ⟨model, model', hsome, hother, h⟩
  · rw [hnone, hother]
    exact .inr ⟨[], [], rfl, rfl, .nil⟩
  · rw [hsome, hother]
    dsimp only
    rw [respells.firstUnknown? h, h.kind, h.name]
    split
    · exact .inl ⟨_, rfl, rfl⟩
    · exact .inr ⟨_, _, rfl, rfl, h.fields⟩

theorem gather {α β : Type} {each each' : Field → Except Failure β} {join : List β → α}
    (h : ∀ field field', field.Respells field' → each field = each' field') (name : Text) :
    catalog.gather each join name = other.gather each' join name := by
  unfold Catalog.gather
  rcases respells.fields name with ⟨fault, hfault, hother⟩ |
    ⟨fields, others, hfields, hothers, hall⟩
  · rw [hfault, hother]
  · rw [hfields, hothers]
    dsimp only
    rw [mapM_congr_forall₂ h hall]

theorem modelCount : Synthesis.modelCount catalog = Synthesis.modelCount other := by
  rw [Synthesis.modelCount, Synthesis.modelCount, List.Forall₂.length_eq respells]

omit respells in
theorem putField {field field' : Field} (h : field.Respells field') {fields others : List Field}
    (hall : List.Forall₂ Field.Respells fields others) :
    List.Forall₂ Field.Respells (Catalog.putField field fields)
      (Catalog.putField field' others) := by
  induction hall with
  | nil => exact .cons h .nil
  | @cons first first' _ _ hfirst hrest ih =>
    rw [Catalog.putField, Catalog.putField, hfirst.name, h.name]
    split
    · exact .cons h hrest
    · exact .cons hfirst ih

/-- What a model takes from its base is spelled in another way. -/
theorem inherited (base : Option Text) :
    List.Forall₂ Field.Respells ((base.bind catalog.find?).elim [] Model.fields)
      ((base.bind other.find?).elim [] Model.fields) ∧
    ((base.bind catalog.find?).elim [] Model.written).map (fun type => type.unwrap.1) =
      ((base.bind other.find?).elim [] Model.written).map fun type => type.unwrap.1 := by
  cases base with
  | none => exact ⟨.nil, rfl⟩
  | some base =>
    rcases respells.find? base with ⟨hnone, hother⟩ | ⟨model, model', hsome, hother, h⟩
    · rw [Option.bind_some, Option.bind_some, hnone, hother]
      exact ⟨.nil, rfl⟩
    · rw [Option.bind_some, Option.bind_some, hsome, hother]
      exact ⟨h.fields, h.written⟩

theorem declare {declaration declaration' : Declaration}
    (h : declaration.Respells declaration') :
    (catalog.declare declaration).Respells (other.declare declaration') := by
  obtain ⟨hfields, hwritten⟩ := respells.inherited declaration'.base
  have htypes : List.Forall₂ (· = ·) (declaration.fields.map fun field => field.2.unwrap.1)
      (declaration'.fields.map fun field => field.2.unwrap.1) :=
    List.forall₂_map_left_iff.mpr
      (List.forall₂_map_right_iff.mpr (h.fields.imp fun _ _ h => h.type))
  refine List.rel_append respells (.cons ⟨h.name, h.kind, ?_, ?_⟩ .nil)
  · rw [h.base]
    exact List.rel_foldl (P := List.Forall₂ Field.Respells) (R := Field.Respells)
      (fun _ _ hall _ _ hfield => putField hfield hall) hfields
      (List.forall₂_map_left_iff.mpr (List.forall₂_map_right_iff.mpr h.fields))
  · simp only [h.base, List.map_append, List.map_map, hwritten]
    exact congrArg _ (List.forall₂_eq_eq_eq ▸ htypes)

omit respells in
theorem ofDeclarations {declarations others : List Declaration}
    (h : List.Forall₂ Declaration.Respells declarations others) :
    (Catalog.ofDeclarations declarations).Respells (Catalog.ofDeclarations others) :=
  List.rel_foldl (P := Catalog.Respells) (R := Declaration.Respells)
    (fun _ _ hcatalog _ _ hdeclaration => declare hcatalog hdeclaration) .nil h

end Catalog.Respells

namespace Synthesis

variable {catalog other : Catalog} {rules : List Rule}

theorem share_respells (respells : catalog.Respells other) {field field' : Field}
    (h : field.Respells field') (model : Text → Except Failure Schema) (owner : Text) :
    share catalog rules model owner field = share other rules model owner field' := by
  obtain ⟨tags, others, htags, hothers, hagree⟩ := h.tags
  have hsame := hagree.sameNames
  unfold share
  rw [htags, hothers, h.name, h.type, respells.describe]
  simp only [bind, Except.bind, hsame.has_eq (show Tag.Key.embed ∈ Tag.Key.recognized by decide),
    hsame Tag.Key.json (by decide), hagree.constraints_eq, hsame.isRequired_eq, hsame.annotate_eq]

theorem schemaOfModel_respells (respells : catalog.Respells other) :
    schemaOfModel catalog rules = schemaOfModel other rules := by
  -- The bodies are one function, so no induction on the depth of models is needed.
  have hbody : modelBody catalog rules = modelBody other rules := by
    funext model name
    exact respells.gather (fun _ _ h => share_respells respells h model name) name
  rw [schemaOfModel_eq_run, schemaOfModel_eq_run, hbody, respells.modelCount]

theorem schemaOf_respells (respells : catalog.Respells other) (type : TypeExpr) :
    schemaOf catalog rules type = schemaOf other rules type := by
  rw [schemaOf_eq, schemaOf_eq, schemaOfModel_respells respells, respells.describe]

end Synthesis

namespace Extraction

open Synthesis

variable {catalog other : Catalog} {rules : List Rule}

theorem bound_respells (respells : catalog.Respells other) {field field' : Field}
    (htype : field.type = field'.type) {tags others : FieldTags} (hagree : tags.Agree others) :
    bound catalog rules field tags = bound other rules field' others := by
  have hsame := hagree.sameNames
  unfold bound
  simp only [parameter_eq, constrained, htype, schemaOf_respells respells, hagree.constraints_eq,
    hsame.annotated_eq, hsame.binding?_eq]

theorem ofField_respells (respells : catalog.Respells other) {field field' : Field}
    (h : field.Respells field') (model : Text → Except Failure (List Parameter)) :
    ofField catalog rules model field = ofField other rules model field' := by
  obtain ⟨tags, others, htags, hothers, hagree⟩ := h.tags
  have hembedded : embeddedOf catalog model field tags = embeddedOf other model field' others := by
    unfold embeddedOf embedded?
    rw [hagree.sameNames.has_eq (show Tag.Key.embed ∈ Tag.Key.recognized by decide), h.type,
      respells.describe]
  rw [ofField_eq, ofField_eq, htags, hothers]
  simp only [bind, Except.bind, hembedded, bound_respells respells h.type hagree]

theorem parametersOfModel_respells (respells : catalog.Respells other) :
    parametersOfModel catalog rules = parametersOfModel other rules := by
  have hbody : modelBody catalog rules = modelBody other rules := by
    funext model name
    exact respells.gather (fun _ _ h => ofField_respells respells h model) name
  rw [parametersOfModel_eq_run, parametersOfModel_eq_run, hbody, respells.modelCount]

/-- Nothing but the first tag under each key with a meaning counts. Two catalogs with the same
models, fields and types, in which all tag texts can be read and give the same first tags, give
every type the same schema and the same parameters under every chain of rules, or the same
failure. -/
theorem reads_alike_of_respells (respells : catalog.Respells other) (rules : List Rule)
    (type : TypeExpr) :
    schemaOf catalog rules type = schemaOf other rules type ∧
      parametersOf catalog rules type = parametersOf other rules type := by
  refine ⟨schemaOf_respells respells type, ?_⟩
  rw [parametersOf_eq, parametersOf_eq, parametersOfModel_respells respells, respells.describe]

/-- A page, and a search that has it as its base, where the limit of a page has a tag text. -/
def searchDeclarations (limitTag : Text) : List Declaration := [
  ⟨"Page".toList, .validated, none, [("limit".toList, .annotated (.ofClass .int) [limitTag])]⟩,
  ⟨"Search".toList, .validated, some "Page".toList,
    [("term".toList, .annotated (.ofClass .str) ["json:\"term\"".toList])]⟩]

theorem respells_searchDeclarations {tag tag' : Text} {tags others : FieldTags}
    (htags : FieldTags.ofField ⟨"limit".toList, .ofClass .int, tag⟩ = .ok tags)
    (hothers : FieldTags.ofField ⟨"limit".toList, .ofClass .int, tag'⟩ = .ok others)
    (hagree : tags.Agree others) : List.Forall₂ Declaration.Respells (searchDeclarations tag)
      (searchDeclarations tag') := by
  have hterm : FieldTags.ofField ⟨"term".toList, .ofClass .str, "json:\"term\"".toList⟩ =
      .ok [⟨"json".toList, "term".toList, []⟩] := by rfl
  exact .cons ⟨rfl, rfl, rfl, .cons ⟨rfl, rfl, _, _, htags, hothers, hagree⟩ .nil⟩
    (.cons ⟨rfl, rfl, rfl, .cons ⟨rfl, rfl, _, _, hterm, hterm, fun _ _ => rfl⟩ .nil⟩ .nil)

def limitTag : Text := "json:\"limit\" query:\"limit\" validate:\"required\"".toList

/-- The tags of a limit in another order, with an escape, an unknown key and a later duplicate. -/
def limitTagRespelled : Text :=
  " x:\"1\" validate:\"required\"  query:\"\\u006Cimit\" json:\"limit\" json:\"other\"".toList

theorem reads_alike_searches : ∃ schema parameters,
    schemaOf (Catalog.ofDeclarations (searchDeclarations limitTag)) Rule.standard
      (.ref "Search".toList) = .ok schema ∧
    schemaOf (Catalog.ofDeclarations (searchDeclarations limitTagRespelled)) Rule.standard
      (.ref "Search".toList) = .ok schema ∧
    Entries.keys schema.properties = ["limit".toList, "term".toList] ∧
    parametersOf (Catalog.ofDeclarations (searchDeclarations limitTag)) Rule.standard
      (.ref "Search".toList) = .ok parameters ∧
    parametersOf (Catalog.ofDeclarations (searchDeclarations limitTagRespelled)) Rule.standard
      (.ref "Search".toList) = .ok parameters ∧
    parameters.map Parameter.name = ["limit".toList] := by
  have htags : FieldTags.ofField ⟨"limit".toList, .ofClass .int, limitTag⟩ =
      .ok [⟨"json".toList, "limit".toList, []⟩, ⟨"query".toList, "limit".toList, []⟩,
        ⟨"validate".toList, "required".toList, []⟩] := by rfl
  have hothers : FieldTags.ofField ⟨"limit".toList, .ofClass .int, limitTagRespelled⟩ =
      .ok [⟨['x'], ['1'], []⟩, ⟨"validate".toList, "required".toList, []⟩,
        ⟨"query".toList, "limit".toList, []⟩, ⟨"json".toList, "limit".toList, []⟩,
        ⟨"json".toList, "other".toList, []⟩] := by rfl
  have respells := Catalog.Respells.ofDeclarations
    (respells_searchDeclarations htags hothers (by decide))
  obtain ⟨hschema, hparameters⟩ :=
    reads_alike_of_respells respells Rule.standard (.ref "Search".toList)
  exact ⟨_, _, rfl, hschema.symm.trans rfl, rfl, rfl, hparameters.symm.trans rfl, rfl⟩

end Extraction

end RouteDoc
