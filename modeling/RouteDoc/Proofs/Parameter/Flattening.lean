import RouteDoc.Proofs.Cycle
import RouteDoc.Proofs.Parameter.Agreement

/-! The parameters of a request are its model with the models that it embeds laid flat. What a field
takes in and what it is itself are found for it alone, and the only thing that can go wrong in a
tree of models that are sound one by one is an embedding that comes back to itself. -/

namespace RouteDoc

namespace FieldTags

/-- Tags bind a field to the first part of the request, in the order of look-up, whose key is
among them. -/
inductive Binds (tags : FieldTags) : Location → Text → Prop
  | query {name : Text} : tags.name? "query".toList = some name → Binds tags .query name
  | path {name : Text} : tags.name? "query".toList = none →
    tags.name? "uri".toList = some name → Binds tags .path name
  | header {name : Text} : tags.name? "query".toList = none → tags.name? "uri".toList = none →
    tags.name? "header".toList = some name → Binds tags .header name
  | cookie {name : Text} : tags.name? "query".toList = none → tags.name? "uri".toList = none →
    tags.name? "header".toList = none → tags.name? "cookie".toList = some name →
    Binds tags .cookie name

variable {tags : FieldTags}

theorem binding?_eq : tags.binding? =
    ((tags.name? Location.query.key).map (Location.query, ·)).or
      (((tags.name? Location.path.key).map (Location.path, ·)).or
        (((tags.name? Location.header.key).map (Location.header, ·)).or
          ((tags.name? Location.cookie.key).map (Location.cookie, ·)))) := by
  simp only [binding?, Location.all, List.findSome?_cons, List.findSome?_nil]
  cases tags.name? Location.query.key <;> cases tags.name? Location.path.key <;>
    cases tags.name? Location.header.key <;> cases tags.name? Location.cookie.key <;> rfl

theorem binding?_eq_some_iff {location : Location} {name : Text} :
    tags.binding? = some (location, name) ↔ tags.Binds location name := by
  simp only [binding?_eq, Option.or_eq_some_iff, Option.map_eq_some_iff, Option.map_eq_none_iff,
    Prod.mk.injEq]
  constructor
  · rintro (⟨_, h, rfl, rfl⟩ | ⟨hquery, ⟨_, h, rfl, rfl⟩ | ⟨huri, ⟨_, h, rfl, rfl⟩ |
      ⟨hheader, _, h, rfl, rfl⟩⟩⟩)
    · exact .query h
    · exact .path hquery h
    · exact .header hquery huri h
    · exact .cookie hquery huri hheader h
  · rintro (h | ⟨hquery, h⟩ | ⟨hquery, huri, h⟩ | ⟨hquery, huri, hheader, h⟩)
    · exact .inl ⟨_, h, rfl, rfl⟩
    · exact .inr ⟨hquery, .inl ⟨_, h, rfl, rfl⟩⟩
    · exact .inr ⟨hquery, .inr ⟨huri, .inl ⟨_, h, rfl, rfl⟩⟩⟩
    · exact .inr ⟨hquery, .inr ⟨huri, .inr ⟨hheader, _, h, rfl, rfl⟩⟩⟩

theorem exists_binding?_iff :
    (∃ binding, tags.binding? = some binding) ↔ ∃ location, tags.has (Location.key location) := by
  simp only [has_eq_true_iff]
  constructor
  · rintro ⟨⟨location, name⟩, h⟩
    obtain ⟨location, -, h⟩ := List.exists_of_findSome?_eq_some h
    obtain ⟨name, h, -⟩ := Option.map_eq_some_iff.mp h
    exact ⟨location, name, h⟩
  · rintro ⟨location, name, h⟩
    refine Option.isSome_iff_exists.mp (List.findSome?_isSome_iff.mpr ⟨location, ?_, ?_⟩)
    · cases location <;> decide
    · rw [h]
      rfl

end FieldTags

namespace Extraction

open Descent Relation

variable (catalog : Catalog) (rules : List Rule)

/-- What a field takes in: where it embeds a model, the parameters of the model alone. -/
inductive TakesIn (field : Field) (tags : FieldTags) : List Parameter → Prop
  | model {name : Text} {parameters : List Parameter} : tags.has Tag.Key.embed = true →
    field.type.describe catalog = .composite name →
    parametersOf catalog rules field.type = .ok parameters → TakesIn field tags parameters
  | nothing : (tags.has Tag.Key.embed = true →
    ∀ name, field.type.describe catalog ≠ .composite name) → TakesIn field tags []

/-- What a field is itself: one parameter where the tags bind it. -/
inductive Gives (field : Field) (tags : FieldTags) : List Parameter → Prop
  | bound {location : Location} {name : Text} {p : Parameter} : tags.Binds location name →
    p.location = location → p.name = name →
    parameter catalog rules field tags location name = .ok p → Gives field tags [p]
  | unbound : (∀ location, tags.has (Location.key location) = false) → Gives field tags []

/-- The part of a field: what it takes in, and behind that what it is itself. -/
def Contributes (field : Field) (part : List Parameter) : Prop :=
  ∃ tags taken own, FieldTags.ofField field = .ok tags ∧ TakesIn catalog rules field tags taken ∧
    Gives catalog rules field tags own ∧ part = taken ++ own

/-- Nothing is wrong with a field apart from the model that it embeds: its tags can be read, and if
they bind it, its type has a schema that the constraints accept. -/
def IsSoundField (field : Field) : Prop :=
  ∃ tags, FieldTags.ofField field = .ok tags ∧
    ((∃ location, tags.has (Location.key location) = true) →
      ∃ plain schema, Synthesis.schemaOf catalog rules field.type = .ok plain ∧
        Rule.applyAll rules plain tags.constraints = .ok schema)

/-- The fields of a model are known, and nothing is wrong with them. -/
def IsSound (name : Text) : Prop :=
  ∃ fields, catalog.fields name = .ok fields ∧ ∀ field ∈ fields, IsSoundField catalog rules field

variable {catalog rules}

theorem name_of_parameter {field : Field} {tags : FieldTags} {location : Location} {name : Text}
    {p : Parameter} (h : parameter catalog rules field tags location name = .ok p) :
    p.location = location ∧ p.name = name := by
  obtain ⟨schema, -, rfl⟩ := parameter_eq_ok_iff.mp h
  exact ⟨rfl, rfl⟩

theorem bound_eq_ok_iff {field : Field} {tags : FieldTags} {own : List Parameter} :
    bound catalog rules field tags = .ok own ↔ Gives catalog rules field tags own := by
  unfold bound
  cases hbinding : tags.binding? with
  | none =>
    have hnone : ∀ location, tags.has (Location.key location) = false := by
      intro location
      by_contra h
      obtain ⟨binding, h⟩ := FieldTags.exists_binding?_iff.mpr ⟨location, eq_true_of_ne_false h⟩
      exact nomatch hbinding.symm.trans h
    simp only [Except.ok.injEq]
    constructor
    · rintro rfl
      exact .unbound hnone
    · rintro (⟨hbinds, -, -, -⟩ | -)
      · exact nomatch hbinding.symm.trans (FieldTags.binding?_eq_some_iff.mpr hbinds)
      · rfl
  | some binding =>
    obtain ⟨location, name⟩ := binding
    simp only [bind_eq_ok_iff]
    constructor
    · rintro ⟨p, hp, h⟩
      cases h
      obtain ⟨hlocation, hname⟩ := name_of_parameter hp
      exact .bound (FieldTags.binding?_eq_some_iff.mp hbinding) hlocation hname hp
    · rintro (⟨hbinds, -, -, hp⟩ | hnone)
      · have heq := hbinding.symm.trans (FieldTags.binding?_eq_some_iff.mpr hbinds)
        obtain ⟨rfl, rfl⟩ := Prod.mk.inj (Option.some.inj heq)
        exact ⟨_, hp, rfl⟩
      · obtain ⟨location, h⟩ := FieldTags.exists_binding?_iff.mp ⟨_, hbinding⟩
        exact nomatch h.symm.trans (hnone location)

theorem embeddedOf_eq_ok_iff {field : Field} {tags : FieldTags} {taken : List Parameter} :
    embeddedOf catalog (parametersOfModel catalog rules) field tags = .ok taken ↔
      TakesIn catalog rules field tags taken := by
  unfold embeddedOf
  cases hname : embedded? catalog field tags with
  | none =>
    simp only [Option.elim, Except.ok.injEq]
    constructor
    · rintro rfl
      refine .nothing fun hembed name hform => ?_
      exact nomatch hname.symm.trans (embedded?_eq_some_iff.mpr ⟨hembed, hform⟩)
    · rintro (⟨hembed, hform, -⟩ | -)
      · exact nomatch hname.symm.trans (embedded?_eq_some_iff.mpr ⟨hembed, hform⟩)
      · rfl
  | some name =>
    obtain ⟨hembed, hform⟩ := embedded?_eq_some_iff.mp hname
    simp only [Option.elim]
    rw [← parametersOf_composite hform]
    constructor
    · exact .model hembed hform
    · rintro (⟨-, -, h⟩ | hother)
      · exact h
      · exact absurd hform (hother hembed name)

theorem ofField_eq_ok_iff_contributes {field : Field} {part : List Parameter} :
    ofField catalog rules (parametersOfModel catalog rules) field = .ok part ↔
      Contributes catalog rules field part := by
  simp only [ofField_eq_ok_iff, embeddedOf_eq_ok_iff, bound_eq_ok_iff, Contributes,
    eq_comm (a := part)]

/-- A field gives parameters when it is sound and the model that it embeds, alone, gives some. -/
theorem exists_ofField_iff_sound {model : Text → Except Failure (List Parameter)} {field : Field} :
    (∃ part, ofField catalog rules model field = .ok part) ↔ IsSoundField catalog rules field ∧
      ∀ tags name, FieldTags.ofField field = .ok tags → tags.has Tag.Key.embed = true →
        field.type.describe catalog = .composite name → ∃ found, model name = .ok found := by
  have hschema : ∀ tags : FieldTags,
      (∃ schema, Synthesis.constrained catalog rules field.type tags.constraints = .ok schema) ↔
        ∃ plain schema, Synthesis.schemaOf catalog rules field.type = .ok plain ∧
          Rule.applyAll rules plain tags.constraints = .ok schema := by
    intro tags
    rw [exists_comm]
    exact exists_congr fun schema => bind_eq_ok_iff
  simp only [exists_ofField_iff, embedded?_eq_some_iff, hschema]
  constructor
  · rintro ⟨tags, htags, hfound, hbound⟩
    refine ⟨⟨tags, htags, fun hkey => ?_⟩, fun tags' name htags' hembed hform => ?_⟩
    · obtain ⟨binding, hbinding⟩ := FieldTags.exists_binding?_iff.mpr hkey
      exact hbound binding hbinding
    · obtain rfl := Except.ok.inj (htags.symm.trans htags')
      exact hfound name ⟨hembed, hform⟩
  · rintro ⟨⟨tags, htags, hbound⟩, hfound⟩
    refine ⟨tags, htags, fun name h => hfound tags name htags h.1 h.2, fun binding hbinding => ?_⟩
    exact hbound (FieldTags.exists_binding?_iff.mp ⟨binding, hbinding⟩)

/-! ### Cycles -/

theorem isSound_of_modelBody_eq_ok {model : Text → Except Failure (List Parameter)} {name : Text}
    {parameters : List Parameter} (h : modelBody catalog rules model name = .ok parameters) :
    IsSound catalog rules name := by
  obtain ⟨fields, hfields, hparts⟩ := Catalog.exists_gather_eq_ok_iff.mp ⟨parameters, h⟩
  exact ⟨fields, hfields, fun field hmem => (exists_ofField_iff_sound.mp (hparts field hmem)).1⟩

/-- A model that is found has found the models that it embeds. -/
theorem exists_of_modelBody_eq_ok {model : Text → Except Failure (List Parameter)} {name : Text}
    {parameters : List Parameter} (h : modelBody catalog rules model name = .ok parameters)
    {child : Text} (hchild : Embeds catalog name child) : ∃ found, model child = .ok found := by
  obtain ⟨fields, hfields, field, hmem, tags, htags, hembed, hform⟩ := hchild
  obtain ⟨fields', hfields', hparts⟩ := Catalog.exists_gather_eq_ok_iff.mp ⟨parameters, h⟩
  obtain rfl := Except.ok.inj (hfields.symm.trans hfields')
  exact (exists_ofField_iff_sound.mp (hparts field hmem)).2 tags child htags hembed hform

/-- A sound model fails only with a model that it embeds. -/
theorem exists_of_modelBody_eq_error {model : Text → Except Failure (List Parameter)}
    {name : Text} {failure : Failure} (sound : IsSound catalog rules name)
    (h : modelBody catalog rules model name = .error failure) :
    ∃ child, Embeds catalog name child ∧ model child = .error failure := by
  obtain ⟨fields, hfields, hsound⟩ := sound
  obtain ⟨field, hmem, h⟩ := Catalog.exists_field_of_gather_eq_error hfields h
  obtain ⟨tags, htags, hbound⟩ := hsound field hmem
  rcases ofField_eq_error_iff.mp h with h | ⟨tags', htags', h⟩
  · exact nomatch htags.symm.trans h
  obtain rfl := Except.ok.inj (htags.symm.trans htags')
  rcases h with ⟨child, hchild, h⟩ | ⟨-, hbinding, h⟩
  · obtain ⟨hembed, hform⟩ := embedded?_eq_some_iff.mp hchild
    exact ⟨child, ⟨_, hfields, field, hmem, tags, htags, hembed, hform⟩, h⟩
  · obtain ⟨plain, schema, hplain, hrules⟩ := hbound (FieldTags.exists_binding?_iff.mp hbinding)
    exact nomatch h.symm.trans (constrained_eq_ok hplain hrules)

/-- What is sound one by one and has no embedding that comes back to itself has parameters, and
nothing else has. -/
theorem exists_parametersOfModel_iff_acyclic {name : Text} :
    (∃ parameters, parametersOfModel catalog rules name = .ok parameters) ↔
      ∀ m, ReflTransGen (Embeds catalog) name m →
        IsSound catalog rules m ∧ ¬TransGen (Embeds catalog) m m := by
  constructor
  · rintro ⟨parameters, h⟩ m hm
    have hfound : ∃ found, parametersOfModel catalog rules m = .ok found := by
      induction hm with
      | refl => exact ⟨parameters, h⟩
      | tail _ hembeds ih =>
        obtain ⟨found, h⟩ := ih
        exact exists_of_modelBody_eq_ok ((parametersOfModel_eq_iff (settled_ok found) _).mp h)
          hembeds
    obtain ⟨found, h⟩ := hfound
    refine ⟨isSound_of_modelBody_eq_ok ((parametersOfModel_eq_iff (settled_ok found) m).mp h), ?_⟩
    have needs : ∀ model name found, modelBody catalog rules model name = .ok found →
        ∀ child, Embeds catalog name child → ∃ below, model child = .ok below :=
      fun _ _ _ h _ => exists_of_modelBody_eq_ok h
    rw [parametersOfModel_eq_run] at h
    exact not_cycle_of_run_eq_ok needs lawful Synthesis.enough_fuel h .refl
  · intro h
    refine exists_ok_of_ne_error fun failure hfailure => ?_
    rw [parametersOfModel_eq_run] at hfailure
    obtain ⟨m, -, hm, hcycle⟩ := exists_cycle_of_run_eq_error
      (fun _ _ ⟨_, hfields, _, hmem, _⟩ => Catalog.mem_names_of_field hfields hmem)
      (fun _ _ _ => exists_of_modelBody_eq_error) List.nodup_nil (List.nil_subset _)
      Synthesis.enough_fuel (List.forall_mem_nil _) (fun m hm => (h m hm).1) hfailure
    exact (h m hm).2 hcycle

/-- Parameters are the flattening of the tree that embedding makes. A type that describes a model
has parameters exactly when the fields of the model are known, each is sound, and every model that
one of them embeds has parameters when it is read alone. They are then the parts of the fields in
order: of each what it takes in, and behind it its own one. Seen as a whole, a tree of models has
parameters exactly when the models in it are sound and none of them embeds itself in the end;
a field that neither embeds nor is bound may lead anywhere. -/
theorem parametersOf_flattens (type : TypeExpr) (model : Text)
    (isModel : type.describe catalog = .composite model) :
    ((∃ parameters, parametersOf catalog rules type = .ok parameters) ↔
      ∃ fields, catalog.fields model = .ok fields ∧ ∀ field ∈ fields,
        IsSoundField catalog rules field ∧
        ∀ tags name, FieldTags.ofField field = .ok tags → tags.has Tag.Key.embed = true →
          field.type.describe catalog = .composite name →
          ∃ parameters, parametersOf catalog rules field.type = .ok parameters) ∧
    (∀ parameters, parametersOf catalog rules type = .ok parameters →
      ∃ fields parts, catalog.fields model = .ok fields ∧
        List.Forall₂ (Contributes catalog rules) fields parts ∧ parameters = parts.flatten) ∧
    ((∃ parameters, parametersOf catalog rules type = .ok parameters) ↔
      ∀ m, ReflTransGen (Embeds catalog) model m →
        IsSound catalog rules m ∧ ¬TransGen (Embeds catalog) m m) := by
  rw [parametersOf_composite isModel]
  refine ⟨?_, fun parameters h => ?_, exists_parametersOfModel_iff_acyclic⟩
  · rw [exists_parametersOfModel_iff]
    refine exists_congr fun fields => and_congr_right fun _ => forall₂_congr fun field _ => ?_
    rw [exists_ofField_iff_sound]
    refine and_congr_right fun _ => forall₅_congr fun tags name _ _ hform => ?_
    rw [parametersOf_composite hform]
  · obtain ⟨fields, parts, hfields, hparts, rfl⟩ := parametersOfModel_eq_ok_iff.mp h
    exact ⟨fields, parts, hfields,
      hparts.imp fun _ _ => ofField_eq_ok_iff_contributes.mp, rfl⟩

/-- A node that takes in a page and leads to other nodes, and a page that leads to nodes. -/
def nodes : Catalog := [
  ⟨"Page".toList, .plain,
    [⟨"limit".toList, .ofClass .int, "json:\"limit\" cookie:\"c\" query:\"limit\"".toList⟩,
      ⟨"owner".toList, .ref "Node".toList, "json:\"owner\"".toList⟩], []⟩,
  ⟨"Node".toList, .plain,
    [⟨"page".toList, .ref "Page".toList, "embed:\"\"".toList⟩,
      ⟨"next".toList, .ref "Node".toList, "json:\"next\"".toList⟩,
      ⟨"id".toList, .ofClass .str, "uri:\"id\"".toList⟩], []⟩]

theorem parametersOf_node :
    (∃ name, Synthesis.schemaOf nodes Rule.standard (.ref "Node".toList) =
      .error (.schema (.recursiveModel name))) ∧
    (∃ parameters, parametersOf nodes Rule.standard (.ref "Node".toList) = .ok parameters ∧
      parameters.map (fun p => (p.location, p.name)) =
        [(.query, "limit".toList), (.path, "id".toList)]) ∧
    ∀ m, ReflTransGen (Embeds nodes) "Node".toList m → ¬TransGen (Embeds nodes) m m := by
  have isModel : (TypeExpr.ref "Node".toList).describe nodes = .composite "Node".toList := rfl
  obtain ⟨-, -, acyclic⟩ := @parametersOf_flattens nodes Rule.standard _ _ isModel
  refine ⟨⟨_, rfl⟩, ⟨_, rfl, rfl⟩, fun m hm => ?_⟩
  exact (acyclic.mp ⟨_, rfl⟩ m hm).2

end Extraction

end RouteDoc
