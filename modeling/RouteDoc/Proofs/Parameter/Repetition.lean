import Mathlib.Data.List.Nodup
import RouteDoc.Proofs.Parameter.Flattening

/-! Repeated parameters. Every place at which a field binds a name, in a model or in the models
below it that it embeds, gives one parameter. Nothing keeps two places from binding one name of one
part of the request, as a body keeps its properties apart, so the parameters of a model are distinct
exactly when no two of its places bind alike. -/

namespace RouteDoc

/-- The part of the request that holds a parameter, and its name there. -/
def Parameter.binding (p : Parameter) : Location × Text := (p.location, p.name)

namespace Extraction

open Descent

variable (catalog : Catalog) (rules : List Rule)

/-- A field binds a name at a place: where it stands itself, or at a place of the model that it
embeds, which is given by the number of a field of that model and a place of this field. -/
inductive BindsAt : Field → List Nat → Location × Text → Prop
  | own {field : Field} {tags : FieldTags} {location : Location} {name : Text} :
    FieldTags.ofField field = .ok tags → tags.Binds location name →
    BindsAt field [] (location, name)
  | embedded {field inner : Field} {tags : FieldTags} {child : Text} {fields : List Field}
    {i : Nat} {place : List Nat} {binding : Location × Text} :
    FieldTags.ofField field = .ok tags → tags.has Tag.Key.embed = true →
    field.type.describe catalog = .composite child → catalog.fields child = .ok fields →
    fields[i]? = some inner → BindsAt inner place binding → BindsAt field (i :: place) binding

/-- One of some fields binds a name at a place, which begins with the number of the field. -/
def BindsIn (fields : List Field) : List Nat → Location × Text → Prop
  | [], _ => False
  | i :: place, binding => ∃ field, fields[i]? = some field ∧ BindsAt catalog field place binding

/-- The same place behind one more field. -/
def behind : List Nat → List Nat
  | [] => []
  | i :: place => (i + 1) :: place

variable {catalog rules}

theorem behind_injective : Function.Injective behind := by
  intro place other h
  cases place <;> cases other <;> simp_all [behind]

/-- A place of some fields is one of the first, or one of the others. -/
theorem bindsIn_cons_iff {field : Field} {fields : List Field} {place : List Nat}
    {binding : Location × Text} : BindsIn catalog (field :: fields) place binding ↔
      (∃ q, 0 :: q = place ∧ BindsAt catalog field q binding) ∨
        ∃ q, behind q = place ∧ BindsIn catalog fields q binding := by
  constructor
  · intro h
    match place, h with
    | 0 :: place, ⟨inner, hinner, h⟩ =>
      obtain rfl : field = inner := Option.some.inj hinner
      exact .inl ⟨place, rfl, h⟩
    | (i + 1) :: place, ⟨inner, hinner, h⟩ => exact .inr ⟨i :: place, rfl, inner, hinner, h⟩
  · rintro (⟨q, rfl, h⟩ | ⟨_ | ⟨i, q⟩, rfl, h⟩)
    · exact ⟨field, rfl, h⟩
    · exact h
    · exact h

/-- A place of a field is the field itself, or one of the model that it embeds. -/
theorem bindsAt_iff {field : Field} {tags : FieldTags} (htags : FieldTags.ofField field = .ok tags)
    {place : List Nat} {binding : Location × Text} : BindsAt catalog field place binding ↔
      (∃ child fields, embedded? catalog field tags = some child ∧
        catalog.fields child = .ok fields ∧ BindsIn catalog fields place binding) ∨
      place = [] ∧ tags.binding? = some binding := by
  simp only [embedded?_eq_some_iff]
  constructor
  · rintro (⟨htags', hbinds⟩ | ⟨htags', hembed, hform, hfields, hinner, h⟩)
    all_goals obtain rfl := Except.ok.inj (htags.symm.trans htags')
    · exact .inr ⟨rfl, FieldTags.binding?_eq_some_iff.mpr hbinds⟩
    · exact .inl ⟨_, _, ⟨hembed, hform⟩, hfields, _, hinner, h⟩
  · rintro (⟨child, fields, ⟨hembed, hform⟩, hfields, h⟩ | ⟨rfl, hbinding⟩)
    · match place, h with
      | i :: place, ⟨inner, hinner, h⟩ => exact .embedded htags hembed hform hfields hinner h
    · exact .own htags (FieldTags.binding?_eq_some_iff.mp hbinding)

/-! ### One parameter for each place -/

/-- Parameters stand for the places at which names are bound: one for each place, with the name that
is bound there. -/
def StandFor (bindsAt : List Nat → Location × Text → Prop) (parameters : List Parameter) : Prop :=
  ∃ entries : List (List Nat × Location × Text), (entries.map Prod.fst).Nodup ∧
    entries.map Prod.snd = parameters.map Parameter.binding ∧
    ∀ place binding, bindsAt place binding ↔ (place, binding) ∈ entries

namespace StandFor

variable {bindsAt other : List Nat → Location × Text → Prop} {parameters more : List Parameter}

theorem congr (h : StandFor bindsAt parameters)
    (same : ∀ place binding, other place binding ↔ bindsAt place binding) :
    StandFor other parameters := by
  obtain ⟨entries, hplaces, hbindings, hentries⟩ := h
  exact ⟨entries, hplaces, hbindings, fun place binding =>
    (same place binding).trans (hentries place binding)⟩

theorem nil (none : ∀ place binding, ¬bindsAt place binding) : StandFor bindsAt [] :=
  ⟨[], List.nodup_nil, rfl, fun place binding => by simp [none place binding]⟩

theorem map (h : StandFor bindsAt parameters) {move : List Nat → List Nat}
    (injective : Function.Injective move) :
    StandFor (fun place binding => ∃ q, move q = place ∧ bindsAt q binding) parameters := by
  obtain ⟨entries, hplaces, hbindings, hentries⟩ := h
  refine ⟨entries.map (Prod.map move id), ?_, ?_, fun place binding => ?_⟩
  · have hfst : (entries.map (Prod.map move id)).map Prod.fst =
        (entries.map Prod.fst).map move := by
      rw [List.map_map, List.map_map]
      rfl
    rw [hfst]
    exact hplaces.map_on fun _ _ _ _ heq => injective heq
  · rw [← hbindings, List.map_map]
    rfl
  · simp only [hentries, List.mem_map]
    constructor
    · rintro ⟨q, rfl, hmem⟩
      exact ⟨(q, binding), hmem, rfl⟩
    · rintro ⟨⟨q, _⟩, hmem, heq⟩
      obtain ⟨rfl, rfl⟩ := Prod.mk.inj heq
      exact ⟨q, rfl, hmem⟩

theorem append (h : StandFor bindsAt parameters) (hmore : StandFor other more)
    (apart : ∀ place binding binding', bindsAt place binding → ¬other place binding') :
    StandFor (fun place binding => bindsAt place binding ∨ other place binding)
      (parameters ++ more) := by
  obtain ⟨entries, hplaces, hbindings, hentries⟩ := h
  obtain ⟨entries', hplaces', hbindings', hentries'⟩ := hmore
  refine ⟨entries ++ entries', ?_, by simp [hbindings, hbindings'], fun place binding => ?_⟩
  · rw [List.map_append, List.nodup_append]
    refine ⟨hplaces, hplaces', fun place hplace place' hplace' heq => ?_⟩
    obtain ⟨⟨_, binding⟩, hmem, rfl⟩ := List.mem_map.mp hplace
    obtain ⟨⟨_, binding'⟩, hmem', rfl⟩ := List.mem_map.mp hplace'
    obtain rfl : _ = _ := heq
    exact apart _ _ _ ((hentries _ _).mpr hmem) ((hentries' _ _).mpr hmem')
  · show _ ∨ _ ↔ _
    rw [List.mem_append, hentries, hentries']

/-- What is bound at some place is there as a parameter, and nothing else is. -/
theorem mem_iff (h : StandFor bindsAt parameters) {binding : Location × Text} :
    binding ∈ parameters.map Parameter.binding ↔ ∃ place, bindsAt place binding := by
  obtain ⟨entries, -, hbindings, hentries⟩ := h
  rw [← hbindings, List.mem_map]
  constructor
  · rintro ⟨⟨place, _⟩, hmem, rfl⟩
    exact ⟨place, (hentries _ _).mpr hmem⟩
  · rintro ⟨place, hplace⟩
    exact ⟨_, (hentries _ _).mp hplace, rfl⟩

/-- Parameters are distinct exactly when no two places bind alike. -/
theorem nodup_iff (h : StandFor bindsAt parameters) :
    (parameters.map Parameter.binding).Nodup ↔ ∀ place place' binding,
      bindsAt place binding → bindsAt place' binding → place = place' := by
  obtain ⟨entries, hplaces, hbindings, hentries⟩ := h
  rw [← hbindings]
  simp only [hentries]
  constructor
  · intro distinct place place' binding hplace hplace'
    exact (Prod.mk.inj (List.inj_on_of_nodup_map distinct hplace hplace' rfl)).1
  · intro same
    refine hplaces.of_map.map_on ?_
    rintro ⟨place, binding⟩ hplace ⟨place', _⟩ hplace' rfl
    rw [same place place' binding hplace hplace']

end StandFor

theorem standFor_of_bound {field : Field} {tags : FieldTags} {own : List Parameter}
    (h : bound catalog rules field tags = .ok own) :
    StandFor (fun place binding => place = [] ∧ tags.binding? = some binding) own := by
  unfold bound at h
  cases hbinding : tags.binding? with
  | none =>
    rw [hbinding] at h
    cases h
    exact .nil fun _ _ ⟨_, hnone⟩ => nomatch hnone
  | some binding =>
    simp only [hbinding, bind_eq_ok_iff] at h
    obtain ⟨p, hp, h⟩ := h
    cases h
    obtain ⟨hlocation, hname⟩ := name_of_parameter hp
    have hp : p.binding = binding := by rw [Parameter.binding, hlocation, hname]
    refine ⟨[([], binding)], List.nodup_singleton _, by rw [← hp]; rfl, fun place other => ?_⟩
    show place = [] ∧ some binding = some other ↔ _
    rw [List.mem_singleton, Prod.mk.injEq, Option.some.injEq, eq_comm (a := other)]

section

variable {model : Text → Except Failure (List Parameter)}
  (found : ∀ child below, model child = .ok below →
    ∃ fields, catalog.fields child = .ok fields ∧ StandFor (BindsIn catalog fields) below)
include found

theorem standFor_of_embeddedOf {field : Field} {tags : FieldTags} {taken : List Parameter}
    (h : embeddedOf catalog model field tags = .ok taken) :
    StandFor (fun place binding => ∃ child fields, embedded? catalog field tags = some child ∧
      catalog.fields child = .ok fields ∧ BindsIn catalog fields place binding) taken := by
  unfold embeddedOf at h
  cases hchild : embedded? catalog field tags with
  | none =>
    rw [hchild] at h
    cases h
    exact .nil fun _ _ ⟨_, _, hsome, _⟩ => nomatch hsome
  | some child =>
    rw [hchild] at h
    obtain ⟨fields, hfields, hbelow⟩ := found child taken h
    refine hbelow.congr fun place binding => ⟨?_, fun hbinds => ⟨_, _, rfl, hfields, hbinds⟩⟩
    rintro ⟨_, fields', hsame, hfields', hbinds⟩
    obtain rfl := Option.some.inj hsame
    obtain rfl := Except.ok.inj (hfields.symm.trans hfields')
    exact hbinds

/-- The parameters of a field stand for its places where those of models do. -/
theorem standFor_of_ofField {field : Field} {part : List Parameter}
    (h : ofField catalog rules model field = .ok part) : StandFor (BindsAt catalog field) part := by
  obtain ⟨tags, taken, own, htags, htaken, hown, rfl⟩ := ofField_eq_ok_iff.mp h
  refine ((standFor_of_embeddedOf found htaken).append (standFor_of_bound hown) ?_).congr
    fun _ _ => bindsAt_iff htags
  -- A place below the field is behind a number, and the field itself is at none.
  rintro place binding binding' ⟨_, _, _, _, hbelow⟩ ⟨rfl, -⟩
  exact hbelow

theorem standFor_of_forall₂ {fields : List Field} {parts : List (List Parameter)}
    (h : List.Forall₂ (fun field part => ofField catalog rules model field = .ok part)
      fields parts) : StandFor (BindsIn catalog fields) parts.flatten := by
  induction h with
  | nil =>
    refine .nil fun place binding => ?_
    match place with
    | [] => exact id
    | _ :: _ => exact fun ⟨_, hnone, _⟩ => nomatch hnone
  | @cons field part fields parts hpart _ ih =>
    have hcons : Function.Injective (List.cons 0) := List.cons_injective
    have hfirst := (standFor_of_ofField found hpart).map hcons
    refine (hfirst.append (ih.map behind_injective) ?_).congr fun _ _ => bindsIn_cons_iff
    rintro _ binding binding' ⟨q, rfl, -⟩ ⟨_ | _, hbehind, -⟩ <;> exact nomatch hbehind

end

/-- The parameters of a model stand for the places at which its fields bind names. -/
theorem standFor_of_parametersOfModel {name : Text} {parameters : List Parameter}
    (h : parametersOfModel catalog rules name = .ok parameters) :
    ∃ fields, catalog.fields name = .ok fields ∧ StandFor (BindsIn catalog fields) parameters := by
  refine parametersOfModel_induction
    (fun name x => ∀ parameters, x = .ok parameters → ∃ fields,
      catalog.fields name = .ok fields ∧ StandFor (BindsIn catalog fields) parameters)
    (fun name x model _ found _ hx parameters hparameters => ?_) (settled_ok parameters) h
    parameters rfl
  subst hparameters
  obtain ⟨fields, parts, hfields, hparts, rfl⟩ := Catalog.gather_eq_ok_iff.mp hx
  exact ⟨fields, hfields, standFor_of_forall₂
    (fun child below hbelow => found child _ (settled_ok below) hbelow below rfl) hparts⟩

/-- A request of a type binds a name at a place: its type is a model, and the model's fields do. -/
def RequestBinds (catalog : Catalog) (type : TypeExpr) (place : List Nat)
    (binding : Location × Text) : Prop :=
  ∃ model fields, type.describe catalog = .composite model ∧
    catalog.fields model = .ok fields ∧ BindsIn catalog fields place binding

theorem standFor_of_parametersOf {type : TypeExpr} {parameters : List Parameter}
    (h : parametersOf catalog rules type = .ok parameters) :
    StandFor (RequestBinds catalog type) parameters := by
  by_cases hmodel : ∃ model, type.describe catalog = .composite model
  · obtain ⟨model, isModel⟩ := hmodel
    rw [parametersOf_composite isModel] at h
    obtain ⟨fields, hfields, hstand⟩ := standFor_of_parametersOfModel h
    refine hstand.congr fun place binding => ⟨?_, fun hbinds => ⟨_, _, isModel, hfields, hbinds⟩⟩
    rintro ⟨_, fields', isModel', hfields', hbinds⟩
    obtain rfl := Descriptor.composite.inj (isModel.symm.trans isModel')
    obtain rfl := Except.ok.inj (hfields.symm.trans hfields')
    exact hbinds
  · rcases parametersOf_eq_ok h with rfl | ⟨model, isModel, -⟩
    · exact .nil fun _ _ ⟨model, _, isModel, _⟩ => hmodel ⟨model, isModel⟩
    · exact absurd ⟨model, isModel⟩ hmodel

/-- A request has one parameter for each place at which its model, or a model that it embeds at any
depth, binds a field. So no two parameters have one name and one location exactly when no two places
bind alike; nothing makes the outer field win. The body does: the properties of a model's schema are
always distinct. -/
theorem parametersOf_distinct_iff {type : TypeExpr} {parameters : List Parameter}
    (h : parametersOf catalog rules type = .ok parameters) :
    ((parameters.map Parameter.binding).Nodup ↔ ∀ place place' binding,
      RequestBinds catalog type place binding → RequestBinds catalog type place' binding →
      place = place') ∧
    (∀ binding, binding ∈ parameters.map Parameter.binding ↔
      ∃ place, RequestBinds catalog type place binding) ∧
    ∀ model schema, type.describe catalog = .composite model →
      Synthesis.schemaOf catalog rules type = .ok schema →
      (Entries.keys schema.properties).Nodup := by
  have hstand := standFor_of_parametersOf h
  refine ⟨hstand.nodup_iff, fun binding => hstand.mem_iff, fun model schema isModel hschema => ?_⟩
  rw [Synthesis.schemaOf_composite isModel] at hschema
  obtain ⟨_, shares, -, -, rfl⟩ := Synthesis.schemaOfModel_eq_ok_iff.mp hschema
  rw [Share.keys_collect]
  exact nodup_eraseDups _

/-- A page that bounds the number of results, a listing that embeds it and binds another name, and a
search that embeds it and binds the same name again. -/
def paging : Catalog := [
  ⟨"Page".toList, .plain,
    [⟨"limit".toList, .ofClass .int, "json:\"limit\" query:\"limit\"".toList⟩], []⟩,
  ⟨"Listing".toList, .plain,
    [⟨"page".toList, .ref "Page".toList, "embed:\"\"".toList⟩,
      ⟨"order".toList, .ofClass .str, "json:\"order\" query:\"order\"".toList⟩], []⟩,
  ⟨"Search".toList, .plain,
    [⟨"page".toList, .ref "Page".toList, "embed:\"\"".toList⟩,
      ⟨"limit".toList, .ofClass .int,
        "json:\"limit\" query:\"limit\" description:\"At most.\"".toList⟩], []⟩]

theorem parametersOf_listing :
    ∃ parameters, parametersOf paging Rule.standard (.ref "Listing".toList) = .ok parameters ∧
      (parameters.map Parameter.binding).Nodup ∧ ∀ place place' binding,
        RequestBinds paging (.ref "Listing".toList) place binding →
        RequestBinds paging (.ref "Listing".toList) place' binding → place = place' := by
  obtain ⟨parameters, h, hbindings⟩ : ∃ parameters,
      parametersOf paging Rule.standard (.ref "Listing".toList) = .ok parameters ∧
      parameters.map Parameter.binding = [(.query, "limit".toList), (.query, "order".toList)] :=
    ⟨_, rfl, rfl⟩
  have distinct : (parameters.map Parameter.binding).Nodup := by
    rw [hbindings]
    decide
  exact ⟨parameters, h, distinct, (parametersOf_distinct_iff h).1.mp distinct⟩

/-- A search has the limit of the page and its own, although its body has one property for both,
with the description that the search gives. -/
theorem parametersOf_search :
    (∃ parameters, parametersOf paging Rule.standard (.ref "Search".toList) = .ok parameters ∧
      parameters.map Parameter.binding = [(.query, "limit".toList), (.query, "limit".toList)] ∧
      ¬(parameters.map Parameter.binding).Nodup) ∧
    ∃ schema, Synthesis.schemaOf paging Rule.standard (.ref "Search".toList) = .ok schema ∧
      schema.properties.map (fun p => (p.1, p.2.description)) =
        [("limit".toList, "At most.".toList)] := by
  have hbindings : ∃ parameters,
      parametersOf paging Rule.standard (.ref "Search".toList) = .ok parameters ∧
      parameters.map Parameter.binding = [(.query, "limit".toList), (.query, "limit".toList)] :=
    ⟨_, rfl, rfl⟩
  obtain ⟨parameters, h, hbindings⟩ := hbindings
  refine ⟨⟨parameters, h, hbindings, ?_⟩, _, rfl, rfl⟩
  rw [hbindings]
  decide

end Extraction

end RouteDoc
