import RouteDoc.Parameter.Extraction
import RouteDoc.Proofs.Schema.Descent

/-! Extraction as a descent: the parameters of a model are its fields' own and those of the models
they embed, each read on its own. -/

namespace RouteDoc.Extraction

open Descent

variable (catalog : Catalog) (rules : List Rule)

/-- The refusal of a model that embeds itself. -/
def refusal (name : Text) : Failure := .schema (.recursiveEmbed name)

/-- The parameters of a model, where `model` gives those of models. -/
def modelBody (model : Text → Except Failure (List Parameter)) (name : Text) :
    Except Failure (List Parameter) :=
  catalog.gather (ofField catalog rules model) List.flatten name

/-- The parameters of a model, with no model open. -/
def parametersOfModel (name : Text) : Except Failure (List Parameter) :=
  ofModel catalog rules (Synthesis.modelCount catalog + 1) [] name

/-- The model whose parameters a field takes in. -/
def embedded? (field : Field) (tags : FieldTags) : Option Text :=
  match tags.has Tag.Key.embed, field.type.describe catalog with
  | true, .composite name => some name
  | _, _ => none

/-- The parameters that a field takes in, where `model` gives those of models. -/
def embeddedOf (model : Text → Except Failure (List Parameter)) (field : Field)
    (tags : FieldTags) : Except Failure (List Parameter) :=
  (embedded? catalog field tags).elim (.ok []) model

variable {catalog rules} {model : Text → Except Failure (List Parameter)} {field : Field}

theorem ofField_eq : ofField catalog rules model field =
    FieldTags.ofField field >>= fun tags => embeddedOf catalog model field tags >>= fun embedded =>
      bound catalog rules field tags >>= fun own => .ok (embedded ++ own) := by
  unfold ofField
  cases FieldTags.ofField field with
  | error e => rfl
  | ok tags =>
    simp only [bind, Except.bind, embeddedOf, embedded?]
    cases tags.has Tag.Key.embed <;> cases field.type.describe catalog <;> rfl

theorem embedded?_eq_some_iff {tags : FieldTags} {name : Text} :
    embedded? catalog field tags = some name ↔
      tags.has Tag.Key.embed = true ∧ field.type.describe catalog = .composite name := by
  unfold embedded?
  split
  · next hembed hform => simp [hembed, hform]
  · next h =>
    simp only [reduceCtorEq, false_iff, not_and]
    exact h name

theorem embeddedOf_eq_error_iff {tags : FieldTags} {failure : Failure} :
    embeddedOf catalog model field tags = .error failure ↔
      ∃ name, embedded? catalog field tags = some name ∧ model name = .error failure := by
  unfold embeddedOf
  cases embedded? catalog field tags <;> simp

/-- The parameter that the tags of a field make of its schema. -/
def annotated (tags : FieldTags) (location : Location) (name : Text) (schema : Schema) :
    Parameter where
  name := name
  location := location
  required := tags.isRequired
  description := (tags.name? Tag.Key.description).getD []
  schema := tags.annotate schema
  fallback := tags.name? Tag.Key.default
  sample := tags.name? Tag.Key.sample

theorem withTexts_eq (tags : FieldTags) (location : Location) (name : Text) (schema : Schema) :
    withTexts tags { name, location, required := tags.isRequired, schema } =
      annotated tags location name schema := by
  unfold withTexts annotated FieldTags.annotate
  cases tags.name? Tag.Key.description <;> cases tags.name? Tag.Key.default <;>
    cases tags.name? Tag.Key.sample <;> cases schema <;> rfl

theorem validated_eq {type : TypeExpr} {plain : Schema}
    (h : Synthesis.schemaOf catalog rules type = .ok plain) (validate : Tag) (location : Location)
    (name : Text) :
    validated catalog rules type validate { name, location, schema := plain } =
      (Synthesis.constrained catalog rules type validate.constraints).map fun schema =>
        { name, location, required := validate.name == "required".toList, schema } := by
  unfold validated
  dsimp only
  split
  · next hempty =>
    rw [List.isEmpty_iff.mp hempty, Synthesis.constrained, h]
    rfl
  · cases Synthesis.constrained catalog rules type validate.constraints <;> rfl

/-- Making the schema again for the constraints and setting the texts one by one gives what a body
has for the field: the schema with its constraints, annotated. -/
theorem parameter_eq (tags : FieldTags) (location : Location) (name : Text) :
    parameter catalog rules field tags location name =
      (Synthesis.constrained catalog rules field.type tags.constraints).map
        (annotated tags location name) := by
  have htexts := withTexts_eq tags location name
  unfold parameter
  cases hplain : Synthesis.schemaOf catalog rules field.type with
  | error failure =>
    rw [Synthesis.constrained, hplain]
    rfl
  | ok plain =>
    cases hvalidate : tags.get? Tag.Key.validate with
    | none =>
      have hoptions : tags.constraints = [] := by rw [FieldTags.constraints, hvalidate]; rfl
      have hrequired : tags.isRequired = false := by
        rw [FieldTags.isRequired, FieldTags.name?, hvalidate]
        rfl
      rw [hrequired] at htexts
      rw [hoptions, Synthesis.constrained, hplain]
      exact congrArg Except.ok (htexts plain)
    | some validate =>
      have hoptions : tags.constraints = validate.constraints := by
        rw [FieldTags.constraints, hvalidate]
        rfl
      have hrequired : tags.isRequired = (validate.name == "required".toList) := by
        rw [FieldTags.isRequired, FieldTags.name?, hvalidate]
        rfl
      rw [hrequired] at htexts
      show (validated catalog rules field.type validate { name, location, schema := plain } >>=
        fun p => .ok (withTexts tags p)) = _
      rw [validated_eq hplain, hoptions]
      cases Synthesis.constrained catalog rules field.type validate.constraints with
      | error failure => rfl
      | ok schema => exact congrArg Except.ok (htexts schema)

theorem parameter_eq_ok_iff {tags : FieldTags} {location : Location} {name : Text}
    {p : Parameter} : parameter catalog rules field tags location name = .ok p ↔ ∃ schema,
      Synthesis.constrained catalog rules field.type tags.constraints = .ok schema ∧
        annotated tags location name schema = p := by
  rw [parameter_eq, map_eq_ok_iff]

theorem bound_eq_error_iff {tags : FieldTags} {failure : Failure} :
    bound catalog rules field tags = .error failure ↔ (∃ binding, tags.binding? = some binding) ∧
      Synthesis.constrained catalog rules field.type tags.constraints = .error failure := by
  unfold bound
  cases tags.binding? with
  | none => simp
  | some binding => simp [parameter_eq, bind_eq_error_iff, map_eq_error_iff, pure, Except.pure]

theorem ofField_eq_ok_iff {parameters : List Parameter} :
    ofField catalog rules model field = .ok parameters ↔ ∃ tags embedded own,
      FieldTags.ofField field = .ok tags ∧ embeddedOf catalog model field tags = .ok embedded ∧
      bound catalog rules field tags = .ok own ∧ embedded ++ own = parameters := by
  simp only [ofField_eq, bind_eq_ok_iff, Except.ok.injEq]
  constructor
  · rintro ⟨tags, htags, embedded, hembedded, own, hown, h⟩
    exact ⟨tags, embedded, own, htags, hembedded, hown, h⟩
  · rintro ⟨tags, embedded, own, htags, hembedded, hown, h⟩
    exact ⟨tags, htags, embedded, hembedded, own, hown, h⟩

/-- A field fails with its tags, with the model that it embeds, or with its own parameter. -/
theorem ofField_eq_error_iff {failure : Failure} :
    ofField catalog rules model field = .error failure ↔
      FieldTags.ofField field = .error failure ∨ ∃ tags, FieldTags.ofField field = .ok tags ∧
        ((∃ name, embedded? catalog field tags = some name ∧ model name = .error failure) ∨
        (∃ embedded, embeddedOf catalog model field tags = .ok embedded) ∧
          (∃ binding, tags.binding? = some binding) ∧
          Synthesis.constrained catalog rules field.type tags.constraints = .error failure) := by
  simp only [ofField_eq, bind_eq_error_iff, embeddedOf_eq_error_iff, bound_eq_error_iff,
    reduceCtorEq, and_false, exists_false, or_false, exists_and_right]

theorem exists_embeddedOf_iff {tags : FieldTags} :
    (∃ found, embeddedOf catalog model field tags = .ok found) ↔
      ∀ name, embedded? catalog field tags = some name → ∃ found, model name = .ok found := by
  unfold embeddedOf
  cases embedded? catalog field tags <;> simp

theorem exists_bound_iff {tags : FieldTags} :
    (∃ own, bound catalog rules field tags = .ok own) ↔
      ∀ binding, tags.binding? = some binding → ∃ schema,
        Synthesis.constrained catalog rules field.type tags.constraints = .ok schema := by
  unfold bound
  cases tags.binding? with
  | none => simp
  | some binding => simp [parameter_eq, bind_eq_ok_iff, map_eq_ok_iff, pure, Except.pure]

/-- A field gives parameters when its tags can be read, the model that it embeds gives some, and its
own schema is found if it is bound. -/
theorem exists_ofField_iff :
    (∃ part, ofField catalog rules model field = .ok part) ↔
      ∃ tags, FieldTags.ofField field = .ok tags ∧
        (∀ name, embedded? catalog field tags = some name → ∃ found, model name = .ok found) ∧
        ∀ binding, tags.binding? = some binding → ∃ schema,
          Synthesis.constrained catalog rules field.type tags.constraints = .ok schema := by
  simp only [ofField_eq_ok_iff, ← exists_embeddedOf_iff, ← exists_bound_iff]
  constructor
  · rintro ⟨_, tags, found, own, htags, hfound, hown, -⟩
    exact ⟨tags, htags, ⟨found, hfound⟩, own, hown⟩
  · rintro ⟨tags, htags, ⟨found, hfound⟩, own, hown⟩
    exact ⟨_, tags, found, own, htags, hfound, hown, rfl⟩

theorem ofModel_eq_run (fuel : Nat) (opened : List Text) (name : Text) :
    ofModel catalog rules fuel opened name =
      run refusal (modelBody catalog rules) fuel opened name := by
  induction fuel generalizing opened name with
  | zero => rfl
  | succ fuel ih =>
    have hmodel : ofModel catalog rules fuel (name :: opened) =
        run refusal (modelBody catalog rules) fuel (name :: opened) := funext fun n => ih _ n
    simp only [ofModel, run, hmodel, modelBody, Catalog.gather]
    split
    · rfl
    · cases catalog.fields name with
      | error fault => rfl
      | ok fields =>
        dsimp only
        cases fields.mapM (ofField catalog rules _) <;> rfl

theorem embeddedOf_congr {f g : Text → Except Failure (List Parameter)} {tags : FieldTags}
    (h : ∀ name, embedded? catalog field tags = some name → f name = g name) :
    embeddedOf catalog f field tags = embeddedOf catalog g field tags := by
  unfold embeddedOf
  cases hname : embedded? catalog field tags with
  | none => rfl
  | some name => exact h name hname

theorem ofField_congr {f g : Text → Except Failure (List Parameter)}
    (h : ∀ tags name, FieldTags.ofField field = .ok tags →
      embedded? catalog field tags = some name → f name = g name) :
    ofField catalog rules f field = ofField catalog rules g field := by
  rw [ofField_eq, ofField_eq]
  cases htags : FieldTags.ofField field with
  | error e => rfl
  | ok tags =>
    simp only [bind, Except.bind]
    rw [embeddedOf_congr fun name => h tags name htags]

theorem embeddedOf_below {f g : Text → Except Failure (List Parameter)}
    (h : ∀ n, Below refusal (f n) (g n)) (field : Field) (tags : FieldTags) :
    Below refusal (embeddedOf catalog f field tags) (embeddedOf catalog g field tags) := by
  unfold embeddedOf
  cases embedded? catalog field tags with
  | none => exact .refl _
  | some name => exact h name

theorem ofField_below {f g : Text → Except Failure (List Parameter)}
    (h : ∀ n, Below refusal (f n) (g n)) (field : Field) :
    Below refusal (ofField catalog rules f field) (ofField catalog rules g field) := by
  rw [ofField_eq, ofField_eq]
  exact Below.bind (.refl _) fun tags =>
    Below.bind (embeddedOf_below h field tags) fun embedded => .refl _

theorem lawful : Lawful refusal (modelBody catalog rules) (catalog.map Model.name) :=
  Catalog.gather_lawful fun _ _ h _ field => ofField_below h field

theorem parametersOfModel_eq_run : parametersOfModel catalog rules =
    run refusal (modelBody catalog rules) (Synthesis.modelCount catalog + 1) [] :=
  funext fun n => ofModel_eq_run _ _ n

/-- Refusals apart, a model has the parameters that its fields give when each is read on its own. -/
theorem parametersOfModel_eq_iff {x : Except Failure (List Parameter)}
    (settled : Settled refusal x) (name : Text) : parametersOfModel catalog rules name = x ↔
      modelBody catalog rules (parametersOfModel catalog rules) name = x := by
  rw [parametersOfModel_eq_run]
  exact lawful.run_eq_iff_body Synthesis.enough_fuel settled name

/-- A model has parameters exactly when its fields are known and give some, and they are those of
its fields in order. -/
theorem parametersOfModel_eq_ok_iff {name : Text} {parameters : List Parameter} :
    parametersOfModel catalog rules name = .ok parameters ↔
      ∃ fields parts, catalog.fields name = .ok fields ∧
        List.Forall₂ (fun field part =>
          ofField catalog rules (parametersOfModel catalog rules) field = .ok part) fields parts ∧
        parts.flatten = parameters := by
  rw [parametersOfModel_eq_iff (settled_ok parameters), modelBody, Catalog.gather_eq_ok_iff]

theorem exists_parametersOfModel_iff {name : Text} :
    (∃ parameters, parametersOfModel catalog rules name = .ok parameters) ↔
      ∃ fields, catalog.fields name = .ok fields ∧ ∀ field ∈ fields, ∃ part,
        ofField catalog rules (parametersOfModel catalog rules) field = .ok part := by
  have hbody : (∃ parameters, parametersOfModel catalog rules name = .ok parameters) ↔
      ∃ parameters, modelBody catalog rules (parametersOfModel catalog rules) name =
        .ok parameters :=
    exists_congr fun parameters => parametersOfModel_eq_iff (settled_ok parameters) name
  rw [hbody]
  exact Catalog.exists_gather_eq_ok_iff

theorem parametersOfModel_induction (P : Text → Except Failure (List Parameter) → Prop)
    (step : ∀ name x model,
      (∀ n, Below refusal (model n) (parametersOfModel catalog rules n)) →
      (∀ n y, Settled refusal y → model n = y → P n y) → Settled refusal x →
      modelBody catalog rules model name = x → P name x)
    {name : Text} {x : Except Failure (List Parameter)} (settled : Settled refusal x)
    (h : parametersOfModel catalog rules name = x) : P name x := by
  rw [parametersOfModel_eq_run] at step h
  exact lawful.run_induction Synthesis.enough_fuel step settled h

/-- A request without a model has no parameters, and one with a model those of the model. -/
theorem parametersOf_eq (type : TypeExpr) : parametersOf catalog rules type =
    if type.isNothing then .ok []
    else match type.describe catalog with
      | .composite name => parametersOfModel catalog rules name
      | _ => .error (.schema (.notModel type.shown)) := rfl

theorem mem_bound {tags : FieldTags} {own : List Parameter} {p : Parameter}
    (h : bound catalog rules field tags = .ok own) (hp : p ∈ own) :
    ∃ location name, parameter catalog rules field tags location name = .ok p := by
  unfold bound at h
  cases hbinding : tags.binding? with
  | none =>
    simp only [hbinding, Except.ok.injEq] at h
    exact nomatch h ▸ hp
  | some binding =>
    simp only [hbinding, bind_eq_ok_iff] at h
    obtain ⟨q, hq, h⟩ := h
    cases h
    exact ⟨_, _, List.mem_singleton.mp hp ▸ hq⟩

/-- Every parameter of a model is that of a field, of the model or of one below it. -/
theorem exists_field_of_mem {name : Text} {parameters : List Parameter} {p : Parameter}
    (h : parametersOfModel catalog rules name = .ok parameters) (hp : p ∈ parameters) :
    ∃ field tags location name, catalog.HasField field tags ∧
      parameter catalog rules field tags location name = .ok p := by
  refine parametersOfModel_induction
    (fun _ x => ∀ ps, x = .ok ps → p ∈ ps → ∃ field tags location name,
      catalog.HasField field tags ∧ parameter catalog rules field tags location name = .ok p)
    (fun name x model _ found _ hx ps hps hmem => ?_) (settled_ok parameters) h parameters rfl hp
  subst hps
  obtain ⟨fields, parts, hfields, hparts, rfl⟩ := Catalog.gather_eq_ok_iff.mp hx
  obtain ⟨part, hpart, hmem⟩ := List.mem_flatten.mp hmem
  obtain ⟨field, hin, hfield⟩ := exists_mem_of_forall₂ hparts hpart
  obtain ⟨tags, embedded, own, htags, hembedded, hown, rfl⟩ := ofField_eq_ok_iff.mp hfield
  rcases List.mem_append.mp hmem with hmem | hmem
  · unfold embeddedOf at hembedded
    cases hname : embedded? catalog field tags with
    | none =>
      simp only [hname, Option.elim, Except.ok.injEq] at hembedded
      exact nomatch hembedded ▸ hmem
    | some n =>
      rw [hname] at hembedded
      exact found n (.ok embedded) (settled_ok embedded) hembedded embedded rfl hmem
  · obtain ⟨location, name, hparameter⟩ := mem_bound hown hmem
    exact ⟨field, tags, location, name, ⟨_, fields, hfields, hin, htags⟩, hparameter⟩

/-- The parameters of a request are those of its model. -/
theorem parametersOf_eq_ok {type : TypeExpr} {parameters : List Parameter}
    (h : parametersOf catalog rules type = .ok parameters) : parameters = [] ∨
      ∃ name, type.describe catalog = .composite name ∧
        parametersOfModel catalog rules name = .ok parameters := by
  rw [parametersOf_eq] at h
  split at h
  · exact .inl (Except.ok.inj h).symm
  · split at h
    · next name hname => exact .inr ⟨name, hname, h⟩
    · exact nomatch h

end RouteDoc.Extraction
