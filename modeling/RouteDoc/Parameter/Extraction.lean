import RouteDoc.Parameter.Basic

/-! The parameters of a request model: one for each field bound to a part of the request, those of
embedded models in the place of the field that embeds them. -/

namespace RouteDoc.Extraction

variable (catalog : Catalog) (rules : List Rule)

/-- A parameter with what a `validate` tag says. Its schema is made again if there are constraints,
now with them. -/
def validated (type : TypeExpr) (validate : Tag) (p : Parameter) : Except Failure Parameter := do
  let p := { p with required := validate.name == "required".toList }
  let options := validate.constraints
  if options.isEmpty then return p
  else return { p with schema := ← Synthesis.constrained catalog rules type options }

/-- A parameter with the texts of its tags, which its schema gets too. -/
def withTexts (tags : FieldTags) (p : Parameter) : Parameter :=
  let p := match tags.name? Tag.Key.description with
    | some text => { p with description := text, schema := { p.schema with description := text } }
    | none => p
  let p := match tags.name? Tag.Key.default with
    | some text =>
      { p with fallback := some text, schema := { p.schema with fallback := some text } }
    | none => p
  match tags.name? Tag.Key.sample with
  | some text => { p with sample := some text, schema := { p.schema with sample := some text } }
  | none => p

/-- The parameter that a field is: its schema is first that of its type alone. -/
def parameter (field : Field) (tags : FieldTags) (location : Location) (name : Text) :
    Except Failure Parameter := do
  let p : Parameter :=
    { name, location, schema := ← Synthesis.schemaOf catalog rules field.type }
  let p ← match tags.get? Tag.Key.validate with
    | some validate => validated catalog rules field.type validate p
    | none => .ok p
  return withTexts tags p

def bound (field : Field) (tags : FieldTags) : Except Failure (List Parameter) :=
  match tags.binding? with
  | none => .ok []
  | some (location, name) => do return [← parameter catalog rules field tags location name]

/-- The parameters of a field, where `model` gives those of models: those of the model it embeds,
and its own. -/
def ofField (model : Text → Except Failure (List Parameter)) (field : Field) :
    Except Failure (List Parameter) := do
  let tags ← FieldTags.ofField field
  let embedded ←
    -- Only a model can be embedded; of other types the tag is passed over.
    match tags.has Tag.Key.embed, field.type.describe catalog with
    | true, .composite name => model name
    | _, _ => .ok []
  return embedded ++ (← bound catalog rules field tags)

/-- The parameters of a model, where the models in `opened` are being read. The fuel is the number
of models that may still be opened. -/
def ofModel : (fuel : Nat) → (opened : List Text) → Text → Except Failure (List Parameter)
  | 0, _, name => .error (.schema (.recursiveEmbed name))
  | fuel + 1, opened, name =>
    if opened.contains name then .error (.schema (.recursiveEmbed name))
    else
      match catalog.fields name with
      | .error fault => .error (.schema fault)
      | .ok fields => do
        return (← fields.mapM (ofField catalog rules (ofModel fuel (name :: opened)))).flatten

/-- The parameters of a request that a type describes. -/
def parametersOf (type : TypeExpr) : Except Failure (List Parameter) :=
  if type.isNothing then .ok []
  else
    match type.describe catalog with
    | .composite name => ofModel catalog rules (Synthesis.modelCount catalog + 1) [] name
    | _ => .error (.schema (.notModel type.shown))

end RouteDoc.Extraction
