import RouteDoc.Entries
import RouteDoc.Model.Descriptor
import RouteDoc.Schema.Rule

/-! Schemas of types: the form of a value decides the schema, and the tags of the fields of a
model name its properties and constrain them. A model that contains itself has no schema. -/

namespace RouteDoc

/-- The schema of a single value. Widths of 32 and 64 bits are formats; a value without sign has the
least value zero. -/
def Primitive.schema (p : Primitive) : Schema :=
  match p.kind with
  | .integer =>
    { type := .integer
      format := if p.bits = some 32 then "int32".toList else if p.bits = some 64 then
        "int64".toList else []
      minimum := if p.signed then none else some (.whole 0) }
  | .number => { type := .number }
  | .boolean => { type := .boolean }
  | .bytes => { type := .string, format := "byte".toList }
  | .datetime => { type := .string, format := "date-time".toList }
  | .file => { type := .string, format := "binary".toList }
  | .string => { type := .string }

/-- The schema of a form, where `model` gives the schemas of models. -/
def Descriptor.schema (model : Text → Except Failure Schema) :
    Descriptor → Except Failure Schema
  | .primitive p => .ok p.schema
  | .composite name => model name
  | .sequence element => do return Schema.array (← element.schema model)
  | .mapping | .unclassified => .ok Schema.object

namespace FieldTags

def ofField (field : Field) : Except Failure FieldTags :=
  match Tag.parse field.tag with
  | .ok tags => .ok tags
  | .error fault => .error (.schema (.tagText fault field.tag))

def constraints (tags : FieldTags) : List Text :=
  (tags.get? Tag.Key.validate).elim [] Tag.constraints

def isRequired (tags : FieldTags) : Bool := tags.name? Tag.Key.validate == some "required".toList

/-- A schema with the description, default and sample value of the tags. -/
def annotate (tags : FieldTags) (schema : Schema) : Schema :=
  { schema with
    description := (tags.name? Tag.Key.description).getD schema.description
    fallback := (tags.name? Tag.Key.default).or schema.fallback
    sample := (tags.name? Tag.Key.sample).or schema.sample }

end FieldTags

namespace Schema

/-- Take the properties of an embedded model into an object; what is there stays. -/
def embed (embedded object : Schema) : Schema :=
  { object with
    properties := embedded.properties.foldl (fun ps (name, p) => Entries.putNew name p ps)
      object.properties
    required := embedded.required.foldl (fun names name => addNew name names) object.required }

/-- Put a property into an object, in the place of one with its name. -/
def putProperty (name : Text) (isRequired : Bool) (property object : Schema) : Schema :=
  { object with
    properties := Entries.put name property object.properties
    required := if isRequired then addNew name object.required else object.required }

end Schema

namespace Synthesis

variable (catalog : Catalog) (rules : List Rule)

/-- Add a field to the object of its model, where `model` gives the schemas of models. -/
def addField (model : Text → Except Failure Schema) (owner : Text) (object : Schema)
    (field : Field) : Except Failure Schema := do
  let tags ← FieldTags.ofField field
  let form := field.type.describe catalog
  if tags.has Tag.Key.embed then
    -- What is embedded is no property, so no other tag of the field is looked at.
    return Schema.embed (← form.schema model) object
  else
    match tags.name? Tag.Key.json with
    | none => .error (.schema (.unnamedField owner field.name))
    | some name =>
      let schema ← Rule.applyAll rules (← form.schema model) tags.constraints
      return Schema.putProperty name tags.isRequired (tags.annotate schema) object

/-- The schema of a model, where the models in `opened` are being made. No more models can be open
than there are, so the fuel is the number of those that may still be opened. -/
def modelSchema : (fuel : Nat) → (opened : List Text) → Text → Except Failure Schema
  | 0, _, name => .error (.schema (.recursiveModel name))
  | fuel + 1, opened, name =>
    if opened.contains name then .error (.schema (.recursiveModel name))
    else
      match catalog.fields name with
      | .error fault => .error (.schema fault)
      | .ok fields =>
        fields.foldlM (addField catalog rules (modelSchema fuel (name :: opened)) name)
          Schema.object

/-- The number of models: those declared, and the empty base of all validated ones. -/
def modelCount : Nat := catalog.length + 1

def schemaOf (type : TypeExpr) : Except Failure Schema :=
  (type.describe catalog).schema (modelSchema catalog rules (modelCount catalog + 1) [])

/-- The schema of a body. Where there is no model for it, a body is any object. -/
def bodySchema (type : TypeExpr) : Except Failure Schema :=
  if type.isNothing then .ok Schema.object
  else (type.describe catalog).schema (modelSchema catalog rules (modelCount catalog + 1) [])

def constrained (type : TypeExpr) (options : List Text) : Except Failure Schema := do
  Rule.applyAll rules (← schemaOf catalog rules type) options

end Synthesis

end RouteDoc
