import RouteDoc.Json.Basic

/-! Schemas: what a document says about the form of a value. -/

namespace RouteDoc

/-- The types of JSON values that a schema can ask for. -/
inductive SchemaType where
  | integer
  | number
  | boolean
  | string
  | object
  | array
  deriving DecidableEq, Repr, Inhabited

namespace SchemaType

def word : SchemaType → Text
  | .integer => "integer".toList
  | .number => "number".toList
  | .boolean => "boolean".toList
  | .string => "string".toList
  | .object => "object".toList
  | .array => "array".toList

def all : List SchemaType := [.integer, .number, .boolean, .string, .object, .array]

def ofWord? (t : Text) : Option SchemaType := all.find? fun type => type.word = t

end SchemaType

/-- A bound of a range. A bound that comes with the type of a field is whole, one that an author
writes is a floating-point number. -/
inductive Bound where
  | whole (value : Int)
  | real (value : Binary64)
  deriving DecidableEq, Repr, Inhabited

def Bound.toJson : Bound → Json
  | .whole value => .int value
  | .real value => .float value

/-- A node of a schema, and through its properties and items the nodes below it. -/
structure Schema where
  type : SchemaType
  format : Text := []
  description : Text := []
  fallback : Option Text := none
  sample : Option Text := none
  minimum : Option Bound := none
  maximum : Option Bound := none
  length : Option Int := none
  enum : List Text := []
  properties : List (Text × Schema) := []
  required : List Text := []
  items : Option Schema := none
  deriving Repr, Inhabited, BEq

namespace Schema

/-- The schema of an object about whose members nothing is known. -/
def object : Schema := { type := .object }

def array (items : Schema) : Schema := { type := .array, items := some items }

/-- A member that is there when the value is. -/
def optionalMember (name : String) (value : Option Json) : List (Text × Json) :=
  match value with
  | some value => [Json.member name value]
  | none => []

/-- A member for a text, left out when the text is empty. -/
def textMember (name : String) (value : Text) : List (Text × Json) :=
  if value.isEmpty then [] else [Json.member name (.string value)]

/-- A member for a list, left out when the list is empty. -/
def listMember (name : String) (values : List Text) : List (Text × Json) :=
  if values.isEmpty then [] else [Json.member name (.strings values)]

/-- The names of the two members that give an exact length. -/
def lengthNames : SchemaType → String × String
  | .array => ("minItems", "maxItems")
  | _ => ("minLength", "maxLength")

def lengthMembers (type : SchemaType) : Option Int → List (Text × Json)
  | some n =>
    [Json.member (lengthNames type).1 (.int n), Json.member (lengthNames type).2 (.int n)]
  | none => []

mutual

/-- The JSON object of a schema: what is empty or absent is left out. -/
def toJson : Schema → Json
  | ⟨type, format, description, fallback, sample, minimum, maximum, length, enum, properties,
      required, items⟩ =>
    .object <|
      Json.member "type" (.string type.word) :: textMember "format" format ++
        textMember "description" description ++
        optionalMember "default" (fallback.map .string) ++
        optionalMember "example" (sample.map .string) ++
        optionalMember "minimum" (minimum.map Bound.toJson) ++
        optionalMember "maximum" (maximum.map Bound.toJson) ++
        lengthMembers type length ++
        listMember "enum" enum ++
        (match properties with
          | [] => []
          | property :: more =>
            [Json.member "properties" (.object (members (property :: more)))]) ++
        listMember "required" required ++
        (match items with
          | none => []
          | some schema => [Json.member "items" (toJson schema)])

def members : List (Text × Schema) → List (Text × Json)
  | [] => []
  | (name, schema) :: more => (name, toJson schema) :: members more

end

end Schema

end RouteDoc
