import RouteDoc.Schema.Synthesis

/-! Parameters: what a request carries outside its body. -/

namespace RouteDoc

/-- The parts of a request that hold parameters, in the order in which tags are looked up. -/
inductive Location where
  | query
  | path
  | header
  | cookie
  deriving DecidableEq, Repr, Inhabited

namespace Location

def all : List Location := [.query, .path, .header, .cookie]

def word : Location → Text
  | .query => "query".toList
  | .path => "path".toList
  | .header => "header".toList
  | .cookie => "cookie".toList

/-- The tag key that binds a field to a location. -/
def key : Location → Text
  | .path => "uri".toList
  | location => location.word

def ofWord? (t : Text) : Option Location := all.find? fun location => location.word = t

end Location

/-- Where a field is read from, and the name of the parameter. -/
def FieldTags.binding? (tags : FieldTags) : Option (Location × Text) :=
  Location.all.findSome? fun location => (tags.name? location.key).map fun name => (location, name)

def FieldTags.binding (tags : FieldTags) : Except Failure (Location × Text) :=
  match tags.binding? with
  | some binding => .ok binding
  | none => .error (.schema .unbound)

structure Parameter where
  name : Text
  location : Location
  required : Bool := false
  description : Text := []
  schema : Schema
  fallback : Option Text := none
  sample : Option Text := none
  deriving Repr, Inhabited, BEq

namespace Parameter

def toJson (p : Parameter) : Json :=
  .object <|
    Json.member "name" (.string p.name) :: Json.member "in" (.string p.location.word) ::
      Schema.textMember "description" p.description ++
      (if p.required then [Json.member "required" (.bool true)] else []) ++
      Schema.optionalMember "example" (p.sample.map .string) ++
      [Json.member "schema" p.schema.toJson]

end Parameter

end RouteDoc
