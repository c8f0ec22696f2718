import RouteDoc.Json.Literal
import RouteDoc.Text.Basic

/-! Field tags: what the author of a model says about a field, as `key:"name,option,…"` pairs. Of
several tags with one key the first counts. -/

namespace RouteDoc

/-- One pair of a tag text. -/
structure Tag where
  key : Text
  name : Text
  options : List Text
  deriving DecidableEq, Repr, Inhabited

/-- The tags of one field, in the order written. -/
abbrev FieldTags := List Tag

namespace Tag

/-- The tag whose value is a text: the name is what stands before the first comma. -/
def ofValue (key value : Text) : Tag :=
  let (name, options) := Text.cutWhen (· == ',') value
  ⟨key, name, options⟩

def value (tag : Tag) : Text := Text.join [','] (tag.name :: tag.options)

def render (tag : Tag) : Text := tag.key ++ ':' :: Json.Literal.encode tag.value

end Tag

namespace FieldTags

def get? (tags : FieldTags) (key : Text) : Option Tag := tags.find? fun tag => tag.key = key

def has (tags : FieldTags) (key : Text) : Bool := (tags.get? key).isSome

def name? (tags : FieldTags) (key : Text) : Option Text := (tags.get? key).map (·.name)

def keys (tags : FieldTags) : List Text := tags.map (·.key)

end FieldTags

/-! ### Keys with a meaning -/

namespace Tag.Key

/-- The name of a field in a body. -/
def json : Text := "json".toList

/-- Marks a field whose own fields are taken into the model around it. -/
def embed : Text := "embed".toList

/-- Whether a field is required, and the constraints on its value. -/
def validate : Text := "validate".toList

/-- What a field means. -/
def description : Text := "description".toList

/-- The value of a field that is left out. -/
def default : Text := "default".toList

/-- A value for illustration. -/
def sample : Text := "example".toList

end Tag.Key

end RouteDoc
