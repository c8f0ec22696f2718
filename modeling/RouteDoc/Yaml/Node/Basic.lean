import RouteDoc.Yaml.Fault
import RouteDoc.Yaml.Scalar

/-! The nodes of a YAML document: scalars, sequences and mappings with their tags. A node with an
anchor may be named again by an alias, also from within. -/

namespace RouteDoc.Yaml

inductive NodeTag where
  | scalar (kind : ScalarKind)
  | binary
  | sequence
  | mapping
  | set
  /-- A sequence of mappings with one entry each. -/
  | pairs
  | unknown
  deriving DecidableEq, Repr, Inhabited

namespace NodeTag

/-- How the addresses of the tags of YAML begin. -/
def standard : Text := "tag:yaml.org,2002:".toList

/-- The tags of YAML by the rest of their addresses. -/
def words : List (String × NodeTag) :=
  [("null", .scalar .null), ("bool", .scalar .bool), ("int", .scalar .int),
    ("float", .scalar .float), ("timestamp", .scalar .timestamp), ("str", .scalar .text),
    ("merge", .scalar .merge), ("value", .scalar .value), ("binary", .binary),
    ("omap", .pairs), ("pairs", .pairs), ("set", .set), ("seq", .sequence), ("map", .mapping)]

def ofAddress (address : Text) : NodeTag :=
  match words.find? fun word => standard ++ word.1.toList = address with
  | some word => word.2
  | none => .unknown

/-- The tag of a scalar that only its text tells. The marks of tags, anchors and aliases alone tell
nothing. -/
def ofScalar (text : Text) : NodeTag :=
  if [['!'], ['&'], ['*']].contains text then .unknown else .scalar (.ofText text)

end NodeTag

inductive Node where
  | scalar (tag : NodeTag) (text : Text)
  | sequence (tag : NodeTag) (items : List Node)
  | mapping (tag : NodeTag) (entries : List (Node × Node))
  | anchored (name : Text) (node : Node)
  | alias (name : Text)
  deriving Repr, Inhabited, BEq

namespace Node

/-- The node of what is left out. -/
def empty : Node := .scalar (.scalar .null) []

end Node

end RouteDoc.Yaml
