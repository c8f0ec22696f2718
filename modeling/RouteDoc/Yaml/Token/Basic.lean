import RouteDoc.Yaml.Fault

/-! The tokens of YAML text: its marks, and the blocks that its indentation makes. -/

namespace RouteDoc.Yaml

inductive Token where
  /-- The directive that names the version of YAML. -/
  | version (major : Nat)
  /-- The directive that says how tags with a handle begin. -/
  | handle (handle start : Text)
  /-- A directive of another kind. -/
  | directive
  | documentStart
  | documentEnd
  | blockSequence
  | blockMapping
  | blockEnd
  | flowSequence
  | flowSequenceEnd
  | flowMapping
  | flowMappingEnd
  | flowEntry
  | blockEntry
  | key
  | value
  | alias (name : Text)
  | anchor (name : Text)
  | tag (handle : Option Text) (suffix : Text)
  | scalar (plain : Bool) (text : Text)
  /-- The end of the text. -/
  | finish
  /-- The place behind which the text cannot be read. -/
  | broken (fault : Fault)
  deriving DecidableEq, Repr, Inhabited

end RouteDoc.Yaml
