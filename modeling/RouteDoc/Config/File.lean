import RouteDoc.Config.Basic
import RouteDoc.Files.Tree
import RouteDoc.Yaml.Value

/-! Configuration files: YAML mappings with the fields of a configuration. -/

namespace RouteDoc

inductive ConfigFault where
  | unreadable (name : Text) (fault : FileFault)
  | yaml (name : Text) (fault : Yaml.Fault)
  /-- Data of another kind than a mapping. -/
  | notMapping (name kind : Text)
  /-- A field whose name is no text. -/
  | unnamed
  | invalid (name : Text) (flaws : List Flaw)
  deriving Repr, Inhabited

namespace ConfigFault

def message : ConfigFault → Text
  | .unreadable name fault =>
    if fault = .notText then fault.message name
    else "Cannot read config ".toList ++ name ++ ": ".toList ++ fault.message name
  | .yaml name fault =>
    if fault = .malformed then "Cannot read config ".toList ++ name ++ ": ".toList ++ fault.message
    else fault.message
  | .notMapping name kind =>
    "Config ".toList ++ name ++ " must be a mapping, got ".toList ++ kind
  | .unnamed => "keywords must be strings".toList
  | .invalid name flaws =>
    "Invalid config ".toList ++ name ++ ": ".toList ++
      Text.join ", ".toList (flaws.map (·.kind.code))

/-- Whether a fault is reported as one of the tool's own. The others come from the bytes, the
scalars and the names of the fields themselves. -/
def isReported : ConfigFault → Bool
  | .unreadable _ fault => fault ≠ .notText
  | .yaml _ fault => fault = .malformed
  | .unnamed => false
  | _ => true

end ConfigFault

namespace Config

/-- How deep the data of a configuration are looked at. -/
def dataDepth : Nat := 6

def ofFileData (name : Text) : Data → Except ConfigFault Config
  | .null => .ok {}
  | .mapping entries =>
    if entries.all (·.1.isText) then (ofEntries entries).mapError (.invalid name ·)
    else .error .unnamed
  | d => .error (.notMapping name d.kind)

def ofFile (tree : FileTree) (file : FileName) : Except ConfigFault Config := do
  let name := file.toText
  let text ← (tree.readText file).mapError (.unreadable name ·)
  ofFileData name (← (Yaml.load dataDepth text).mapError (.yaml name ·))

end Config

end RouteDoc
