import RouteDoc.Config.Basic
import RouteDoc.Document.Assembly
import RouteDoc.Yaml.Printer

/-! Documents: a configuration and the paths of a list of routes. -/

namespace RouteDoc

structure Document where
  config : Config
  paths : Entries Text PathItem

namespace Document

/-- The header values that no document can hold, in the order in which they are come upon. -/
def foreign (d : Document) : List Foreign :=
  d.paths.flatMap fun (_, item) => item.flatMap fun (_, operation) => operation.foreign

def members (d : Document) : List (Text × Json) :=
  Json.member "openapi" (.ofString "3.0.0") :: Json.member "info" d.config.info ::
    (if d.config.servers.isEmpty then [] else
      [Json.member "servers" (.array (d.config.servers.map Server.toJson))]) ++
    [Json.member "paths" (.object (d.paths.map fun (path, item) => (path, item.toJson))),
      Json.member "components" (.object [])]

def toJson (d : Document) : Json := .object d.members

def toYaml (d : Document) : Text := Yaml.renderObject d.members

end Document

end RouteDoc
