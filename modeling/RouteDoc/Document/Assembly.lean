import RouteDoc.Document.Operation
import RouteDoc.Document.Path
import RouteDoc.Text.Upper

/-! Assembly: routes in order become the paths of a document. A route that cannot be documented is
left out with a warning; of two for one path and method the later one counts. -/

namespace RouteDoc

def httpMethods : List Text :=
  ["GET", "POST", "DELETE", "PUT", "PATCH", "HEAD", "OPTIONS", "CONNECT", "TRACE"].map (·.toList)

/-- What happened to a route that is not in the document as written. -/
inductive Warning where
  | unsupported (method path : Text)
  | skipped (method path : Text) (fault : SchemaFault)
  /-- An earlier route for the same path and method is gone. -/
  | replaced (method path : Text)
  deriving DecidableEq, Repr, Inhabited

namespace Warning

def message : Warning → Text
  | .unsupported method path =>
    "Skipping ".toList ++ method ++ ' ' :: path ++ ": unsupported method".toList
  | .skipped method path fault =>
    "Skipping ".toList ++ method ++ ' ' :: path ++ ": ".toList ++ fault.message
  | .replaced method path =>
    "Route ".toList ++ method ++ ' ' :: path ++
      " is declared twice, keeping the last one".toList

def logLine (warning : Warning) : Text :=
  "WARNING api_spec_gen.generator.paths: ".toList ++ warning.message

end Warning

/-- The operations of one path under their methods. -/
abbrev PathItem := Entries Text Operation

def PathItem.toJson (item : PathItem) : Json :=
  .object (item.map fun (method, operation) => (Text.toLowerAscii method, operation.toJson))

/-- The paths assembled so far, and the warnings in order. -/
structure Assembly where
  paths : Entries Text PathItem := []
  warnings : List Warning := []
  deriving Inhabited

namespace Assembly

def toJson (assembly : Assembly) : Json :=
  .object (assembly.paths.map fun (path, item) => (path, item.toJson))

def warn (assembly : Assembly) (warning : Warning) : Assembly :=
  { assembly with warnings := assembly.warnings ++ [warning] }

def put (assembly : Assembly) (path method : Text) (operation : Operation) : Assembly :=
  let item := (assembly.paths.get? path).getD []
  let warned := if item.has method then assembly.warn (.replaced method path) else assembly
  { warned with paths := warned.paths.put path (item.put method operation) }

variable (catalog : Catalog)

/-- Add one route. Faults of its models are warnings; any other failure stops the assembly. -/
def add (assembly : Assembly) (route : Route) : Except Failure Assembly :=
  let method := Text.toUpper route.method
  -- The warning of an unsupported method shows it as written, the others in upper case.
  if httpMethods.contains method then
    match Operation.ofRoute catalog Rule.standard route with
    | .ok operation => .ok (assembly.put (Path.sanitize route.path) method operation)
    | .error (.schema fault) => .ok (assembly.warn (.skipped method route.path fault))
    | .error failure => .error failure
  else .ok (assembly.warn (.unsupported route.method route.path))

/-- Add routes in order, up to the first that stops the assembly. -/
def addAll (assembly : Assembly) : List Route → Assembly × Option Failure
  | [] => (assembly, none)
  | route :: routes =>
    match assembly.add catalog route with
    | .ok assembly => addAll assembly routes
    | .error failure => (assembly, some failure)

def ofRoutes (routes : List Route) : Assembly × Option Failure := addAll catalog {} routes

end Assembly

end RouteDoc
