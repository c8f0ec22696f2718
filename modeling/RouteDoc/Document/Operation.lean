import RouteDoc.Parameter.Extraction
import RouteDoc.Route.Basic

/-! Operations: what a document says about one method of one path. -/

namespace RouteDoc

/-- A response of an operation: the schemas of its body stand under their content types. -/
structure ResponseEntry where
  description : Text := []
  headers : List (Text × Json) := []
  foreign : List (Text × Foreign) := []
  content : Entries Text Schema := []
  deriving Repr, Inhabited, BEq

namespace ResponseEntry

/-- The JSON object of a response. Header values that no document can hold are named beside the
others; a document with any is not written. -/
def toJson (r : ResponseEntry) : Json :=
  .object <|
    Json.member "description" (.string r.description) ::
      (if r.headers.isEmpty then [] else [Json.member "headers" (.object r.headers)]) ++
      (if r.foreign.isEmpty then [] else
        [Json.member "foreign" <| .object <| r.foreign.map fun (name, value) =>
          (name, value.toJson)]) ++
      (if r.content.isEmpty then [] else
        [Json.member "content" <| .object <| r.content.map fun (type, schema) =>
          (type, .object [Json.member "schema" schema.toJson])])

end ResponseEntry

structure Operation where
  tags : List Text := []
  operationId : Text := []
  summary : Text := []
  description : Text := []
  deprecated : Bool := false
  parameters : List Parameter := []
  responses : Entries Text ResponseEntry := []
  deriving Repr, Inhabited, BEq

namespace Operation

/-- The header values that no document can hold. -/
def foreign (o : Operation) : List Foreign :=
  o.responses.flatMap fun (_, response) => response.foreign.map (·.2)

/-- The JSON object of an operation: what is empty is left out, but for the responses. -/
def toJson (o : Operation) : Json :=
  .object <|
    Schema.listMember "tags" o.tags ++
      Schema.textMember "summary" o.summary ++
      Schema.textMember "description" o.description ++
      Schema.textMember "operationId" o.operationId ++
      (if o.parameters.isEmpty then [] else
        [Json.member "parameters" (.array (o.parameters.map Parameter.toJson))]) ++
      [Json.member "responses" <| .object <| o.responses.map fun (status, response) =>
        (status, response.toJson)] ++
      (if o.deprecated then [Json.member "deprecated" (.bool true)] else [])

variable (catalog : Catalog) (rules : List Rule)

/-- The response of a route as an entry of its operation. -/
def responseEntry (contentType : Text) (response : Response) : Except Failure ResponseEntry := do
  let schema ← Synthesis.bodySchema catalog rules response.body
  return {
    description := response.description
    headers := response.headers
    foreign := response.foreign
    content := [(contentType, schema)] }

def ofRoute (route : Route) : Except Failure Operation := do
  let parameters ← Extraction.parametersOf catalog rules route.request
  let responses ← route.responses.mapM fun (status, response) => do
    return (status, ← responseEntry catalog rules route.responseContentType response)
  return {
    tags := route.tags
    operationId := route.operationId
    summary := route.summary
    description := route.description
    deprecated := route.deprecated
    parameters, responses }

end Operation

end RouteDoc
