import RouteDoc.Entries
import RouteDoc.Json.Basic
import RouteDoc.Model.TypeExpr

/-! Routes: what an author says about one handler. -/

namespace RouteDoc

/-- A value in code for which documents have no form, such as an instance of a class of the
author's own. -/
structure Foreign where
  className : Text
  /-- The value as messages show it. -/
  shown : Text
  deriving DecidableEq, Repr, Inhabited

namespace Foreign

def toJson (value : Foreign) : Json := .array [.string value.className, .string value.shown]

end Foreign

/-- A response that a route may give. -/
structure Response where
  description : Text := []
  body : TypeExpr := .nothing
  /-- The headers whose values documents can hold. -/
  headers : List (Text × Json) := []
  /-- The other headers. -/
  foreign : List (Text × Foreign) := []
  deriving Repr, Inhabited, BEq

/-- A handler with its documentation. The responses stand under their statuses. -/
structure Route where
  path : Text := []
  method : Text := []
  summary : Text := []
  description : Text := []
  deprecated : Bool := false
  requestContentType : Text := "application/json".toList
  responseContentType : Text := "application/json".toList
  tags : List Text := []
  request : TypeExpr := .nothing
  operationId : Text := []
  responses : Entries Text Response := []
  deriving Repr, Inhabited, BEq

end RouteDoc
