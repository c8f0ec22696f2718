import RouteDoc.Number.Binary64
import RouteDoc.Text.Basic

/-! JSON values with whole numbers of any size, numbers of binary64, and objects whose members keep
their order. -/

namespace RouteDoc

inductive Json where
  | null
  | bool (value : Bool)
  | int (value : Int)
  | float (value : Binary64)
  | string (value : Text)
  | array (items : List Json)
  | object (members : List (Text × Json))
  deriving Repr, Inhabited, BEq

namespace Json

def ofString (s : String) : Json := .string s.toList

def member (name : String) (value : Json) : Text × Json := (name.toList, value)

def strings (texts : List Text) : Json := .array (texts.map .string)

end Json

end RouteDoc
