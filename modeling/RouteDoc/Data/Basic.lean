import RouteDoc.Json.Basic

/-! Data as it comes from files and requests, before it is known what it should be. -/

namespace RouteDoc

/-- A value read from a file or a request. Of dates only the kind is kept. -/
inductive Data where
  | null
  | bool (value : Bool)
  | int (value : Int)
  | float (value : Binary64)
  | text (value : Text)
  | bytes (value : List UInt8)
  | date
  | datetime
  | list (items : List Data)
  | tuple (items : List Data)
  | set (items : List Data)
  | mapping (entries : List (Data × Data))
  deriving Repr, Inhabited, BEq

namespace Data

mutual

def ofJson : Json → Data
  | .null => .null
  | .bool value => .bool value
  | .int value => .int value
  | .float value => .float value
  | .string value => .text value
  | .array items => .list (ofJsonItems items)
  | .object members => .mapping (ofJsonMembers members)

def ofJsonItems : List Json → List Data
  | [] => []
  | item :: more => ofJson item :: ofJsonItems more

def ofJsonMembers : List (Text × Json) → List (Data × Data)
  | [] => []
  | (name, value) :: more => (.text name, ofJson value) :: ofJsonMembers more

end

mutual

/-- How deep containers are nested. -/
def depth : Data → Nat
  | .list items | .tuple items | .set items => depthOfItems items + 1
  | .mapping entries => depthOfEntries entries + 1
  | _ => 0

def depthOfItems : List Data → Nat
  | [] => 0
  | item :: more => max (depth item) (depthOfItems more)

def depthOfEntries : List (Data × Data) → Nat
  | [] => 0
  | (_, value) :: more => max (depth value) (depthOfEntries more)

end

def kind : Data → Text
  | .null => "NoneType".toList
  | .bool _ => "bool".toList
  | .int _ => "int".toList
  | .float _ => "float".toList
  | .text _ => "str".toList
  | .bytes _ => "bytes".toList
  | .date => "date".toList
  | .datetime => "datetime".toList
  | .list _ => "list".toList
  | .tuple _ => "tuple".toList
  | .set _ => "set".toList
  | .mapping _ => "dict".toList

def get? (entries : List (Data × Data)) (name : Text) : Option Data :=
  entries.findSome? fun (key, value) =>
    match key with
    | .text t => if t = name then some value else none
    | _ => none

def isText : Data → Bool
  | .text _ => true
  | _ => false

end Data

end RouteDoc
