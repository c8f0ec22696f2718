import RouteDoc.Model.ValueClass
import RouteDoc.Route.Basic

/-! Routes declared in code: a target names a module and an attribute of it, which lists them. -/

namespace RouteDoc

inductive Item where
  | route (route : Route)
  | value (value : TypeExpr)
  deriving Repr, Inhabited, BEq

inductive Attribute where
  | items (items : List Item)
  | plain (value : Json)
  /-- A value that lists nothing, by the name of its class. -/
  | single (className : Text)
  deriving Repr, Inhabited, BEq

/-- The modules that can be imported, with their attributes. -/
abbrev Code := List (Text × List (Text × Attribute))

/-- The name of a module and of one of its attributes. -/
structure Target where
  moduleName : Text
  attributeName : Text
  deriving DecidableEq, Repr, Inhabited

namespace Target

inductive Fault where
  /-- A text that does not name a module and an attribute. -/
  | malformed (written : Text)
  /-- A module, or one above it, that cannot be found, behind one that has no modules in it. -/
  | unknownModule (moduleName missing : Text) (plain : Option Text)
  | unknownAttribute (target : Target)
  /-- Something in the list that is no route. -/
  | notRoute (written className : Text)
  /-- A module that is named from where the reader stands. -/
  | relative (moduleName : Text)
  | notList (className : Text)
  /-- A value in a route for which the text of a document has no form; it is come upon when the
  document is written. -/
  | notJson (className : Text)
  | notYaml (shown : Text)
  deriving DecidableEq, Repr, Inhabited

namespace Fault

def message : Fault → Text
  | .malformed written => "Expected 'module:attribute', got ".toList ++ Text.quoted written
  | .unknownModule moduleName missing plain =>
    "Cannot import ".toList ++ Text.quoted moduleName ++ ": No module named ".toList ++
      Text.quoted missing ++
      plain.elim [] fun name => "; ".toList ++ Text.quoted name ++ " is not a package".toList
  | .unknownAttribute target =>
    "Module ".toList ++ Text.quoted target.moduleName ++ " has no attribute ".toList ++
      Text.quoted target.attributeName
  | .notRoute written className =>
    written ++ " contains ".toList ++ className ++ ", not Route".toList
  | .relative moduleName =>
    "the 'package' argument is required to perform a relative import for ".toList ++
      Text.quoted moduleName
  | .notList className => '\x27' :: className ++ "' object is not iterable".toList
  | .notJson className =>
    "Object of type ".toList ++ className ++ " is not JSON serializable".toList
  | .notYaml shown => "('cannot represent an object', ".toList ++ shown ++ [')']

/-- Whether a fault is reported as one of the tool's own. The others come from the import, from the
value and from the printers themselves. -/
def isReported : Fault → Bool
  | .relative _ | .notList _ | .notJson _ | .notYaml _ => false
  | _ => true

end Fault

/-- The target that a text names: up to the first colon the module, behind it the attribute. -/
def ofText (t : Text) : Except Fault Target :=
  let moduleName := t.takeWhile (· != ':')
  let attributeName := (t.dropWhile (· != ':')).drop 1
  if moduleName.isEmpty || attributeName.isEmpty then .error (.malformed t)
  else .ok ⟨moduleName, attributeName⟩

/-- The names of a module and of those above it, the longest first. -/
def enclosing (moduleName : Text) : List Text :=
  let parts := Text.splitOn '.' moduleName
  (List.range parts.length).reverse.map fun n => Text.join ['.'] (parts.take (n + 1))

/-- The fault of a module that is missing, from the names of those above it, the nearest first. -/
def missing (code : Code) (moduleName : Text) (current : Text) : List Text → Fault
  | [] => .unknownModule moduleName current none
  | parent :: above =>
    if (code.lookup parent).isSome then .unknownModule moduleName current (some parent)
    else missing code moduleName parent above

def importModule (code : Code) (moduleName : Text) : Except Fault (List (Text × Attribute)) :=
  if moduleName.head? = some '.' then .error (.relative moduleName)
  else
    match code.lookup moduleName with
    | some attributes => .ok attributes
    | none => .error (missing code moduleName moduleName ((enclosing moduleName).drop 1))

/-- The methods that every module has, by the two classes of their values. -/
def methods : List (Text × Text) :=
  (["__delattr__", "__eq__", "__ge__", "__getattribute__", "__gt__", "__hash__", "__init__",
    "__le__", "__lt__", "__ne__", "__repr__", "__setattr__", "__str__"].map fun name =>
      (name.toList, "method-wrapper".toList)) ++
    ["__dir__", "__format__", "__getstate__", "__init_subclass__", "__new__", "__reduce__",
      "__reduce_ex__", "__sizeof__", "__subclasshook__"].map fun name =>
      (name.toList, "builtin_function_or_method".toList)

/-- The attributes that every module has whatever it declares. -/
def fixed (moduleName : Text) : List (Text × Attribute) :=
  [("__class__".toList, .single "type".toList),
    ("__dict__".toList, .plain (.object [("__name__".toList, .string moduleName)]))]

/-- The attributes that a module has where it declares no others by their names. -/
def common (moduleName : Text) : List (Text × Attribute) :=
  [("__name__".toList, .plain (.string moduleName)), ("__doc__".toList, .plain .null),
    ("__package__".toList, .plain .null), ("__loader__".toList, .plain .null),
    ("__spec__".toList, .plain .null), ("__annotations__".toList, .plain (.object []))] ++
    methods.map fun (name, className) => (name, .single className)

/-- An attribute of a module that declares some. -/
def attribute? (target : Target) (declared : List (Text × Attribute)) : Option Attribute :=
  (fixed target.moduleName ++ declared ++ common target.moduleName).lookup target.attributeName

/-- A plain value as a value in code. -/
def valueOf : Json → TypeExpr
  | .null => .nothing
  | .bool b => .boolean b
  | .int n => .integer n
  | .float x => .real x
  | .string t => .text t
  | .array _ => .collection .list []
  | .object _ => .entries []

/-- The items of a plain value: those of a list, the characters of a text, the keys of an object. -/
def itemsOf : Json → Except Fault (List Item)
  | .array items => .ok (items.map fun item => .value (valueOf item))
  | .string t => .ok (t.map fun c => .value (.text [c]))
  | .object members => .ok (members.map fun (key, _) => .value (.text key))
  | .null => .error (.notList "NoneType".toList)
  | .bool _ => .error (.notList "bool".toList)
  | .int _ => .error (.notList "int".toList)
  | .float _ => .error (.notList "float".toList)

/-- What an attribute lists. -/
def listed : Attribute → Except Fault (List Item)
  | .items items => .ok items
  | .plain value => itemsOf value
  | .single className => .error (.notList className)

/-- The routes among items, all of which must be routes. -/
def routesAmong (catalog : Catalog) (written : Text) (items : List Item) :
    Except Fault (List Route) :=
  items.mapM fun
    | .route route => .ok route
    | .value value => .error (.notRoute written (value.valueClass catalog))

def routes (catalog : Catalog) (code : Code) (written : Text) : Except Fault (List Route) := do
  let target ← ofText written
  let attributes ← importModule code target.moduleName
  match attribute? target attributes with
  | none => .error (.unknownAttribute target)
  | some found => routesAmong catalog written (← listed found)

end Target

end RouteDoc
