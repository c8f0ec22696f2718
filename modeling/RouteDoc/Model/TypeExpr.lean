import RouteDoc.Json.Printer
import RouteDoc.Model.ClassName
import RouteDoc.Text.Order
import RouteDoc.Text.Quoted

/-! Type expressions: the type of a field or of a body, or a sample value that stands for its type.
-/

namespace RouteDoc

/-- A type, or a value in place of one. -/
inductive TypeExpr where
  /-- The type with no value but nothing, and that value. -/
  | nothing
  | ofClass (c : ClassName)
  | any
  | typeVar
  | newType
  /-- A generic class of the typing library without arguments. -/
  | bare (origin : ClassName)
  | ref (name : Text)
  /-- A class with arguments; `typing` if it is written as in the typing library. -/
  | generic (typing : Bool) (origin : ClassName) (arguments : List TypeExpr)
  /-- A tuple of any length. -/
  | tupleOf (element : TypeExpr)
  /-- One of several types; `bar` if it is written with bars. -/
  | union (bar : Bool) (members : List TypeExpr)
  | annotated (type : TypeExpr) (tags : List Text)
  /-- One of several values, given by their text. -/
  | literal (values : List Text)
  | callable (argument : TypeExpr)
  | classOf (type : TypeExpr)
  | boolean (value : Bool)
  | integer (value : Int)
  | real (value : Binary64)
  | text (value : Text)
  /-- Bytes, each below 256; `mutable` for an array of them. -/
  | bytes (mutable : Bool) (value : List Nat)
  /-- A list, tuple or set, or an instance of a class below one of these. -/
  | collection (kind : ClassName) (items : List TypeExpr)
  | entries (members : List (Text × TypeExpr))
  /-- An instance of another class, given by its text. -/
  | instance (c : ClassName) (shown : Text)
  | modelInstance (name : Text)
  deriving Repr, Inhabited, BEq

namespace TypeExpr

def optional (type : TypeExpr) : TypeExpr := .union false [type, .nothing]

mutual

/-- The names of models that a type refers to, in order. -/
def references : TypeExpr → List Text
  | .ref name => [name]
  | .generic _ _ arguments => referencesIn arguments
  | .tupleOf element => references element
  | .union _ members => referencesIn members
  | .annotated type _ => references type
  | .callable argument => references argument
  | .classOf type => references type
  | _ => []

def referencesIn : List TypeExpr → List Text
  | [] => []
  | a :: more => references a ++ referencesIn more

end

/-- A type without the tag texts around it, and the texts, those of the inner ones first. -/
def unwrap : TypeExpr → TypeExpr × List Text
  | .annotated type tags =>
    let (inner, innerTags) := unwrap type
    (inner, innerTags ++ tags)
  | type => (type, [])

/-- One byte of a bytes literal. -/
def byteText (mark : Char) (n : Nat) : Text :=
  let c := Char.ofNat n
  if n < 32 ∨ 127 ≤ n then
    if c = '\n' ∨ c = '\r' ∨ c = '\t' then Text.quoteChar mark c
    else ['\\', 'x'] ++ Text.ofHex 2 n
  else if c = mark ∨ c = '\\' then ['\\', c] else [c]

def bytesText (value : List Nat) : Text :=
  let mark := Text.quoteMark (value.map Char.ofNat)
  'b' :: mark :: value.flatMap (byteText mark) ++ [mark]

def listed (start : String) (pieces : List Text) (stop : String) : Text :=
  start.toList ++ Text.join [',', ' '] pieces ++ stop.toList

def typingName : ClassName → Text
  | .list => "List".toList
  | .dict => "Dict".toList
  | .tuple => "Tuple".toList
  | .set => "Set".toList
  | origin => origin.path.1.toList

def tagText (tag : Text) : Text := listed "FieldTag(raw=" [Text.quoted tag] ")"

def collectionText (kind : ClassName) (items : List Text) : Text :=
  match kind with
  | .tuple => if items.length = 1 then listed "(" items ",)" else listed "(" items ")"
  | .set => if items.isEmpty then "set()".toList else listed "\x7b" items "\x7d"
  | .frozenset =>
    if items.isEmpty then "frozenset()".toList else listed "frozenset(\x7b" items "\x7d)"
  | _ => listed "[" items "]"

def nothingText : Text := "NoneType".toList

/-- A union in words. Of two members one of which is nothing, only the other is named. -/
def unionText (bar : Bool) (members : List Text) : Text :=
  if bar then
    Text.join " | ".toList (members.map fun m => if m = nothingText then "None".toList else m)
  else match members with
    | [a, b] =>
      if a = nothingText then listed "typing.Optional[" [b] "]"
      else if b = nothingText then listed "typing.Optional[" [a] "]"
      else listed "typing.Union[" members "]"
    | _ => listed "typing.Union[" members "]"

/-- The numbers of messages are written as in JSON, but for the words. -/
def numberLayout : Binary64.Layout :=
  { Json.numberLayout with infinity := "inf".toList, nan := "nan".toList }

mutual

/-- A type inside another: a class by its name. -/
def innerText : TypeExpr → Text
  | .nothing => "None".toList
  | .ofClass c => c.qualified
  | .any => "typing.Any".toList
  | .typeVar => "~T".toList
  | .newType => "__main__.UserId".toList
  | .bare origin => "typing.".toList ++ typingName origin
  | .ref name => "models.".toList ++ name
  | .generic typing origin arguments =>
    let name := if typing then "typing.".toList ++ typingName origin else origin.qualified
    let texts := innerTexts arguments
    name ++ listed "[" (if texts.isEmpty then ["()".toList] else texts) "]"
  | .tupleOf element => listed "tuple[" [innerText element, "...".toList] "]"
  | .union bar members => unionText bar (innerTexts members)
  | .annotated type tags => listed "typing.Annotated[" (innerText type :: tags.map tagText) "]"
  | .literal values => listed "typing.Literal[" values "]"
  | .callable argument => listed "typing.Callable[[" [innerText argument] "], int]"
  | .classOf type => listed "type[" [innerText type] "]"
  | .boolean value => (if value then "True" else "False").toList
  | .integer value => Text.ofInt value
  | .real value => value.render numberLayout
  | .text value => Text.quoted value
  | .bytes mutable value =>
    if mutable then listed "bytearray(" [bytesText value] ")" else bytesText value
  | .collection kind items => collectionText kind (itemTexts items)
  | .entries members => listed "\x7b" (entryTexts members) "\x7d"
  | .instance _ shown => shown
  | .modelInstance name => name ++ "()".toList

def innerTexts : List TypeExpr → List Text
  | [] => []
  | a :: more => innerText a :: innerTexts more

/-- Values in a collection. A class as a value is shown as such. -/
def itemTexts : List TypeExpr → List Text
  | [] => []
  | .ofClass c :: more => listed "<class '" [c.qualified] "'>" :: itemTexts more
  | .ref name :: more => listed "<class 'models." [name] "'>" :: itemTexts more
  | a :: more => innerText a :: itemTexts more

def entryTexts : List (Text × TypeExpr) → List Text
  | [] => []
  | (key, a) :: more => (Text.quoted key ++ ": ".toList ++ innerText a) :: entryTexts more

end

mutual

/-- Whether two types are equal: unions and literals if they have the same members, other types if
they are made in one way of equal parts. -/
def alike : TypeExpr → TypeExpr → Bool
  | .nothing, .nothing | .any, .any | .typeVar, .typeVar | .newType, .newType => true
  | .ofClass c, .ofClass d | .bare c, .bare d => c = d
  | .ref name, .ref other | .text name, .text other | .modelInstance name, .modelInstance other =>
    name = other
  | .generic typing origin arguments, .generic typing' origin' arguments' =>
    typing = typing' && origin = origin' && alikeEach arguments arguments'
  | .tupleOf a, .tupleOf b | .callable a, .callable b | .classOf a, .classOf b => alike a b
  | .union _ members, .union _ others =>
    alikeWithin members others && others.all fun b => alikeAny members b
  | .annotated type tags, .annotated other otherTags => alike type other && tags = otherTags
  | .literal values, .literal others => values.all others.contains && others.all values.contains
  | .boolean value, .boolean other => value = other
  | .integer value, .integer other => value = other
  | .real value, .real other => value = other
  | .bytes mutable value, .bytes mutable' other => mutable = mutable' && value = other
  | .collection kind items, .collection kind' others => kind = kind' && alikeEach items others
  | .entries members, .entries others => alikeEntries members others
  | .instance c shown, .instance d other => c = d && shown = other
  | _, _ => false
termination_by structural a => a

/-- Whether two lists have equal types in the same places. -/
def alikeEach : List TypeExpr → List TypeExpr → Bool
  | [], [] => true
  | a :: more, b :: others => alike a b && alikeEach more others
  | _, _ => false
termination_by structural types => types

/-- Whether each of some types is equal to one of `others`. -/
def alikeWithin : List TypeExpr → List TypeExpr → Bool
  | [], _ => true
  | a :: more, others => (others.any fun b => alike a b) && alikeWithin more others
termination_by structural types => types

/-- Whether one of some types is equal to a type. -/
def alikeAny : List TypeExpr → TypeExpr → Bool
  | [], _ => false
  | a :: more, b => alike a b || alikeAny more b
termination_by structural types => types

/-- Whether two mappings have equal values under the same names in the same places. -/
def alikeEntries : List (Text × TypeExpr) → List (Text × TypeExpr) → Bool
  | [], [] => true
  | (key, a) :: more, (key', b) :: others => key = key' && alike a b && alikeEntries more others
  | _, _ => false
termination_by structural members => members

end

/-- A type as an argument in the typing library: nothing is its class, and a text refers to the
type of that name. -/
def asArgument : TypeExpr → TypeExpr
  | .nothing => .ofClass .noneType
  | .text name => .ref name
  | a => a

/-- The types that a type gives to a union: those of a union, or itself. -/
def alternatives : TypeExpr → List TypeExpr
  | .union _ members => members
  | a => [a]

/-- One of some types: unions among them are taken in, of equal types the first is kept, and one
type left is the union itself. -/
def unite (bar : Bool) (types : List TypeExpr) : TypeExpr :=
  match (types.flatMap alternatives).eraseDupsBy fun a b => alike a b with
  | [member] => member
  | members => .union bar members

def annotate (tags : List Text) : TypeExpr → TypeExpr
  | .annotated type inner => .annotated type (inner ++ tags)
  | type => .annotated type tags

mutual

/-- The type that an expression makes. -/
def built : TypeExpr → TypeExpr
  | .generic typing origin arguments =>
    .generic typing origin
      (if typing then (builtEach arguments).map asArgument else builtEach arguments)
  | .tupleOf element => .tupleOf (built element)
  | .union bar members => unite bar ((builtEach members).map asArgument)
  | .annotated type tags => (built type).asArgument.annotate tags
  | .literal values => .literal values.eraseDups
  | .callable argument => .callable (built argument).asArgument
  | .classOf type => .classOf (built type)
  | .collection kind items => .collection kind (builtEach items)
  | .entries members => .entries (builtEntries members)
  | a => a

def builtEach : List TypeExpr → List TypeExpr
  | [] => []
  | a :: more => built a :: builtEach more

def builtEntries : List (Text × TypeExpr) → List (Text × TypeExpr)
  | [] => []
  | (key, a) :: more => (key, built a) :: builtEntries more

end

def shown (a : TypeExpr) : Text :=
  match built a with
  | .nothing => "<class 'NoneType'>".toList
  | .ofClass c => listed "<class '" [c.qualified] "'>"
  | .ref name => listed "ForwardRef(" [Text.quoted name] ")"
  | a => innerText a

end TypeExpr

end RouteDoc
