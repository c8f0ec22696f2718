import RouteDoc.Tag.Reader
import RouteDoc.Text.Quoted

/-! Why a model gives no schema and no parameters. -/

namespace RouteDoc

/-- A fault in a model or in the tags of its fields. -/
inductive SchemaFault where
  /-- A tag text that cannot be read. -/
  | tagText (fault : Tag.Fault) (text : Text)
  /-- A body field without a name. -/
  | unnamedField (model field : Text)
  /-- A constraint whose value is no number; `form` shows one that is. -/
  | constraint (option form : Text)
  /-- A model that contains itself. -/
  | recursiveModel (model : Text)
  /-- A model that embeds itself. -/
  | recursiveEmbed (model : Text)
  /-- A field that is bound to no part of a request. -/
  | unbound
  /-- A request described by something else than a model. -/
  | notModel (shown : Text)
  /-- A field whose type names a model that is not declared. -/
  | unknownName (model name : Text)
  deriving DecidableEq, Repr, Inhabited

namespace SchemaFault

def message : SchemaFault → Text
  | .tagText fault text =>
    "bad syntax for struct tag ".toList ++ fault.part ++ " in ".toList ++ Text.quoted text
  | .unnamedField model field =>
    "Field ".toList ++ model ++ '.' :: field ++ " has no json tag".toList
  | .constraint option form =>
    "Cannot parse ".toList ++ Text.quoted option ++ ". the right syntax is validate:\"".toList ++
      form ++ "\".".toList
  | .recursiveModel model => "Model ".toList ++ model ++ " refers to itself".toList
  | .recursiveEmbed model => "Model ".toList ++ model ++ " embeds itself".toList
  | .unbound => "No binding tag among query, uri, header, cookie".toList
  | .notModel shown =>
    "Request model ".toList ++ shown ++ " is not a pydantic model or dataclass".toList
  | .unknownName model name =>
    "Cannot resolve the fields of ".toList ++ model ++ ": name ".toList ++ '\x27' :: name ++
      "\x27 is not defined".toList

end SchemaFault

/-- Why a computation on models stops: a fault that is the author's, or a whole number with more
digits than are read. -/
inductive Failure where
  | schema (fault : SchemaFault)
  | oversized (digits : Nat)
  deriving DecidableEq, Repr, Inhabited

namespace Failure

/-- The most digits that a whole number may have. -/
def digitLimit : Nat := 4300

def message : Failure → Text
  | .schema fault => fault.message
  | .oversized digits =>
    "Exceeds the limit (".toList ++ Text.ofNat digitLimit ++
      " digits) for integer string conversion: value has ".toList ++ Text.ofNat digits ++
      " digits; use sys.set_int_max_str_digits() to increase the limit".toList

end Failure

end RouteDoc
