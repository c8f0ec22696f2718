import RouteDoc.Model.Catalog

/-! Descriptors: the few forms of values that schemas tell apart, and the form of every type. -/

namespace RouteDoc

inductive Kind where
  | integer
  | number
  | boolean
  | string
  | bytes
  | datetime
  | file
  deriving DecidableEq, Repr, Inhabited

/-- A kind of single value, with the width in bits if the type asks for one. -/
structure Primitive where
  kind : Kind
  bits : Option Nat := none
  signed : Bool := true
  deriving DecidableEq, Repr, Inhabited

inductive Descriptor where
  | primitive (primitive : Primitive)
  /-- A value of the model with this name. -/
  | composite (model : Text)
  | sequence (element : Descriptor)
  | mapping
  /-- Anything else: unions, plain classes, and types that say nothing. -/
  | unclassified
  deriving DecidableEq, Repr, Inhabited

namespace ClassName

def descriptor (c : ClassName) : Descriptor :=
  if c.isA .bool then .primitive { kind := .boolean }
  else if c.isA .int then .primitive ⟨.integer, c.bits, !c.isAnyOf unsignedInts⟩
  else if c.isA .float then .primitive { kind := .number, bits := c.bits }
  else if c.isAnyOf [.bytes, .bytearray] then .primitive { kind := .bytes }
  else if c.isA .str then .primitive { kind := .string }
  else if c.isA .datetime then .primitive { kind := .datetime }
  else if c.isA .uploadFile then .primitive { kind := .file }
  else if c.isA .baseModel then .composite c.path.1.toList
  else if c.isAnyOf mappings then .mapping
  else if c.isAnyOf sequences then .sequence .unclassified
  else .unclassified

/-- The form of the values of a class with arguments, the first of which has this form. -/
def genericDescriptor (origin : ClassName) (first : Descriptor) : Descriptor :=
  if origin.isAnyOf mappings then .mapping
  else if origin.isAnyOf sequences then .sequence first
  else .unclassified

/-- The form of a sample value of a class. `first` is the form of its first item if it has one. -/
def sampleDescriptor (c : ClassName) (first : Option Descriptor) : Descriptor :=
  if c.isAnyOf [.str, .bytes, .bytearray] then c.descriptor
  else if c.isA .mapping then .mapping
  else if c.isAnyOf [.list, .tuple, .set, .frozenset] then .sequence (first.getD .unclassified)
  else c.descriptor

end ClassName

namespace TypeExpr

mutual

/-- The form of the values of a type that an expression makes. A union has the form of its only
member besides nothing, or none. -/
def descriptor (catalog : Catalog) : TypeExpr → Descriptor
  | .nothing | .any | .typeVar | .newType | .literal _ | .callable _ | .classOf _ => .unclassified
  | .ofClass c => c.descriptor
  | .bare origin => origin.genericDescriptor .unclassified
  | .ref name => if (catalog.find? name).isSome then .composite name else .unclassified
  | .generic _ origin arguments =>
    origin.genericDescriptor ((firstDescriptor catalog arguments).getD .unclassified)
  | .tupleOf element => .sequence (descriptor catalog element)
  | .union _ members =>
    match memberDescriptors catalog members with
    | [form] => form
    | _ => .unclassified
  | .annotated type _ => descriptor catalog type
  | .boolean _ => ClassName.sampleDescriptor .bool none
  | .integer _ => ClassName.sampleDescriptor .int none
  | .real _ => ClassName.sampleDescriptor .float none
  | .text _ => ClassName.sampleDescriptor .str none
  | .bytes mutable _ => ClassName.sampleDescriptor (if mutable then .bytearray else .bytes) none
  | .collection kind items => kind.sampleDescriptor (firstDescriptor catalog items)
  | .entries _ => ClassName.sampleDescriptor .dict none
  | .instance c _ => c.sampleDescriptor none
  | .modelInstance name => .composite name

def firstDescriptor (catalog : Catalog) : List TypeExpr → Option Descriptor
  | [] => none
  | a :: _ => some (descriptor catalog a)

/-- The forms of the members of a union other than nothing. -/
def memberDescriptors (catalog : Catalog) : List TypeExpr → List Descriptor
  | [] => []
  | .ofClass .noneType :: more => memberDescriptors catalog more
  | a :: more => descriptor catalog a :: memberDescriptors catalog more

end

def describe (catalog : Catalog) (type : TypeExpr) : Descriptor := type.built.descriptor catalog

/-- Whether a type stands for nothing: no body and no parameters. -/
def isNothing : TypeExpr → Bool
  | .nothing => true
  | _ => false

end TypeExpr

end RouteDoc
