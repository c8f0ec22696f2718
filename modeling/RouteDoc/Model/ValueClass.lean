import RouteDoc.Model.Catalog

/-! The classes of values, by name. A type that is used as a value has a class too: the one of
classes, or the one of the form in which the type is written. -/

namespace RouteDoc

def ClassName.classOfClass : ClassName → Text
  | .color | .level | .mode => "EnumType".toList
  | .baseModel => "ModelMetaclass".toList
  | .typed => "_TypedDictMeta".toList
  | c => if c.path.2 = "collections.abc" then "ABCMeta".toList else "type".toList

def TypeExpr.valueClass (catalog : Catalog) : TypeExpr → Text
  | .nothing => "NoneType".toList
  | .ofClass c => c.classOfClass
  | .any => "_AnyMeta".toList
  | .typeVar => "TypeVar".toList
  | .newType => "NewType".toList
  | .bare .tuple => "_TupleType".toList
  | .bare _ => "_SpecialGenericAlias".toList
  | .ref name =>
    match catalog.find? name with
    | some model => if model.kind = .validated then "ModelMetaclass".toList else "type".toList
    | none => "ForwardRef".toList
  | .generic true _ _ => "_GenericAlias".toList
  | .generic false _ _ | .tupleOf _ | .classOf _ => "GenericAlias".toList
  | .union true _ => "UnionType".toList
  | .union false _ => "_UnionGenericAlias".toList
  | .annotated _ _ => "_AnnotatedAlias".toList
  | .literal _ => "_LiteralGenericAlias".toList
  | .callable _ => "_CallableGenericAlias".toList
  | .boolean _ => "bool".toList
  | .integer _ => "int".toList
  | .real _ => "float".toList
  | .text _ => "str".toList
  | .bytes mutable _ => if mutable then "bytearray".toList else "bytes".toList
  | .collection kind _ => kind.path.1.toList
  | .entries _ => "dict".toList
  | .instance c _ => c.path.1.toList
  | .modelInstance name => name

end RouteDoc
