import RouteDoc.Text.Basic

/-! The classes that types name, with the classes above each. A class stands below the abstract
classes whose operations it has, also where it only declares that it has them. -/

namespace RouteDoc

inductive ClassName where
  | int | float | bool | str | bytes | bytearray | object | complex
  | dict | list | tuple | set | frozenset | range | memoryview | type
  | int8 | int16 | int32 | int64 | uint | uint8 | uint16 | uint32 | uint64
  | float32 | float64 | uploadFile
  | datetime | date | time | timedelta | decimal | uuid
  | orderedDict | defaultdict | counter | deque | noneType | baseModel
  | sequence | mutableSequence | abstractSet | mapping | mutableMapping | iterable
  | plain | color | level | mode
  | myStr | myInt | myFloat | myInt32 | myUInt8 | myFloat32 | myBytes | myDateTime | myUpload
  | myList | myDict | pair | typed
  deriving DecidableEq, Repr, Inhabited

namespace ClassName

/-- The short name and the module of a class; the classes of the core have no module. -/
def path : ClassName → String × String
  | .int => ("int", "") | .float => ("float", "") | .bool => ("bool", "") | .str => ("str", "")
  | .bytes => ("bytes", "") | .bytearray => ("bytearray", "") | .object => ("object", "")
  | .complex => ("complex", "") | .dict => ("dict", "") | .list => ("list", "")
  | .tuple => ("tuple", "") | .set => ("set", "") | .frozenset => ("frozenset", "")
  | .range => ("range", "") | .memoryview => ("memoryview", "") | .type => ("type", "")
  | .int8 => ("Int8", "api_spec_gen.schema.types")
  | .int16 => ("Int16", "api_spec_gen.schema.types")
  | .int32 => ("Int32", "api_spec_gen.schema.types")
  | .int64 => ("Int64", "api_spec_gen.schema.types")
  | .uint => ("UInt", "api_spec_gen.schema.types")
  | .uint8 => ("UInt8", "api_spec_gen.schema.types")
  | .uint16 => ("UInt16", "api_spec_gen.schema.types")
  | .uint32 => ("UInt32", "api_spec_gen.schema.types")
  | .uint64 => ("UInt64", "api_spec_gen.schema.types")
  | .float32 => ("Float32", "api_spec_gen.schema.types")
  | .float64 => ("Float64", "api_spec_gen.schema.types")
  | .uploadFile => ("UploadFile", "api_spec_gen.schema.types")
  | .datetime => ("datetime", "datetime") | .date => ("date", "datetime")
  | .time => ("time", "datetime") | .timedelta => ("timedelta", "datetime")
  | .decimal => ("Decimal", "decimal") | .uuid => ("UUID", "uuid")
  | .orderedDict => ("OrderedDict", "collections")
  | .defaultdict => ("defaultdict", "collections") | .counter => ("Counter", "collections")
  | .deque => ("deque", "collections") | .noneType => ("NoneType", "")
  | .baseModel => ("BaseModel", "pydantic.main")
  | .sequence => ("Sequence", "collections.abc")
  | .mutableSequence => ("MutableSequence", "collections.abc")
  | .abstractSet => ("Set", "collections.abc") | .mapping => ("Mapping", "collections.abc")
  | .mutableMapping => ("MutableMapping", "collections.abc")
  | .iterable => ("Iterable", "collections.abc")
  | .plain => ("Plain", "__main__") | .color => ("Color", "__main__")
  | .level => ("Level", "__main__") | .mode => ("Mode", "__main__")
  | .myStr => ("MyStr", "__main__") | .myInt => ("MyInt", "__main__")
  | .myFloat => ("MyFloat", "__main__") | .myInt32 => ("MyInt32", "__main__")
  | .myUInt8 => ("MyUInt8", "__main__") | .myFloat32 => ("MyFloat32", "__main__")
  | .myBytes => ("MyBytes", "__main__") | .myDateTime => ("MyDateTime", "__main__")
  | .myUpload => ("MyUpload", "__main__") | .myList => ("MyList", "__main__")
  | .myDict => ("MyDict", "__main__") | .pair => ("Pair", "__main__")
  | .typed => ("Typed", "__main__")

def all : List ClassName :=
  [.int, .float, .bool, .str, .bytes, .bytearray, .object, .complex, .dict, .list, .tuple, .set,
    .frozenset, .range, .memoryview, .type, .int8, .int16, .int32, .int64, .uint, .uint8, .uint16,
    .uint32, .uint64, .float32, .float64, .uploadFile, .datetime, .date, .time, .timedelta,
    .decimal, .uuid, .orderedDict, .defaultdict, .counter, .deque, .noneType, .baseModel, .sequence,
    .mutableSequence, .abstractSet, .mapping, .mutableMapping, .iterable, .plain, .color, .level,
    .mode, .myStr, .myInt, .myFloat, .myInt32, .myUInt8, .myFloat32, .myBytes, .myDateTime,
    .myUpload, .myList, .myDict, .pair, .typed]

/-- The class with a short name, among those of a module or outside all modules. -/
def ofName? (name : String) (abstract : Bool) : Option ClassName :=
  all.find? fun c => c.path.1 = name ∧ (c.path.2 = "collections.abc") = abstract

def qualified (c : ClassName) : Text :=
  let (name, module) := c.path
  if module.isEmpty then name.toList else module.toList ++ '.' :: name.toList

def ancestors : ClassName → List ClassName
  | .bool | .int8 | .int16 | .int32 | .int64 | .uint | .uint8 | .uint16 | .uint32 | .uint64
  | .level | .myInt => [.int]
  | .myInt32 => [.int32, .int]
  | .myUInt8 => [.uint8, .int]
  | .float32 | .float64 | .myFloat => [.float]
  | .myFloat32 => [.float32, .float]
  | .myStr | .color => [.str, .sequence]
  | .myBytes => [.bytes, .sequence]
  | .str | .bytes | .range | .memoryview | .tuple | .mutableSequence => [.sequence]
  | .bytearray | .list | .deque => [.mutableSequence, .sequence]
  | .myList => [.list, .mutableSequence, .sequence]
  | .pair => [.tuple, .sequence]
  | .set | .frozenset => [.abstractSet]
  | .datetime => [.date]
  | .myDateTime => [.datetime, .date]
  | .myUpload => [.uploadFile]
  | .dict => [.mutableMapping, .mapping]
  | .orderedDict | .defaultdict | .counter | .myDict | .typed => [.dict, .mutableMapping, .mapping]
  | .mutableMapping => [.mapping]
  | _ => []

/-- Whether `c` is `d` or stands below it. -/
def isA (c d : ClassName) : Bool := c = d || c.ancestors.contains d

def isAnyOf (c : ClassName) (classes : List ClassName) : Bool := classes.any c.isA

/-- The number of bits that a class itself asks for. -/
def ownBits : ClassName → Option Nat
  | .int8 | .uint8 => some 8
  | .int16 | .uint16 => some 16
  | .int32 | .uint32 | .float32 => some 32
  | .int64 | .uint64 | .float64 => some 64
  | _ => none

/-- The number of bits of a class, from itself or the nearest class above that asks for some. -/
def bits (c : ClassName) : Option Nat := (c :: c.ancestors).findSome? ownBits

def unsignedInts : List ClassName := [.uint, .uint8, .uint16, .uint32, .uint64]

/-- The classes of key and value pairs. -/
def mappings : List ClassName := [.dict, .mapping, .mutableMapping]

/-- The classes of items in a row, and those of sets. -/
def sequences : List ClassName := [.list, .tuple, .set, .frozenset, .sequence, .abstractSet]

end ClassName

end RouteDoc
