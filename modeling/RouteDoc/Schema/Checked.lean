import RouteDoc.Data.Check
import RouteDoc.Schema.Basic

/-! Schemas from data. -/

namespace RouteDoc

def SchemaType.ofData : Data → Checked SchemaType
  | .text t => (SchemaType.ofWord? t).elim (.flaw .word) .ok
  | _ => .flaw .word

namespace Schema

/-- A bound from data is a floating-point number. -/
def boundOfData (d : Data) : Checked Bound := d.asFloat.map Bound.real

/-- A schema from data nested at most as deep as the fuel. -/
def ofDataWithin : (fuel : Nat) → Data → Checked Schema
  | 0, _ => .flaw .model
  | fuel + 1, d => d.asRecord fun entries =>
    (Checked.ap (.ok Schema.mk) (Data.field entries "type" SchemaType.ofData))
      |>.ap (Data.fieldOr entries "format" [] Data.asText)
      |>.ap (Data.fieldOr entries "description" [] Data.asText)
      |>.ap (Data.fieldOr entries "default" none (Data.asOptional Data.asText))
      |>.ap (Data.fieldOr entries "example" none (Data.asOptional Data.asText))
      |>.ap (Data.fieldOr entries "minimum" none (Data.asOptional boundOfData))
      |>.ap (Data.fieldOr entries "maximum" none (Data.asOptional boundOfData))
      |>.ap (Data.fieldOr entries "length" none (Data.asOptional Data.asInteger))
      |>.ap (Data.fieldOr entries "enum" [] (Data.asList Data.asText))
      |>.ap (Data.fieldOr entries "properties" [] (Data.asEntries (ofDataWithin fuel)))
      |>.ap (Data.fieldOr entries "required" [] (Data.asList Data.asText))
      |>.ap (Data.fieldOr entries "items" none (Data.asOptional (ofDataWithin fuel)))

def ofData (d : Data) : Checked Schema := ofDataWithin (d.depth + 1) d

end Schema

end RouteDoc
