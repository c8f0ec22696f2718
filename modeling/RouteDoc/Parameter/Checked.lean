import RouteDoc.Parameter.Basic
import RouteDoc.Schema.Checked

/-! Parameters from data. The schema stands under `schema`, or if that is not there under
`schema_`. -/

namespace RouteDoc

def Location.ofData : Data → Checked Location
  | .text t => (Location.ofWord? t).elim (.flaw .choice) .ok
  | _ => .flaw .choice

def Parameter.ofData (d : Data) : Checked Parameter :=
  d.asRecord fun entries =>
    let schemaName :=
      if (Data.get? entries "schema".toList).isNone ∧ (Data.get? entries "schema_".toList).isSome
      then "schema_" else "schema"
    (Checked.ap (.ok Parameter.mk) (Data.field entries "name" Data.asText))
      |>.ap (Data.field entries "location" Location.ofData)
      |>.ap (Data.fieldOr entries "required" false Data.asBool)
      |>.ap (Data.fieldOr entries "description" [] Data.asText)
      |>.ap (Data.field entries schemaName Schema.ofData)
      |>.ap (Data.fieldOr entries "default" none (Data.asOptional Data.asText))
      |>.ap (Data.fieldOr entries "example" none (Data.asOptional Data.asText))

end RouteDoc
