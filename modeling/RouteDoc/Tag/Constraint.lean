import RouteDoc.Tag.Basic

/-! The constraints in a `validate` tag. The comma that separates options also separates the values
of an `enum=` option, so the values after its first are put back. -/

namespace RouteDoc.Tag

/-- What begins an option that lists the values allowed. -/
def enumMark : Text := "enum=".toList

/-- The options after `current`: one without an equals sign belongs to the list before it. -/
def regroupFrom (current : Text) : List Text → List Text
  | [] => [current]
  | option :: rest =>
    if Text.startsWith enumMark current && !option.contains '=' then
      regroupFrom (current ++ ',' :: option) rest
    else current :: regroupFrom option rest

/-- Options with the values of each `enum=` option in one. -/
def regroup : List Text → List Text
  | [] => []
  | option :: rest => regroupFrom option rest

/-- The constraints of a `validate` tag. Its name is never one. -/
def constraints (validate : Tag) : List Text := regroup validate.options

end RouteDoc.Tag
