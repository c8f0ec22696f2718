import RouteDoc.Json.Basic
import RouteDoc.Json.Literal
import RouteDoc.Number.Shortest

/-! The text of JSON values: on one line, or with each item of a container on a line of its own. -/

namespace RouteDoc.Json

/-- Numbers have the fewest digits that read back and always a point or an exponent. A point stands
alone from `1e-4` to below `1e16`. -/
def numberLayout : Binary64.Layout :=
  ⟨-4, 15, ['e'], false, "Infinity".toList, "NaN".toList⟩

/-- The number of blanks by which a nested line is indented, or `none` for one line in all. -/
abbrev Layout := Option Nat

/-- What stands after an opening bracket and before a closing one, at a depth. -/
def Layout.edge (layout : Layout) (depth : Nat) : Text :=
  match layout with
  | none => []
  | some width => '\n' :: Text.fill ' ' (width * depth)

/-- What stands between two items of a container, at a depth. -/
def Layout.between (layout : Layout) (depth : Nat) : Text :=
  match layout with
  | none => [',', ' ']
  | some _ => ',' :: layout.edge depth

mutual

/-- The text of a value whose container has this depth. -/
def renderAt (layout : Layout) (depth : Nat) : Json → Text
  | .null => "null".toList
  | .bool value => (if value then "true" else "false").toList
  | .int value => Text.ofInt value
  | .float value => value.render numberLayout
  | .string value => Literal.encode value
  | .array [] => ['[', ']']
  | .array (item :: items) =>
    '[' :: layout.edge (depth + 1) ++ renderAt layout (depth + 1) item ++
      renderItems layout (depth + 1) items ++ layout.edge depth ++ [']']
  | .object [] => ['\x7b', '\x7d']
  | .object ((name, value) :: members) =>
    '\x7b' :: layout.edge (depth + 1) ++ Literal.encode name ++ [':', ' '] ++
      renderAt layout (depth + 1) value ++ renderMembers layout (depth + 1) members ++
      layout.edge depth ++ ['\x7d']

/-- The items after the first, each behind what separates two. -/
def renderItems (layout : Layout) (depth : Nat) : List Json → Text
  | [] => []
  | item :: items =>
    layout.between depth ++ renderAt layout depth item ++ renderItems layout depth items

def renderMembers (layout : Layout) (depth : Nat) : List (Text × Json) → Text
  | [] => []
  | (name, value) :: members =>
    layout.between depth ++ Literal.encode name ++ [':', ' '] ++ renderAt layout depth value ++
      renderMembers layout depth members

end

def render (layout : Layout) (value : Json) : Text := renderAt layout 0 value

end RouteDoc.Json
