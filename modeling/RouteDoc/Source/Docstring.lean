import RouteDoc.Source.Grammar.Statement
import RouteDoc.Source.Group
import RouteDoc.Text.Line

/-! Documentation: the quoted text with which a module, a class or a function begins. -/

namespace RouteDoc.Source.Docstring

/-- A text with each tab replaced by blanks up to the next multiple of eight. -/
def expandTabs (column : Nat) : Text → Text
  | [] => []
  | '\t' :: rest =>
    let width := 8 - column % 8
    Text.fill ' ' width ++ expandTabs (column + width) rest
  | c :: rest => c :: expandTabs (if c = '\n' ∨ c = '\r' then 0 else column + 1) rest

def margin (line : Text) : Nat := (line.takeWhile Text.isBlank).length

/-- The least margin of the lines that have something on them. -/
def commonMargin (lines : List Text) : Nat :=
  (((lines.filter (·.any (!Text.isBlank ·))).map margin).min?).getD 0

/-- The lines of a documentation text without tabs, the blanks that all lines but the first begin
with, and empty lines at both ends. -/
def clean (t : Text) : Text :=
  match Text.splitOn '\n' (expandTabs 0 t) with
  | [] => []
  | first :: rest =>
    let width := commonMargin rest
    let lines := Text.trimStart Text.isBlank first :: rest.map (·.drop width)
    let lines := (lines.dropWhile (·.isEmpty)).reverse.dropWhile (·.isEmpty)
    Text.join ['\n'] lines.reverse

/-- The group of a documentation text; one that is empty when cleaned has none. -/
def group? (row : Nat) (value : Text) : Option Group :=
  let text := clean value
  if text.isEmpty then none else some ⟨row, Text.lines text⟩

/-- The documentation of a body: the text that it begins with. -/
def ofBody? : List Statement → Option Group
  | .text row value :: _ => group? row value
  | _ => none

mutual

def ofStatement : Statement → List Group
  | .text .. | .simple => []
  | .definition body => (ofBody? body).toList ++ ofStatements body
  | .compound body => ofStatements body

def ofStatements : List Statement → List Group
  | [] => []
  | statement :: rest => ofStatement statement ++ ofStatements rest

end

/-- The documentation of a module and inside it. -/
def ofModule (body : List Statement) : List Group := (ofBody? body).toList ++ ofStatements body

end RouteDoc.Source.Docstring
