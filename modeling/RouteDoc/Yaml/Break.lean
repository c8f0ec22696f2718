import RouteDoc.Text.Basic

/-! Line breaks and blanks of YAML. -/

namespace RouteDoc.Yaml

/-- The breaks that a document may hold beside the carriage return. -/
def isBreak (c : Char) : Bool := c == '\n' || c == '\x85' || c == '\u2028' || c == '\u2029'

/-- What ends a word: a blank, a break, or the NUL character. -/
def isSpaceOrBreak (c : Char) : Bool :=
  c == ' ' || c == '\t' || c == '\r' || c == '\x00' || isBreak c

end RouteDoc.Yaml
