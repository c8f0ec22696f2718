import RouteDoc.Text.Word

/-! Paths of routes, whose parameters are written after a colon by authors and in braces in a
document. -/

namespace RouteDoc.Path

/-- Where a reader of a path stands: behind a slash, behind a slash and a colon, inside the name of
a parameter, or anywhere else. -/
inductive Place where
  | plain
  | slash
  | colon
  | name
  deriving DecidableEq, Repr

def Place.behind (c : Char) : Place := if c = '/' then .slash else .plain

/-- The rest of a path from a place on, with the longest run of word characters behind each slash
and colon in braces. At `colon` the colon is still to be written. -/
def sanitizeFrom : Place → List Char → List Char
  | .plain, [] => []
  | .slash, [] => []
  | .colon, [] => [':']
  | .name, [] => ['\x7d']
  | .plain, c :: rest => c :: sanitizeFrom (.behind c) rest
  | .slash, c :: rest =>
    if c = ':' then sanitizeFrom .colon rest else c :: sanitizeFrom (.behind c) rest
  | .colon, c :: rest =>
    if Text.isWord c then '\x7b' :: c :: sanitizeFrom .name rest
    else ':' :: c :: sanitizeFrom (.behind c) rest
  | .name, c :: rest =>
    if Text.isWord c then c :: sanitizeFrom .name rest
    else '\x7d' :: c :: sanitizeFrom (.behind c) rest

def sanitize (path : List Char) : List Char := sanitizeFrom .plain path

end RouteDoc.Path
