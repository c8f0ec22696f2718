import RouteDoc.Entries
import RouteDoc.Json.Basic
import RouteDoc.Json.Literal
import RouteDoc.Number.Numeral

/-! Reading JSON values. A whole number without fraction and exponent stays whole; a repeated name
keeps its first place and its last value. Besides RFC 8259 the words for infinity and for no number
are read, as the printer writes them. -/

namespace RouteDoc.Json

def isGap (c : Char) : Bool := c == ' ' || c == '\n' || c == '\r' || c == '\t'

def skipGap (t : Text) : Text := t.dropWhile isGap

def isNumberChar (c : Char) : Bool :=
  c.isDigit || c == '-' || c == '+' || c == '.' || c == 'e' || c == 'E'

/-- A number: no leading zeros, and digits on both sides of a point. -/
def number? (t : Text) : Option Json := do
  let (negative, body) := match t with
    | '-' :: rest => (true, rest)
    | _ => (false, t)
  let whole := body.takeWhile Char.isDigit
  let rest := body.dropWhile Char.isDigit
  guard (!whole.isEmpty && (whole.length = 1 || whole.head? != some '0'))
  if rest.isEmpty then
    let n := Numeral.ofText whole
    return .int (if negative then -(n : Int) else n)
  else
    -- Elsewhere a decimal may do without a digit behind its point.
    match rest with
    | '.' :: after => guard (after.head?.elim false Char.isDigit)
    | _ => pure ()
    let (digits, exponent) ← Numeral.decimal? body
    return .float (.ofDecimal negative digits exponent)

def keywords : List (Text × Json) :=
  [("null".toList, .null), ("true".toList, .bool true), ("false".toList, .bool false),
    ("NaN".toList, .float .nan), ("Infinity".toList, .float (.infinite false)),
    ("-Infinity".toList, .float (.infinite true))]

/-- A word or a number at the start of a text. -/
def scalar? (t : Text) : Option (Json × Text) :=
  match keywords.findSome? fun (word, value) => (Text.dropStart? word t).map (value, ·) with
  | some found => some found
  | none => (number? (t.takeWhile isNumberChar)).map (·, t.dropWhile isNumberChar)

mutual

def readValue : (fuel : Nat) → Text → Option (Json × Text)
  | 0, _ => none
  | fuel + 1, t =>
    match skipGap t with
    | '[' :: rest =>
      match skipGap rest with
      | ']' :: rest => some (.array [], rest)
      | _ => (readItems fuel rest).map fun (items, rest) => (.array items, rest)
    | '\x7b' :: rest =>
      match skipGap rest with
      | '\x7d' :: rest => some (.object [], rest)
      | _ => (readMembers fuel [] rest).map fun (members, rest) => (.object members, rest)
    | '\x22' :: rest => (Literal.decode? ('\x22' :: rest)).map fun (s, rest) => (.string s, rest)
    | t => scalar? t

def readItems : (fuel : Nat) → Text → Option (List Json × Text)
  | 0, _ => none
  | fuel + 1, t => do
    let (item, rest) ← readValue fuel t
    match skipGap rest with
    | ',' :: rest =>
      let (items, rest) ← readItems fuel rest
      return (item :: items, rest)
    | ']' :: rest => return ([item], rest)
    | _ => none

/-- The members of an object up to its closing brace, after those read before. -/
def readMembers : (fuel : Nat) → Entries Text Json → Text → Option (Entries Text Json × Text)
  | 0, _, _ => none
  | fuel + 1, before, t => do
    let (name, rest) ← Literal.decode? (skipGap t)
    match skipGap rest with
    | ':' :: rest =>
      let (value, rest) ← readValue fuel rest
      let members := before.put name value
      match skipGap rest with
      | ',' :: rest => readMembers fuel members rest
      | '\x7d' :: rest => return (members, rest)
      | _ => none
    | _ => none

end

def parse? (t : Text) : Option Json := do
  let (value, rest) ← readValue (2 * t.length + 1) t
  guard (skipGap rest).isEmpty
  return value

end RouteDoc.Json
