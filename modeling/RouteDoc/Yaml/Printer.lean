import RouteDoc.Json.Basic
import RouteDoc.Number.Shortest
import RouteDoc.Yaml.Break
import RouteDoc.Yaml.Scalar

/-! YAML documents of JSON values in block style, laid out as the safe dumper of PyYAML lays them
out: mappings and sequences over several lines, empty ones as brackets, and each text in the first
style that holds it: without quotes, in apostrophes, or in quotation marks with escapes. Texts are
folded at spaces once a line has passed eighty columns. -/

namespace RouteDoc.Yaml

/-! ### The line being written -/

/-- What is written so far, the last character first, and the state of the current line: its length,
whether it ends in white space that can separate tokens, and whether it holds only indentation. -/
structure Pen where
  written : List Char := []
  column : Nat := 0
  separated : Bool := true
  indentOnly : Bool := true

namespace Pen

def write (pen : Pen) (t : Text) : Pen :=
  { pen with written := t.reverse ++ pen.written, column := pen.column + t.length }

def endLine (pen : Pen) (c : Char) : Pen := ⟨c :: pen.written, 0, true, true⟩

/-- Go to a column of a line that holds only indentation, on a new line if need be. -/
def indentTo (pen : Pen) (indent : Nat) : Pen :=
  let pen :=
    if !pen.indentOnly || indent < pen.column || (pen.column = indent && !pen.separated) then
      pen.endLine '\n'
    else pen
  if pen.column < indent then
    { pen.write (Text.fill ' ' (indent - pen.column)) with separated := true }
  else pen

/-- Write a mark of the structure. `spaced` if white space must stand before it, `indents` if what
follows it on the line counts as indented by it. -/
def mark (pen : Pen) (t : Text) (spaced indents : Bool) : Pen :=
  let pen := pen.write (if pen.separated || !spaced then t else ' ' :: t)
  { pen with separated := false, indentOnly := pen.indentOnly && indents }

/-- Continue a text after a fold. -/
def inText (pen : Pen) : Pen := { pen with separated := false, indentOnly := false }

end Pen

/-! ### Styles of texts -/

inductive Style where
  | plain
  | single
  | double
  deriving DecidableEq, Repr

/-- The column after which texts are folded. -/
def bestWidth : Nat := 80

/-- Whether a character can be written as itself. -/
def isOrdinary (c : Char) : Bool :=
  let n := c.toNat
  n == 10 || (0x20 ≤ n && n ≤ 0x7E) || n == 0x85 || (0xA0 ≤ n && n ≤ 0xFFFD && n != 0xFEFF) ||
    (0x10000 ≤ n && n < 0x10FFFF)

/-- Whether a plain text may not begin with `c` before `rest`. -/
def isLeadingMark (c : Char) (rest : Text) : Bool :=
  "#,[]\x7b\x7d&*!|>\x27\"%@`".toList.contains c ||
    ("?:-".toList.contains c && (rest.head?.elim true isSpaceOrBreak))

/-- Whether a text holds a mark that plain texts may not: a colon before white space, or a number
sign after it. The text begins after `previous`. -/
def holdsMark (previous : Char) : Text → Bool
  | [] => false
  | c :: rest =>
    (c == ':' && (rest.head?.elim true isSpaceOrBreak)) || (c == '#' && isSpaceOrBreak previous) ||
      holdsMark c rest

/-- Whether two neighbours in a text satisfy two predicates. -/
def hasNeighbours (p q : Char → Bool) : Text → Bool
  | c :: d :: rest => (p c && q d) || hasNeighbours p q (d :: rest)
  | _ => false

def allowsPlain (t : Text) : Bool :=
  match t with
  | [] => true
  | c :: rest =>
    let ends := [c, (c :: rest).getLastD c]
    !(ends.any fun e => e == ' ' || isBreak e) && t.all (fun e => isOrdinary e && !isBreak e) &&
      !isLeadingMark c rest && !holdsMark c rest &&
      !("---".toList.isPrefixOf t) && !("...".toList.isPrefixOf t)

def allowsSingle (t : Text) : Bool :=
  t.all isOrdinary && !hasNeighbours isBreak (· == ' ') t && !hasNeighbours (· == ' ') isBreak t

def isMultiline (t : Text) : Bool := t.any isBreak

/-- The style of a text. A key of a mapping must fit on its line. -/
def styleOf (t : Text) (isKey : Bool) : Style :=
  if ScalarKind.ofText t = .text && allowsPlain t && !(isKey && (t.isEmpty || isMultiline t)) then
    .plain
  else if allowsSingle t && !(isKey && isMultiline t) then .single
  else .double

/-! ### Writing texts -/

/-- A text without quotes: words with single spaces where a line may be folded. The text is cut into
pieces of spaces and pieces of other characters. -/
def writePlain (pen : Pen) (indent : Nat) (fold : Bool) (t : Text) : Pen :=
  let pen := (if pen.separated then pen else pen.write [' ']).inText
  (t.splitBy fun a b => (a == ' ') == (b == ' ')).foldl (fun pen piece =>
    if piece = [' '] && fold && bestWidth < pen.column then (pen.indentTo indent).inText
    else pen.write piece) pen

/-- Where a character of a text in apostrophes belongs: to spaces, to breaks, or to a word. -/
def spaceClass (c : Char) : Nat := if c == ' ' then 0 else if isBreak c then 1 else 2

/-- The pieces of a text in apostrophes from a piece on. A single space between words is where a
line may be folded; a break is written twice if it is `\n`, so that it is not taken for a fold. -/
def writePieces (indent : Nat) (fold : Bool) (pen : Pen) (isFirst : Bool) : List Text → Pen
  | [] => pen
  | piece :: more =>
    let pen :=
      match piece with
      | [' '] =>
        if fold && bestWidth < pen.column && !isFirst && !more.isEmpty then pen.indentTo indent
        else pen.write piece
      | c :: _ =>
        if isBreak c then
          let pen := if c == '\n' then pen.endLine '\n' else pen
          (piece.foldl Pen.endLine pen).indentTo indent
        else pen.write (piece.flatMap fun c => if c = '\x27' then [c, c] else [c])
      | [] => pen
    writePieces indent fold pen false more

def writeSingle (pen : Pen) (indent : Nat) (fold : Bool) (t : Text) : Pen :=
  let pieces := t.splitBy fun a b => spaceClass a == spaceClass b
  (writePieces indent fold (pen.mark ['\x27'] true false) true pieces).mark ['\x27'] false false

/-- The letters of short escapes. -/
def escapeLetter? (c : Char) : Option Char :=
  [(0, '0'), (7, 'a'), (8, 'b'), (9, 't'), (10, 'n'), (11, 'v'), (12, 'f'), (13, 'r'), (27, 'e'),
    (34, '\x22'), (92, '\\'), (0x85, 'N'), (0xA0, '_'), (0x2028, 'L'), (0x2029, 'P')].lookup c.toNat

/-- Whether a character stands as itself in quotation marks. -/
def isUnescaped (c : Char) : Bool :=
  let n := c.toNat
  c != '\x22' && c != '\\' && c != '\u2028' && c != '\u2029' && c != '\uFEFF' &&
    ((0x20 ≤ n && n ≤ 0x7E) || (0xA0 ≤ n && n ≤ 0xFFFD))

def upperHex (width n : Nat) : Text := (Text.ofHex width n).map Char.toUpper

def escape (c : Char) : Text :=
  let n := c.toNat
  match escapeLetter? c with
  | some letter => ['\\', letter]
  | none =>
    if n ≤ 0xFF then ['\\', 'x'] ++ upperHex 2 n
    else if n ≤ 0xFFFF then ['\\', 'u'] ++ upperHex 4 n
    else ['\\', 'U'] ++ upperHex 8 n

/-- Fold a line behind a backslash. A space that begins the next line is escaped. -/
def foldEscaped (pen : Pen) (indent : Nat) (next : Option Char) : Pen :=
  let pen := ((pen.write ['\\']).indentTo indent).inText
  if next = some ' ' then pen.write ['\\'] else pen

/-- The rest of a text in quotation marks. `pending` holds the characters before it that stand as
themselves and are still to be written, the last one first. A long line is folded before a space,
before a character with none pending, or behind an escape. -/
def writeEscaped (indent : Nat) (fold : Bool) (pen : Pen) (isFirst : Bool) (pending : List Char) :
    Text → Pen
  | [] => pen.write pending.reverse
  | c :: rest =>
    let inner := fold && !isFirst && !rest.isEmpty
    if isUnescaped c then
      if inner && (c == ' ' || pending.isEmpty) && bestWidth < pen.column + pending.length then
        writeEscaped indent fold (foldEscaped (pen.write pending.reverse) indent (some c)) false [c]
          rest
      else writeEscaped indent fold pen false (c :: pending) rest
    else
      let pen := (pen.write pending.reverse).write (escape c)
      let pen :=
        if inner && bestWidth + 1 < pen.column then foldEscaped pen indent rest.head? else pen
      writeEscaped indent fold pen false [] rest

def writeDouble (pen : Pen) (indent : Nat) (fold : Bool) (t : Text) : Pen :=
  (writeEscaped indent fold (pen.mark ['\x22'] true false) true [] t).mark ['\x22'] false false

/-- A text in its style, at the indentation of the container it stands in. -/
def writeText (pen : Pen) (indent : Nat) (isKey : Bool) (t : Text) : Pen :=
  match styleOf t isKey with
  | .plain => writePlain pen (indent + 2) (!isKey) t
  | .single => writeSingle pen (indent + 2) (!isKey) t
  | .double => writeDouble pen (indent + 2) (!isKey) t

/-! ### Writing values -/

/-- Numbers have the fewest digits that read back, and a point also before an exponent. -/
def numberLayout : Binary64.Layout := ⟨-4, 15, ['e'], true, ".inf".toList, ".nan".toList⟩

/-- The longest key that stands before its colon; a longer one stands behind a question mark. -/
def longestKey : Nat := 122

def isSimpleKey (key : Text) : Bool :=
  key.length ≤ longestKey && !key.isEmpty && !isMultiline key

mutual

/-- A value in a container with an indentation. `inMapping` if it is the value of a key. -/
def writeValue (pen : Pen) (indent : Nat) (inMapping : Bool) : Json → Pen
  | .null => writePlain pen indent false "null".toList
  | .bool value => writePlain pen indent false (if value then "true" else "false").toList
  | .int value => writePlain pen indent false (Text.ofInt value)
  | .float value => writePlain pen indent false (value.render numberLayout)
  | .string value => writeText pen indent false value
  | .array [] => (pen.mark ['['] true false).mark [']'] false false
  -- Behind a key and its colon, the dashes stand in the column of the key.
  | .array (item :: items) =>
    writeItems pen (if inMapping && !pen.indentOnly then indent else indent + 2) (item :: items)
  | .object [] => (pen.mark ['\x7b'] true false).mark ['\x7d'] false false
  | .object (first :: members) => writeMembers pen (indent + 2) (first :: members)

/-- The items of a sequence, each behind a dash. -/
def writeItems (pen : Pen) (indent : Nat) : List Json → Pen
  | [] => pen
  | item :: items =>
    let pen := (pen.indentTo indent).mark ['-'] true true
    writeItems (writeValue pen indent false item) indent items

def writeMembers (pen : Pen) (indent : Nat) : List (Text × Json) → Pen
  | [] => pen
  | (key, value) :: members =>
    let pen := pen.indentTo indent
    let pen :=
      if isSimpleKey key then (writeText pen indent true key).mark [':'] false false
      else
        let pen := writeText (pen.mark ['?'] true true) indent false key
        (pen.indentTo indent).mark [':'] true true
    writeMembers (writeValue pen indent true value) indent members

end

def renderObject (members : List (Text × Json)) : Text :=
  let pen := if members.isEmpty then writeValue {} 0 false (.object []) else
    writeMembers {} 0 members
  (pen.indentTo 0).written.reverse

end RouteDoc.Yaml
