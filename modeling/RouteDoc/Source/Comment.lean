import RouteDoc.Text.Blank

/-! The comments of a source text, found line by line. A line is read knowing only what the lines
before it leave open: a quoted text, brackets, or a statement that goes on. -/

namespace RouteDoc.Source

/-- A comment with its mark. -/
structure Comment where
  row : Nat
  text : Text
  /-- Whether its line begins, after blanks, with a comment mark. -/
  ownLine : Bool
  deriving DecidableEq, Repr, Inhabited

namespace Comment

/-- What the end of a line leaves open, brackets apart. -/
inductive Pending where
  | nothing
  /-- A statement that a backslash carries over to the next line. -/
  | statement
  /-- A quoted text with its quotation mark, once or three times. -/
  | quoted (mark : Char) (thrice : Bool)
  deriving DecidableEq, Repr, Inhabited

inductive Closing where
  | before (rest : Text)
  | laterLine
  | never
  deriving DecidableEq, Repr, Inhabited

def isTwice (mark : Char) (t : Text) : Bool := t.take 2 == [mark, mark]

/-- The end of a quoted text, seen from a place inside it. A backslash takes the next character with
it; before the end of a line it carries the text over to the next one. -/
def closing (mark : Char) (thrice : Bool) : Text → Closing
  | [] => if thrice then .laterLine else .never
  | '\\' :: '\n' :: _ => .laterLine
  | '\\' :: '\r' :: '\n' :: _ => .laterLine
  | '\\' :: _ :: rest => closing mark thrice rest
  | c :: rest =>
    if c ≠ mark then closing mark thrice rest
    else if !thrice then .before rest
    else if isTwice mark rest then .before (rest.drop 2)
    else closing mark thrice rest

/-- The rest of a line: its comments, the depth of brackets at its end, and what it leaves open. -/
structure Tail where
  comments : List Text := []
  depth : Int
  pending : Pending := .nothing
  deriving DecidableEq, Repr, Inhabited

/-- Whether a character can stand in a comment behind a statement. -/
def isInside (c : Char) : Bool := c != '\r' && c != '\n'

def depthChange (c : Char) : Int :=
  if ['(', '[', '\x7b'].contains c then 1 else if [')', ']', '\x7d'].contains c then -1 else 0

/-- Read a line on from a place outside quoted texts. Each step takes a character, so the fuel need
not pass the length of the text. -/
def readTail : (fuel : Nat) → (depth : Int) → Text → Tail
  | 0, depth, _ => { depth }
  | _ + 1, depth, [] => { depth }
  | fuel + 1, depth, c :: rest =>
    if c = '#' then
      let tail := readTail fuel depth (rest.dropWhile isInside)
      { tail with comments := (c :: rest.takeWhile isInside) :: tail.comments }
    else if c = '\\' ∧ (rest = ['\n'] ∨ rest = ['\r', '\n']) then { depth, pending := .statement }
    else if c = '\x22' ∨ c = '\x27' then
      let thrice := isTwice c rest
      match closing c thrice (if thrice then rest.drop 2 else rest) with
      | .before rest => readTail fuel depth rest
      | .laterLine => { depth, pending := .quoted c thrice }
      -- A mark that nothing closes is passed over by itself.
      | .never => readTail fuel depth rest
    else readTail fuel (depth + depthChange c) rest

/-- What the lines read so far leave open. -/
structure Reader where
  depth : Int := 0
  /-- The indentations that are open, the innermost first. -/
  indents : List Nat := [0]
  pending : Pending := .nothing
  deriving DecidableEq, Repr, Inhabited

/-- The column after the blanks at the start of a line, and the rest of the line. Tabs go to
multiples of eight, and a form feed starts over. -/
def margin (column : Nat) : Text → Nat × Text
  | ' ' :: rest => margin (column + 1) rest
  | '\t' :: rest => margin ((column / 8 + 1) * 8) rest
  | '\x0c' :: rest => margin 0 rest
  | rest => (column, rest)

/-- The open indentations at a line that begins a statement; going back must meet one of them. -/
def indent (indents : List Nat) (column : Nat) : Option (List Nat) :=
  if column > indents.headD 0 then some (column :: indents)
  else if indents.contains column then some (indents.dropWhile (column < ·))
  else none

def Reader.goOn (reader : Reader) (rest : Text) : Reader × List Text :=
  let tail := readTail rest.length reader.depth rest
  ({ reader with depth := tail.depth, pending := tail.pending }, tail.comments)

def Reader.readLine (reader : Reader) (line : Text) : Option (Reader × List Text) :=
  match reader.pending with
  | .quoted mark thrice =>
    match closing mark thrice line with
    | .before rest => some (reader.goOn rest)
    | .laterLine => some (reader, [])
    | .never => some ({ reader with pending := .nothing }, [])
  | .statement => some (reader.goOn line)
  | .nothing =>
    if reader.depth ≠ 0 then some (reader.goOn line)
    else
      -- Lines with nothing but blanks or a comment leave the indentations as they are.
      let (column, rest) := margin 0 line
      match rest with
      | [] => some (reader, [])
      | '\r' :: _ | '\n' :: _ => some (reader, [])
      | '#' :: _ => some (reader, [Text.trimEnd (!isInside ·) rest])
      | _ => do
        let indents ← indent reader.indents column
        return ({ reader with indents }).goOn rest

def Reader.isAtRest (reader : Reader) : Bool :=
  reader.depth == 0 && reader.pending == .nothing

/-- Whether a line begins, after blanks, with a comment mark. -/
def beginsWithMark (line : Text) : Bool := (Text.trimStart Text.isBlank line).head? == some '#'

/-- The comments of lines with their ends, the first of which has the given number. -/
def readLines (reader : Reader) (row : Nat) : List Text → Option (List Comment)
  | [] => if reader.isAtRest then some [] else none
  | line :: more => do
    let (reader, texts) ← reader.readLine line
    let comments ← readLines reader (row + 1) more
    return texts.map (⟨row, ·, beginsWithMark line⟩) ++ comments

def endedLines : Text → List Text
  | [] => []
  | c :: rest =>
    if c = '\n' then [c] :: endedLines rest
    else
      match endedLines rest with
      | [] => [[c]]
      | line :: more => (c :: line) :: more

end Comment

/-- The comments of a source text in their order, or nothing if it leaves something open or its
indentation is uneven. -/
def comments? (t : Text) : Option (List Comment) := Comment.readLines {} 1 (Comment.endedLines t)

end RouteDoc.Source
