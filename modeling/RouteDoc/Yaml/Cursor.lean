import RouteDoc.Yaml.Break

/-! A place in YAML text. -/

namespace RouteDoc.Yaml

/-- The text from a place on, and where the place is. -/
structure Cursor where
  rest : Text
  index : Nat := 0
  line : Nat := 0
  column : Nat := 0
  deriving DecidableEq, Repr, Inhabited

namespace Cursor

/-- The character `n` places on; NUL behind the end. -/
def peek (c : Cursor) (n : Nat) : Char := c.rest.getD n '\x00'

/-- The next character; NUL at the end. -/
def head (c : Cursor) : Char := c.rest.headD '\x00'

/-- The place behind the next character. A byte order mark has no width. -/
def next (c : Cursor) : Cursor :=
  match c.rest with
  | [] => c
  | d :: rest =>
    if isBreak d then ⟨rest, c.index + 1, c.line + 1, 0⟩
    else ⟨rest, c.index + 1, c.line, if d = '\ufeff' then c.column else c.column + 1⟩

def forward : (n : Nat) → Cursor → Cursor
  | 0, c => c
  | n + 1, c => forward n c.next

/-- The longest run of characters that satisfy `p`, and the place behind it. -/
def takeRun (p : Char → Bool) (c : Cursor) : Text × Cursor :=
  let run := c.rest.takeWhile p
  (run, c.forward run.length)

def skipRun (p : Char → Bool) (c : Cursor) : Cursor := (c.takeRun p).2

/-- Whether a line ends here, or the text does. -/
def isLineEnd (d : Char) : Bool := isBreak d || d == '\x00'

/-- A break as it counts in a scalar, and the place behind it; nothing if there is none here. -/
def takeBreak (c : Cursor) : Text × Cursor :=
  let d := c.head
  if !isBreak d then ([], c)
  else if d = '\n' ∨ d = '\x85' then (['\n'], c.next)
  else ([d], c.next)

/-- The place behind the spaces and the comment here. -/
def skipComment (c : Cursor) : Cursor :=
  let c := c.skipRun (· == ' ')
  if c.head = '#' then c.skipRun (!isLineEnd ·) else c

/-- Whether one of the marks between documents stands here; a blank or a break must follow. -/
def isMark (mark : String) (c : Cursor) : Bool :=
  c.rest.take 3 == mark.toList && isSpaceOrBreak (c.peek 3)

def isAnyMark (c : Cursor) : Bool := c.isMark "---" || c.isMark "..."

end Cursor

end RouteDoc.Yaml
