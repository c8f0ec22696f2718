import RouteDoc.Text.Hex
import RouteDoc.Yaml.Cursor
import RouteDoc.Yaml.Fault

/-! Reading scalars: plain ones, quoted ones, and blocks. Line breaks inside the first two are
folded: one counts as a space, more as one break less. -/

namespace RouteDoc.Yaml.Scalar

/-- A folded break from the first break and those after it. -/
def fold (first : Text) (breaks : Text) : Text :=
  if first ≠ ['\n'] then first ++ breaks else if breaks.isEmpty then [' '] else breaks

/-! ### Plain scalars -/

/-- Whether a plain scalar ends before a character that another one follows. In flow context more
characters end it. -/
def endsPlain (flow : Bool) (c d : Char) : Bool :=
  isSpaceOrBreak c ||
    (c == ':' && (isSpaceOrBreak d || (flow && ",[]\x7b\x7d".toList.contains d))) ||
    (flow && ",?[]\x7b\x7d".toList.contains c)

/-- The longest part of a plain scalar without blanks. -/
def plainWord (flow : Bool) : Text → Text
  | [] => []
  | c :: rest => if endsPlain flow c (rest.headD '\x00') then [] else c :: plainWord flow rest

/-- The breaks between two lines of a plain scalar, or nothing at a mark between documents. -/
def plainBreaks : (fuel : Nat) → Cursor → Option Text × Cursor
  | 0, c => (some [], c)
  | fuel + 1, c =>
    if c.isAnyMark then (none, c)
    else
      let c := c.skipRun (· == ' ')
      if isBreak c.head then
        let (first, c) := c.takeBreak
        let (breaks, c) := plainBreaks fuel c
        (breaks.map (first ++ ·), c)
      else (some [], c)

/-- The blanks between two parts of a plain scalar, whether a line ends in them, and the place
behind them. No blanks are the end of the scalar. -/
def plainBlanks (c : Cursor) : Text × Bool × Cursor :=
  let (spaces, c) := c.takeRun (· == ' ')
  if isBreak c.head then
    let (first, c) := c.takeBreak
    match plainBreaks (c.rest.length + 1) c with
    | (none, c) => ([], true, c)
    | (some breaks, c) => (fold first breaks, true, c)
  else (spaces, false, c)

/-- A plain scalar, whether a line has ended behind it, and the place behind it. Outside flow
context its lines begin at column `indent` at least. -/
def readPlain (flow : Bool) (indent : Nat) (ended : Bool) :
    (fuel : Nat) → Cursor → Text × Bool × Cursor
  | 0, c => ([], ended, c)
  | fuel + 1, c =>
    let word := plainWord flow c.rest
    if c.head = '#' || word.isEmpty then ([], ended, c)
    else
      let (blanks, ended, c) := plainBlanks (c.forward word.length)
      if blanks.isEmpty || c.head = '#' || (!flow && c.column < indent) then (word, ended, c)
      else
        match readPlain flow indent ended fuel c with
        | ([], ended, c) => (word, ended, c)
        | (more, ended, c) => (word ++ blanks ++ more, ended, c)

/-! ### Quoted scalars -/

/-- Whether a character is a space or a tab. -/
def isGap (c : Char) : Bool := c == ' ' || c == '\t'

/-- The breaks behind the first one in a quoted scalar. A mark between documents is refused. -/
def quotedBreaks : (fuel : Nat) → Cursor → Except Fault (Text × Cursor)
  | 0, c => .ok ([], c)
  | fuel + 1, c =>
    if c.isAnyMark then .error .malformed
    else
      let c := c.skipRun isGap
      if isBreak c.head then do
        let (first, c) := c.takeBreak
        let (breaks, c) ← quotedBreaks fuel c
        return (first ++ breaks, c)
      else .ok ([], c)

/-- What a letter behind a backslash stands for. -/
def escapes : List (Char × Char) :=
  [('0', '\x00'), ('a', '\x07'), ('b', '\x08'), ('t', '\t'), ('\t', '\t'), ('n', '\n'),
    ('v', '\x0b'), ('f', '\x0c'), ('r', '\r'), ('e', '\x1b'), (' ', ' '), ('\x22', '\x22'),
    ('\\', '\\'), ('/', '/'), ('N', '\x85'), ('_', '\xa0'), ('L', '\u2028'), ('P', '\u2029')]

/-- How many digits follow a letter behind a backslash. -/
def escapeDigits : List (Char × Nat) := [('x', 2), ('u', 4), ('U', 8)]

/-- What stands for itself or is escaped behind a backslash, and the place behind it. -/
def readEscape (c : Cursor) : Except Fault (Text × Cursor) :=
  match escapes.lookup c.head, escapeDigits.lookup c.head with
  | some d, _ => .ok ([d], c.next)
  | none, some count =>
    let digits := c.next.rest.take count
    match Text.hexNumber? digits with
    | none => .error .malformed
    | some code =>
      if digits.length < count then .error .malformed
      else if code > 0x10FFFF then .error (.codePoint code)
      else .ok ([Text.charOf code], c.next.forward count)
  | none, none =>
    if isBreak c.head then quotedBreaks (c.rest.length + 1) c.takeBreak.2 else .error .malformed

/-- A quoted scalar from behind its opening mark, and the place behind the closing one. -/
def readQuoted (double : Bool) : (fuel : Nat) → Cursor → Except Fault (Text × Cursor)
  | 0, _ => .error .malformed
  | fuel + 1, c => do
    let d := c.head
    if c.rest.isEmpty then .error .malformed
    else if isGap d || isBreak d then
      let (gap, c) := c.takeRun isGap
      let (blanks, c) ←
        if isBreak c.head then do
          let (first, c) := c.takeBreak
          let (breaks, c) ← quotedBreaks (c.rest.length + 1) c
          pure (fold first breaks, c)
        else pure (gap, c)
      let (more, c) ← readQuoted double fuel c
      return (blanks ++ more, c)
    else if double && d = '\\' then
      let (found, c) ← readEscape c.next
      let (more, c) ← readQuoted double fuel c
      return (found ++ more, c)
    else if d = (if double then '\x22' else '\x27') then
      if !double && c.peek 1 = '\x27' then
        let (more, c) ← readQuoted double fuel (c.forward 2)
        return (d :: more, c)
      else return ([], c.next)
    else
      let (more, c) ← readQuoted double fuel c.next
      return (d :: more, c)

/-! ### Blocks -/

/-- What becomes of the breaks at the end of a block. -/
inductive Chomping where
  | strip
  | clip
  | keep
  deriving DecidableEq, Repr, Inhabited

/-- The chomping that a sign asks for. -/
def chompingOf? : Char → Option Chomping
  | '+' => some .keep
  | '-' => some .strip
  | _ => none

/-- The indentation that a digit asks for. -/
def widthOf? (c : Char) : Option Nat := if c.isDigit then some (c.toNat - 48) else none

/-- What stands behind the sign of a block, in either order: the chomping, the indentation, and the
place behind them. -/
def readHeader (c : Cursor) : Chomping × Option Nat × Cursor :=
  match chompingOf? c.head with
  | some chomping =>
    match widthOf? c.next.head with
    | some width => (chomping, some width, c.forward 2)
    | none => (chomping, none, c.next)
  | none =>
    match widthOf? c.head with
    | none => (.clip, none, c)
    | some width =>
      match chompingOf? c.next.head with
      | some chomping => (chomping, some width, c.forward 2)
      | none => (.clip, some width, c.next)

/-- The breaks at the start of a block, its widest column of spaces, and the place behind both. -/
def firstBreaks (widest : Nat) : (fuel : Nat) → Cursor → Text × Nat × Cursor
  | 0, c => ([], widest, c)
  | fuel + 1, c =>
    if c.head = ' ' then firstBreaks (max widest c.next.column) fuel c.next
    else if isBreak c.head then
      let (first, c) := c.takeBreak
      let (breaks, widest, c) := firstBreaks widest fuel c
      (first ++ breaks, widest, c)
    else ([], widest, c)

/-- The spaces up to a column. -/
def skipIndent (indent : Nat) : (fuel : Nat) → Cursor → Cursor
  | 0, c => c
  | fuel + 1, c =>
    if c.column < indent ∧ c.head = ' ' then skipIndent indent fuel c.next else c

/-- The breaks between two lines of a block, and the place behind them and the indentation. -/
def blockBreaks (indent : Nat) : (fuel : Nat) → Cursor → Text × Cursor
  | 0, c => ([], c)
  | fuel + 1, c =>
    let c := skipIndent indent (indent + 1) c
    if isBreak c.head then
      let (first, c) := c.takeBreak
      let (breaks, c) := blockBreaks indent fuel c
      (first ++ breaks, c)
    else ([], c)

/-- The lines of a block, at column `indent` of the first one. Of folded lines that begin with no
blank, a break between two counts as a space. -/
def readLines (folded : Bool) (chomping : Chomping) (indent : Nat) :
    (fuel : Nat) → (breaks : Text) → Cursor → Text × Cursor
  | 0, _, c => ([], c)
  | fuel + 1, breaks, c =>
    let (line, after) := c.takeRun (!Cursor.isLineEnd ·)
    let (lineBreak, after) := after.takeBreak
    let (between, after) := blockBreaks indent (after.rest.length + 1) after
    if after.column = indent ∧ !after.rest.isEmpty then
      let joint :=
        if folded && lineBreak == ['\n'] && !isGap c.head && !isGap after.head then
          if between.isEmpty then [' '] else []
        else lineBreak
      let (more, c) := readLines folded chomping indent fuel between after
      (breaks ++ line ++ joint ++ more, c)
    else
      let tail := match chomping with
        | .strip => []
        | .clip => lineBreak
        | .keep => lineBreak ++ between
      (breaks ++ line ++ tail, after)

/-- A block from behind its sign, and the place behind it. Its lines are indented by `least` at
least. -/
def readBlock (folded : Bool) (least : Nat) (c : Cursor) : Except Fault (Text × Cursor) :=
  let (chomping, width, c) := readHeader c
  let after := c.skipComment
  if width = some 0 || !(isBreak c.head || c.rest.isEmpty || c.head == ' ') ||
      !Cursor.isLineEnd after.head then .error .malformed
  else
    let c := after.takeBreak.2
    let least := max least 1
    let (breaks, indent, c) := match width with
      | none =>
        let (breaks, widest, c) := firstBreaks 0 (c.rest.length + 1) c
        (breaks, max least widest, c)
      | some width =>
        let indent := least + width - 1
        let (breaks, c) := blockBreaks indent (c.rest.length + 1) c
        (breaks, indent, c)
    if c.column = indent ∧ !c.rest.isEmpty then
      .ok (readLines folded chomping indent (c.rest.length + 1) breaks c)
    else .ok (if chomping = .keep then breaks else [], c)

end RouteDoc.Yaml.Scalar
