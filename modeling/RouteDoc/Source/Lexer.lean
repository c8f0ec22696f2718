import RouteDoc.Source.Number
import RouteDoc.Source.Token
import RouteDoc.Text.Identifier
import RouteDoc.Text.Line

/-! Cutting Python source text into tokens: lines and indentations, words, numbers, quotations and
signs. -/

namespace RouteDoc.Source.Lexer

/-- The width of an indentation with tabs to multiples of eight, and with tabs as wide as a space;
two lines agree only if both agree. -/
structure Margin where
  column : Nat := 0
  narrow : Nat := 0
  deriving DecidableEq, Repr, Inhabited

/-- What the text read so far has opened, and the number of the line. -/
structure State where
  row : Nat := 1
  /-- The open brackets, the innermost first. -/
  brackets : List Char := []
  /-- The open indentations, the innermost first. -/
  margins : List Margin := []
  deriving DecidableEq, Repr, Inhabited

def bracketLimit : Nat := 200

/-- The most indentations that are open at once, that of the whole text included. -/
def marginLimit : Nat := 100

/-- The blanks at the start of a line: the margin, the lines passed on the way, and the rest. A
backslash before the end of a line carries the margin over to the next line; if it is wide by then,
it stays as it is. -/
def readMargin (margin : Margin) (fixed : Nat) (rows : Nat) : Text → Option (Margin × Nat × Text)
  | ' ' :: rest => readMargin ⟨margin.column + 1, margin.narrow + 1⟩ fixed rows rest
  | '\t' :: rest => readMargin ⟨(margin.column / 8 + 1) * 8, margin.narrow + 1⟩ fixed rows rest
  | '\x0c' :: rest => readMargin {} fixed rows rest
  | '\\' :: '\n' :: c :: rest =>
    readMargin margin (if fixed = 0 then margin.column else fixed) (rows + 1) (c :: rest)
  | '\\' :: _ => none
  | rest => some (if fixed = 0 then margin else ⟨fixed, fixed⟩, rows, rest)

/-- The margins and the tokens at a line that begins a statement; going back must meet a margin that
is open. -/
def enter (state : State) (margin : Margin) : Option (State × List Token) :=
  let top := state.margins.headD {}
  if margin.column = top.column then if margin.narrow = top.narrow then some (state, []) else none
  else if margin.column > top.column then
    if margin.narrow > top.narrow ∧ state.margins.length + 1 < marginLimit then
      some ({ state with margins := margin :: state.margins }, [⟨state.row, .indent⟩])
    else none
  else
    let margins := state.margins.dropWhile (margin.column < ·.column)
    if margins.headD {} = margin then
      some ({ state with margins },
        List.replicate (state.margins.length - margins.length) ⟨state.row, .dedent⟩)
    else none

/-- Whether a name may begin with a character, by its looks; characters beyond ASCII may. -/
def maybeStart (c : Char) : Bool := c.isAlpha || c == '_' || 128 ≤ c.toNat

/-- The end of a quotation: its body, the lines passed, and the rest. A backslash takes the next
character with it. -/
def readBody (mark : Char) (thrice : Bool) (rows : Nat) : Text → Option (Text × Nat × Text)
  | [] => none
  | '\\' :: c :: rest => do
    let (body, rows, rest) ← readBody mark thrice (if c = '\n' then rows + 1 else rows) rest
    return ('\\' :: c :: body, rows, rest)
  | c :: rest =>
    if c = mark ∧ !thrice then some ([], rows, rest)
    else if c = mark ∧ rest.take 2 = [mark, mark] then some ([], rows, rest.drop 2)
    else if c = '\n' ∧ !thrice then none
    else do
      let (body, rows, rest) ← readBody mark thrice (if c = '\n' then rows + 1 else rows) rest
      return (c :: body, rows, rest)

/-- The letters that may stand before a quotation mark, in lower case. -/
def marks : List Text := ["", "b", "br", "f", "fr", "r", "rb", "rf", "u"].map (·.toList)

/-- The letters before a quotation mark at the start of a text, and the rest from the mark on. -/
def quotationStart? (t : Text) : Option (Text × Text) :=
  let letters := (t.take 2).takeWhile Char.isAlpha
  let rest := t.drop letters.length
  if rest.head?.any (fun c => c == '\x22' || c == '\x27') &&
      marks.contains (Text.toLowerAscii letters) then
    some (Text.toLowerAscii letters, rest)
  else none

/-- The quotation at a mark: the quotation, the lines passed, and the rest. -/
def readQuotation (letters : Text) : Text → Option (Quotation × Nat × Text)
  | [] => none
  | mark :: rest => do
    let thrice := rest.take 2 = [mark, mark]
    let (body, rows, rest) ← readBody mark thrice 0 (if thrice then rest.drop 2 else rest)
    return (⟨letters.contains 'r', letters.contains 'b', letters.contains 'f', body⟩, rows, rest)

/-- The signs of three, two and one characters. -/
def signs : List Text :=
  ["**=", "...", "//=", "<<=", ">>=",
    "!=", "%=", "&=", "**", "*=", "+=", "-=", "->", "//", "/=", ":=", "<<", "<=", "==", ">=", ">>",
    "@=", "^=", "|=",
    "%", "&", "(", ")", "*", "+", ",", "-", ".", "/", ":", ";", "<", "=", ">", "@", "[", "]", "^",
    "\x7b", "|", "\x7d", "~"].map (·.toList)

/-- The longest sign at the start of a text, and the rest. -/
def readSign (t : Text) : Option (Text × Text) :=
  signs.findSome? fun sign => (Text.dropStart? sign t).map (sign, ·)

/-- The bracket that closes another one. -/
def partner? : Char → Option Char
  | '(' => some ')'
  | '[' => some ']'
  | '\x7b' => some '\x7d'
  | _ => none

/-- The open brackets after a sign; a closing one must be the partner of the innermost. -/
def trackBrackets (brackets : List Char) (sign : Text) : Option (List Char) :=
  match sign with
  | [c] =>
    if (partner? c).isSome then
      if brackets.length < bracketLimit then some (c :: brackets) else none
    else if c = ')' ∨ c = ']' ∨ c = '\x7d' then
      match brackets with
      | d :: brackets => if partner? d = some c then some brackets else none
      | [] => none
    else some brackets
  | _ => some brackets

/-- The token at the start of a text, the state after it, and the rest. -/
def readToken (state : State) (t : Text) : Option (Token × State × Text) :=
  match t with
  | [] => none
  | c :: after =>
    -- Letters in front of a mark belong to the quotation, so it is looked for before a word.
    match quotationStart? t with
    | some (letters, rest) => do
      let (q, rows, rest) ← readQuotation letters rest
      return (⟨state.row, .quotation q⟩, { state with row := state.row + rows }, rest)
    | none =>
      if maybeStart c then
        let word := t.takeWhile Number.isNameChar
        if Text.isIdentifier word then some (⟨state.row, .word word⟩, state, t.drop word.length)
        else none
      else if c.isDigit || (c == '.' && after.head?.any Char.isDigit) then do
        let (imaginary, rest) ← Number.afterNumber? t
        return (⟨state.row, .number imaginary⟩, state, rest)
      else do
        let (sign, rest) ← readSign t
        let brackets ← trackBrackets state.brackets sign
        return (⟨state.row, .sign sign⟩, { state with brackets }, rest)

/-- Whether a character separates tokens of a line. -/
def isSpace (c : Char) : Bool := c == ' ' || c == '\t' || c == '\x0c'

/-- The tokens of the rest of a text, at the start of a line or inside one. Each step but the one at
the start of a line takes a character, so the fuel need not pass twice the length. -/
def readTokens : (fuel : Nat) → (atStart : Bool) → State → Text → Option (List Token)
  | 0, _, _, _ => none
  | fuel + 1, true, state, t => do
    let (margin, rows, t) ← readMargin {} 0 0 t
    let state := { state with row := state.row + rows }
    match t with
    | [] => return List.replicate state.margins.length ⟨state.row, .dedent⟩
    | '#' :: rest => readTokens fuel true state (rest.dropWhile (· != '\n'))
    | '\n' :: rest => readTokens fuel true { state with row := state.row + 1 } rest
    | t =>
      let (state, tokens) ← enter state margin
      return tokens ++ (← readTokens fuel false state t)
  | fuel + 1, false, state, t =>
    match t with
    | [] => none
    | '\\' :: '\n' :: c :: rest =>
      readTokens fuel false { state with row := state.row + 1 } (c :: rest)
    | '#' :: rest => readTokens fuel false state (rest.dropWhile (· != '\n'))
    | '\n' :: rest =>
      let next := { state with row := state.row + 1 }
      if state.brackets.isEmpty then do
        return ⟨state.row, .lineEnd⟩ :: (← readTokens fuel true next rest)
      else readTokens fuel false next rest
    | c :: rest =>
      if isSpace c then readTokens fuel false state rest
      else do
        let (token, state, rest) ← readToken state (c :: rest)
        return token :: (← readTokens fuel false state rest)

/-- A text with one kind of line end, and with one after its last line. -/
def finished (t : Text) : Text :=
  let t := Text.unifyLineEnds t
  if t.getLast? = some '\n' then t else t ++ ['\n']

/-- The tokens of a text, or nothing if it cannot be cut. -/
def tokens? (t : Text) : Option (List Token) :=
  let text := finished t
  if text.contains '\x00' then none else readTokens (2 * text.length + 2) true {} text

end RouteDoc.Source.Lexer
