import RouteDoc.Yaml.Token.Name
import RouteDoc.Yaml.Token.Scalar

/-! The tokens of YAML text, as the scanner of PyYAML finds them: what it accepts beyond the
language or refuses within it is accepted and refused here. A token may turn out to begin a key only
when the colon behind it is met; such keys are noted by the numbers of their tokens, and their marks
are put in at the end. -/

namespace RouteDoc.Yaml

/-- A token that begins a key if a colon follows it. -/
structure KeyStart where
  /-- The number of the token. -/
  number : Nat
  /-- Whether the token can be nothing but a key. -/
  required : Bool
  index : Nat
  line : Nat
  column : Nat
  deriving DecidableEq, Repr, Inhabited

/-- Whether a token can begin a key no more: a key stays on one line and is not long. -/
def KeyStart.isStale (c : Cursor) (k : KeyStart) : Bool :=
  k.line != c.line || k.index + 1024 < c.index

/-- How far a text has been read into tokens. -/
structure Reading where
  cursor : Cursor
  /-- The tokens so far, the latest first. -/
  tokens : List Token := []
  /-- The columns of the open blocks, the innermost first. -/
  indents : List Nat := []
  /-- Whether a key may begin here. -/
  allowed : Bool := true
  /-- The token that may begin a key at this level of flow collections. -/
  keyStart : Option KeyStart := none
  /-- The tokens that may begin keys at the levels around this one. -/
  outer : List (Option KeyStart) := []
  /-- The numbers of the tokens that begin keys, the latest first, and whether a block begins with
  the key. -/
  keys : List (Nat × Bool) := []
  deriving Repr, Inhabited

namespace Reading

def inFlow (r : Reading) : Bool := !r.outer.isEmpty

def add (tokens : List Token) (c : Cursor) (r : Reading) : Reading :=
  { r with tokens := tokens.reverse ++ r.tokens, cursor := c }

/-- Say whether a key may begin next. -/
def allow (allowed : Bool) (r : Reading) : Reading := { r with allowed := allowed }

/-! ### Blocks -/

/-- Close the blocks whose columns are not to be kept. Flow collections have no blocks. -/
def close (keep : Nat → Bool) (r : Reading) : Reading :=
  if r.inFlow then r
  else
    let closed := r.indents.takeWhile (!keep ·)
    { r with
      tokens := closed.map (fun _ => Token.blockEnd) ++ r.tokens
      indents := r.indents.drop closed.length }

/-- Whether a column is further in than the open blocks. -/
def isDeeper (column : Nat) (r : Reading) : Bool := r.indents.head?.elim true (· < column)

/-- The tokens that open a block at a column, unless a block is open there. -/
def openBlock (start : Token) (column : Nat) (r : Reading) : Reading :=
  if r.isDeeper column then
    { r with tokens := start :: r.tokens, indents := column :: r.indents }
  else r

/-! ### Keys -/

/-- Give up the key of this level. -/
def dropKey (r : Reading) : Except Fault Reading :=
  if r.keyStart.any (·.required) then .error .malformed else .ok { r with keyStart := none }

/-- Give up the keys that have become stale. -/
def dropStale (r : Reading) : Except Fault Reading :=
  let fresh (start : Option KeyStart) := start.filter (!·.isStale r.cursor)
  if (r.keyStart :: r.outer).any (·.any fun k => k.isStale r.cursor && k.required) then
    .error .malformed
  else .ok { r with keyStart := fresh r.keyStart, outer := r.outer.map fresh }

/-- Note that the next token may begin a key. -/
def noteKey (r : Reading) : Except Fault Reading := do
  if !r.allowed then return r
  else
    let r ← r.dropKey
    let c := r.cursor
    -- In the column of an open block nothing but a key or a mark of the block can stand.
    let required := !r.inFlow && r.indents.head? == some c.column
    return { r with
      keyStart := some ⟨r.tokens.length, required, c.index, c.line, c.column⟩ }

/-! ### Tokens of each kind -/

/-- A token that may begin a key, read by `read` from here. -/
def single (read : Cursor → Except Fault (Token × Cursor)) (r : Reading) :
    Except Fault Reading := do
  let r ← r.noteKey
  let (token, c) ← read r.cursor
  return (r.add [token] c).allow false

/-- A mark between documents, or a directive. -/
def apart (read : Cursor → Except Fault (Token × Cursor)) (r : Reading) :
    Except Fault Reading := do
  let r ← (r.close fun _ => false).dropKey
  let (token, c) ← read r.cursor
  return (r.add [token] c).allow false

def openFlow (start : Token) (r : Reading) : Except Fault Reading := do
  let r ← r.noteKey
  return { (r.add [start] r.cursor.next).allow true with
    keyStart := none, outer := r.keyStart :: r.outer }

def closeFlow (mark : Token) (r : Reading) : Except Fault Reading := do
  let r ← r.dropKey
  match r.outer with
  | [] => .error .malformed
  | keyStart :: outer =>
    return { (r.add [mark] r.cursor.next).allow false with keyStart := keyStart, outer := outer }

def separate (r : Reading) : Except Fault Reading := do
  let r ← r.dropKey
  return (r.add [.flowEntry] r.cursor.next).allow true

/-- The mark of an item in a block, or of a key: outside flow collections a block begins with it. -/
def begin (start mark : Token) (allowed : Bool) (r : Reading) : Except Fault Reading := do
  if !r.inFlow && !r.allowed then .error .malformed
  else
    let r := if r.inFlow then r else r.openBlock start r.cursor.column
    let r ← r.dropKey
    return (r.add [mark] r.cursor.next).allow allowed

/-- A colon. The token noted before it begins a key; without one, the key is empty. -/
def takeValue (r : Reading) : Except Fault Reading :=
  match r.keyStart with
  | none => r.begin .blockMapping .value (!r.inFlow)
  | some k =>
    let opens := !r.inFlow && r.isDeeper k.column
    let r := { r with
      keyStart := none
      keys := (k.number, opens) :: r.keys
      indents := if opens then k.column :: r.indents else r.indents }
    .ok ((r.add [.value] r.cursor.next).allow false)

def block (folded : Bool) (r : Reading) : Except Fault Reading := do
  let r ← r.dropKey
  let (text, c) ← Scalar.readBlock folded (r.indents.head?.elim 0 (· + 1)) r.cursor.next
  return (r.add [.scalar false text] c).allow true

def quoted (double : Bool) (r : Reading) : Except Fault Reading :=
  r.single fun c => do
    let (text, c) ← Scalar.readQuoted double (c.rest.length + 1) c.next
    return (.scalar false text, c)

/-- A plain scalar. Behind a line break a key may begin. -/
def plain (r : Reading) : Except Fault Reading := do
  let r ← r.noteKey
  let c := r.cursor
  let (text, ended, c) :=
    Scalar.readPlain r.inFlow (r.indents.head?.elim 0 (· + 1)) false (c.rest.length + 1) c
  return (r.add [.scalar true text] c).allow ended

/-- Whether a plain scalar begins with a character that another one follows. -/
def beginsPlain (flow : Bool) (c d : Char) : Bool :=
  !(isSpaceOrBreak c || "-?:,[]\x7b\x7d#&*!|>\x27\x22%@`".toList.contains c) ||
    (!isSpaceOrBreak d && (c == '-' || (!flow && (c == '?' || c == ':'))))

/-- The next token, where the cursor stands in front of one. -/
def readToken (r : Reading) : Except Fault Reading :=
  let c := r.cursor
  let d := c.head
  let free := isSpaceOrBreak (c.peek 1)
  let name (make : Text → Token) (c : Cursor) : Except Fault (Token × Cursor) :=
    (Name.readAnchor c.next).map fun (name, c) => (make name, c)
  -- The order counts: a dash, a question mark or a colon may also begin a plain scalar.
  if c.column = 0 ∧ d = '%' then r.apart fun c => Name.readDirective c.next
  else if c.column = 0 ∧ c.isMark "---" then r.apart fun c => .ok (.documentStart, c.forward 3)
  else if c.column = 0 ∧ c.isMark "..." then r.apart fun c => .ok (.documentEnd, c.forward 3)
  else if d = '[' then r.openFlow .flowSequence
  else if d = '\x7b' then r.openFlow .flowMapping
  else if d = ']' then r.closeFlow .flowSequenceEnd
  else if d = '\x7d' then r.closeFlow .flowMappingEnd
  else if d = ',' then r.separate
  else if d = '-' ∧ free then r.begin .blockSequence .blockEntry true
  else if d = '?' ∧ (r.inFlow ∨ free) then r.begin .blockMapping .key (!r.inFlow)
  else if d = ':' ∧ (r.inFlow ∨ free) then r.takeValue
  else if d = '*' then r.single (name .alias)
  else if d = '&' then r.single (name .anchor)
  else if d = '!' then r.single Name.readTag
  else if d = '|' ∧ !r.inFlow then r.block false
  else if d = '>' ∧ !r.inFlow then r.block true
  else if d = '\x27' then r.quoted false
  else if d = '\x22' then r.quoted true
  else if beginsPlain r.inFlow d (c.peek 1) then r.plain
  else .error .malformed

/-! ### The whole text -/

/-- The place of the next token behind blanks, comments and breaks, and whether a key may begin
there. -/
def skipToToken (flow : Bool) : (fuel : Nat) → (allowed : Bool) → Cursor → Bool × Cursor
  | 0, allowed, c => (allowed, c)
  | fuel + 1, allowed, c =>
    let c := c.skipComment
    if isBreak c.head then skipToToken flow fuel (allowed || !flow) c.takeBreak.2 else (allowed, c)

/-- Go to the next token, and close the blocks that end before it. -/
def approach (r : Reading) : Except Fault Reading := do
  let c := r.cursor
  -- A byte order mark may stand in front of the whole text.
  let c := if c.index = 0 ∧ c.head = '\ufeff' then c.next else c
  let (allowed, c) := skipToToken r.inFlow (c.rest.length + 1) r.allowed c
  let r ← { r with cursor := c, allowed := allowed }.dropStale
  return r.close (· ≤ c.column)

/-- One step: the next token, or nothing at the end. -/
def step (r : Reading) : Except Fault (Option Reading) := do
  let r ← r.approach
  if r.cursor.rest.isEmpty then return none
  else return some (← r.readToken)

/-- Put the marks of keys in front of their tokens; the keys come with the first one first. -/
def weave : (number : Nat) → (keys : List (Nat × Bool)) → List Token → List Token
  | _, _, [] => []
  | number, (k, opens) :: keys, token :: tokens =>
    if k = number then
      (if opens then [.blockMapping, .key] else [.key]) ++ token :: weave (number + 1) keys tokens
    else token :: weave (number + 1) ((k, opens) :: keys) tokens
  | _, [], tokens => tokens

/-- The tokens so far with the marks of keys among them. -/
def woven (r : Reading) : List Token :=
  weave 0 (r.keys.mergeSort fun a b => a.1 ≤ b.1) r.tokens.reverse

/-- The tokens up to a place where the text cannot be read on. A token that may begin a key is held
back until it is known whether it does, and those behind it with it. -/
def brokenBy (fault : Fault) (r : Reading) : List Token :=
  let pending := (r.keyStart :: r.outer).filterMap id |>.map (·.number)
  let count := pending.foldl min r.tokens.length
  { r with tokens := r.tokens.drop (r.tokens.length - count) }.woven ++ [.broken fault]

/-- The tokens of a text that is read on from here. -/
def readAll : (fuel : Nat) → Reading → List Token
  | 0, r => r.woven
  | fuel + 1, r =>
    match r.dropStale with
    | .error fault => r.brokenBy fault
    | .ok r =>
      match r.step with
      | .error fault => r.brokenBy fault
      | .ok (some next) => readAll fuel next
      | .ok none =>
        match (r.close fun _ => false).dropKey with
        | .error fault => r.brokenBy fault
        | .ok r => r.woven ++ [.finish]

end Reading

/-- Whether a character may stand in a document. -/
def isDocumentChar (c : Char) : Bool :=
  let n := c.toNat
  c == '\t' || c == '\n' || c == '\r' || (0x20 ≤ n && n ≤ 0x7E) || n == 0x85 ||
    (0xA0 ≤ n && n ≤ 0xD7FF) || (0xE000 ≤ n && n ≤ 0xFFFD) || 0x10000 ≤ n

def Token.ofText (t : Text) : List Token :=
  if t.all isDocumentChar then Reading.readAll (t.length + 1) { cursor := { rest := t } }
  else [.broken .malformed]

end RouteDoc.Yaml
