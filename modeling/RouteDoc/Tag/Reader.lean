import RouteDoc.Tag.Basic

/-! Reading tag texts: pairs of a key and a JSON string literal, a colon between the two, with any
number of spaces around the pairs. The end of a literal is found before the literal is read. An
escape of half a surrogate pair is read as U+FFFD, so values that differ only in such halves are
read as one. -/

namespace RouteDoc.Tag

/-- What is wrong with a tag text, at the first pair that cannot be read. -/
inductive Fault where
  | key
  | pair
  | value
  deriving DecidableEq, Repr, Inhabited

def Fault.part : Fault → Text
  | .key => "key".toList
  | .pair => "pair".toList
  | .value => "value".toList

/-- Go on from a position of a text to the first character of `stop`, or to the end. Behind any
other character, `skip` says how many more are passed over, so that the end may be passed as well.
Each step takes a character, so the fuel need not pass the length of the text. -/
def scan (stop : Char → Bool) (skip : Char → Nat) (t : Text) : (fuel i : Nat) → Nat
  | 0, i => i
  | fuel + 1, i =>
    if h : i < t.length then
      if stop t[i] then i else scan stop skip t fuel (i + skip t[i] + 1)
    else i

/-- The characters of keys: all above the space but the colon, the quotation mark and U+007F. -/
def isKeyChar (c : Char) : Bool := 32 < c.toNat && c != ':' && c != '\x22' && c.toNat != 127

/-- The position behind the key at the start of a text. -/
def keyEnd (t : Text) : Nat := scan (!isKeyChar ·) (fun _ => 0) t t.length 0

/-- Go on from a position inside a literal to the mark that closes it. What stands behind a
backslash closes nothing. -/
def toMark (t : Text) (fuel i : Nat) : Nat :=
  scan (· == '\x22') (fun c => if c = '\\' then 1 else 0) t fuel i

/-- The position of the mark that closes the literal at the start of a text, or one behind the text
if nothing closes it. -/
def closingMark (t : Text) : Nat := toMark t t.length 1

/-- The text of the literal at the start of a text, and the rest. What stands up to the closing mark
must be a literal and nothing else. -/
def readLiteral? (t : Text) : Option (Text × Text) :=
  let i := closingMark t
  if t.length ≤ i then none
  else
    match Json.Literal.decode? (t.take (i + 1)) with
    | some (value, []) => some (value, t.drop (i + 1))
    | _ => none

/-- A pair at the start of a text, and the rest. -/
def readPair (t : Text) : Except Fault (Tag × Text) :=
  let i := keyEnd t
  if i = 0 then .error .key
  -- A colon with nothing behind it is a fault of the pair, not of the value.
  else if h : i + 1 < t.length then
    if t[i] ≠ ':' then .error .pair
    else if t[i + 1] ≠ '\x22' then .error .value
    else
      match readLiteral? (t.drop (i + 1)) with
      | some (value, rest) => .ok (ofValue (t.take i) value, rest)
      | none => .error .value
  else .error .pair

/-- The pairs of a text. Each pair takes at least one character, so the fuel need not pass the
length of the text. -/
def readPairs : (fuel : Nat) → Text → Except Fault FieldTags
  | 0, _ => .ok []
  | fuel + 1, t =>
    match Text.trimStart (· == ' ') t with
    | [] => .ok []
    | c :: rest => do
      let (tag, rest) ← readPair (c :: rest)
      return tag :: (← readPairs fuel rest)

def parse (t : Text) : Except Fault FieldTags := readPairs t.length t

end RouteDoc.Tag
