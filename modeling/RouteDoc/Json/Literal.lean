import RouteDoc.Text.Hex

/-! String literals of JSON. Reading accepts exactly the literals of RFC 8259: no raw control
character, and no escape but the eight short ones and four hexadecimal digits. -/

namespace RouteDoc.Json.Literal

def shortEscape? (c : Char) : Option Char :=
  if c = '\x08' then some 'b'
  else if c = '\x0c' then some 'f'
  else if c = '\n' then some 'n'
  else if c = '\r' then some 'r'
  else if c = '\t' then some 't'
  else none

/-- One character between the marks; characters beyond ASCII stay as they are. -/
def encodeChar (c : Char) : Text :=
  if c = '\x22' ∨ c = '\\' then ['\\', c]
  else match shortEscape? c with
    | some letter => ['\\', letter]
    | none => if c.toNat < 32 then ['\\', 'u'] ++ Text.ofHex 4 c.toNat else [c]

def encode (t : Text) : Text := '\x22' :: t.flatMap encodeChar ++ ['\x22']

def unescape? (letter : Char) : Option Nat :=
  match letter with
  | '\x22' => some 34
  | '\\' => some 92
  | '/' => some 47
  | 'b' => some 8
  | 'f' => some 12
  | 'n' => some 10
  | 'r' => some 13
  | 't' => some 9
  | _ => none

/-- The code units of a literal after its opening mark, and the text after its closing one. -/
def units? : Text → Option (List Nat × Text)
  | [] => none
  | '\x22' :: rest => some ([], rest)
  | '\\' :: 'u' :: a :: b :: c :: d :: rest => do
    let unit ← Text.hexNumber? [a, b, c, d]
    let (units, rest) ← units? rest
    return (unit :: units, rest)
  | '\\' :: letter :: rest => do
    let unit ← unescape? letter
    let (units, rest) ← units? rest
    return (unit :: units, rest)
  | c :: rest =>
    if c.toNat < 32 ∨ c = '\\' then none
    else (units? rest).map fun (units, rest) => (c.toNat :: units, rest)

/-- Whether a code unit is the first half of a surrogate pair. -/
def isHighSurrogate (n : Nat) : Bool := 0xD800 ≤ n && n < 0xDC00

/-- Whether a code unit is the second half of a surrogate pair. -/
def isLowSurrogate (n : Nat) : Bool := 0xDC00 ≤ n && n < 0xE000

/-- The character of a code unit. Texts cannot hold half a pair, so one that stands alone becomes
the replacement character, and texts that differ only in such halves are read as one. -/
def ofUnit (n : Nat) : Char :=
  if 0xD800 ≤ n ∧ n < 0xE000 then '\uFFFD' else Char.ofNat n

/-- The text of code units, each pair of surrogates making one character. -/
def ofUnits : List Nat → Text
  | [] => []
  | [n] => [ofUnit n]
  | high :: low :: rest =>
    if isHighSurrogate high && isLowSurrogate low then
      Char.ofNat (0x10000 + (high - 0xD800) * 0x400 + (low - 0xDC00)) :: ofUnits rest
    else ofUnit high :: ofUnits (low :: rest)

def decode? : Text → Option (Text × Text)
  | '\x22' :: rest => (units? rest).map fun (units, rest) => (ofUnits units, rest)
  | _ => none

end RouteDoc.Json.Literal
