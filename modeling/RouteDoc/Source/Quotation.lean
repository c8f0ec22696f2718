import RouteDoc.Source.Token
import RouteDoc.Text.Hex
import RouteDoc.Text.Name

/-! What quotations denote: backslash sequences stand for characters, and neighbours are joined. -/

namespace RouteDoc.Source.Quotation

def isOctal (c : Char) : Bool := '0' ≤ c && c ≤ '7'

def ofOctal (t : Text) : Nat := t.foldl (fun n c => 8 * n + (c.toNat - 48)) 0

/-- The character that `count` digits of base sixteen write, and the rest. -/
def readHex? (count : Nat) (t : Text) : Option (Text × Text) := do
  let digits := t.take count
  let code ← Text.hexNumber? digits
  if digits.length = count ∧ code ≤ 0x10FFFF then some ([Text.charOf code], t.drop count) else none

/-- The character of a name in braces, and the rest. -/
def readName? : Text → Option (Text × Text)
  | '\x7b' :: rest => do
    let c ← Text.charNamed? (rest.takeWhile (· != '\x7d'))
    match rest.dropWhile (· != '\x7d') with
    | _ :: rest => some ([c], rest)
    | [] => none
  | _ => none

/-- The letters that stand for one control character or for themselves behind a backslash. -/
def simpleEscapes : List (Char × Text) :=
  [('\n', []), ('\\', ['\\']), ('\x27', ['\x27']), ('\x22', ['\x22']), ('a', ['\x07']),
    ('b', ['\x08']), ('f', ['\x0c']), ('n', ['\n']), ('r', ['\r']), ('t', ['\t']), ('v', ['\x0b'])]

/-- What the text behind a backslash denotes, and the rest. A sequence that means nothing stands for
itself, backslash included. Bytes have no names and no code points of four or eight digits. -/
def readEscape? (bytes : Bool) (t : Text) : Option (Text × Text) :=
  match t with
  | [] => some (['\\'], [])
  | c :: rest =>
    match simpleEscapes.lookup c with
    | some denoted => some (denoted, rest)
    | none =>
      if isOctal c then
        let digits := (t.take 3).takeWhile isOctal
        some ([Text.charOf (ofOctal digits)], t.drop digits.length)
      else if c = 'x' then readHex? 2 rest
      else if bytes then some (['\\'], t)
      else if c = 'u' then readHex? 4 rest
      else if c = 'U' then readHex? 8 rest
      else if c = 'N' then readName? rest
      else some (['\\'], t)

/-- The text that backslash sequences write. Each step takes a character, so the fuel need not pass
the length of the text. -/
def unescape? (bytes : Bool) : (fuel : Nat) → Text → Option Text
  | 0, _ => some []
  | _ + 1, [] => some []
  | fuel + 1, c :: rest =>
    if c = '\\' then do
      let (denoted, rest) ← readEscape? bytes rest
      return denoted ++ (← unescape? bytes fuel rest)
    else (unescape? bytes fuel rest).map (c :: ·)

/-- What a part of the body denotes. -/
def denoted? (q : Quotation) (part : Text) : Option Text :=
  if q.raw then some part else unescape? q.bytes part.length part

/-- What a quotation without expressions denotes. Bytes are written in ASCII. -/
def value? (q : Quotation) : Option Text :=
  if q.bytes && q.body.any (128 ≤ ·.toNat) then none else denoted? q q.body

end RouteDoc.Source.Quotation
