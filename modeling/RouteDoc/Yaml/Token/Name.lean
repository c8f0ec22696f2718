import RouteDoc.Number.Numeral
import RouteDoc.Text.Hex
import RouteDoc.Text.Utf8
import RouteDoc.Yaml.Cursor
import RouteDoc.Yaml.Token.Basic

/-! Reading names: those of anchors and aliases, tags with their handles and addresses, and
directives. -/

namespace RouteDoc.Yaml.Name

def isNameChar (c : Char) : Bool := c.isAlphanum || c == '-' || c == '_'

def isFieldEnd (c : Char) : Bool := c == ' ' || Cursor.isLineEnd c

/-! ### Anchors and aliases -/

/-- Whether a character may follow the name of an anchor. -/
def isAnchorEnd (c : Char) : Bool := isSpaceOrBreak c || "?:,]\x7d%@`".toList.contains c

def readAnchor (c : Cursor) : Except Fault (Text × Cursor) :=
  let (name, after) := c.takeRun isNameChar
  if name.isEmpty || !isAnchorEnd after.head then .error .malformed else .ok (name, after)

/-! ### Tags -/

/-- The handle of a tag, and the place behind it: one mark alone, or a name between two marks. -/
def readHandle (c : Cursor) : Except Fault (Text × Cursor) :=
  if c.head ≠ '!' then .error .malformed
  else if c.peek 1 = ' ' then .ok (['!'], c.next)
  else
    let (name, after) := c.next.takeRun isNameChar
    if after.head = '!' then .ok ('!' :: name ++ ['!'], after.next) else .error .malformed

def isAddressChar (c : Char) : Bool :=
  c.isAlphanum || "-;/?:@&=+$,_.!~*\x27()[]".toList.contains c

/-- Bytes that are written with two digits behind a percent sign each, and the place behind them. -/
def readBytes : (fuel : Nat) → Cursor → Except Fault (List UInt8 × Cursor)
  | 0, c => .ok ([], c)
  | fuel + 1, c =>
    if c.head ≠ '%' then .ok ([], c)
    else
      let digits := c.next.rest.take 2
      match Text.hexNumber? digits with
      | none => .error .malformed
      | some code =>
        if digits.length < 2 then .error .malformed
        else do
          let (bytes, c) ← readBytes fuel (c.forward 3)
          return (UInt8.ofNat code :: bytes, c)

/-- The characters of an address, and the place behind them. -/
def readAddressChars : (fuel : Nat) → Cursor → Except Fault (Text × Cursor)
  | 0, c => .ok ([], c)
  | fuel + 1, c =>
    if c.head = '%' then do
      let (bytes, c) ← readBytes (c.rest.length + 1) c
      match Text.ofUtf8? bytes with
      | none => .error .malformed
      | some read =>
        let (more, c) ← readAddressChars fuel c
        return (read ++ more, c)
    else if isAddressChar c.head then do
      let (more, after) ← readAddressChars fuel c.next
      return (c.head :: more, after)
    else .ok ([], c)

def readAddress (c : Cursor) : Except Fault (Text × Cursor) := do
  let (address, c) ← readAddressChars (c.rest.length + 1) c
  if address.isEmpty then .error .malformed else return (address, c)

/-- The handle and the rest of a tag, from its mark on, and the place behind it. -/
def readTagParts (c : Cursor) : Except Fault (Option Text × Text × Cursor) := do
  let d := c.peek 1
  if d = '<' then
    let (address, c) ← readAddress (c.forward 2)
    if c.head = '>' then return (none, address, c.next) else .error .malformed
  else if isSpaceOrBreak d then return (none, ['!'], c.next)
  else if (c.next.takeRun (!isFieldEnd ·)).1.contains '!' then
    let (handle, c) ← readHandle c
    let (address, c) ← readAddress c
    return (some handle, address, c)
  else
    let (address, c) ← readAddress c.next
    return (some ['!'], address, c)

/-- A tag from its mark on, and the place behind it. -/
def readTag (c : Cursor) : Except Fault (Token × Cursor) := do
  let (handle, suffix, c) ← readTagParts c
  if isFieldEnd c.head then return (.tag handle suffix, c) else .error .malformed

/-! ### Directives -/

/-- A number in a directive, and the place behind it. -/
def readNumber (c : Cursor) : Except Fault (Nat × Cursor) :=
  let (digits, after) := c.takeRun Char.isDigit
  if digits.isEmpty then .error .malformed
  else if digits.length > Failure.digitLimit then .error (.oversized digits.length)
  else .ok (Numeral.ofText digits, after)

/-- The version in a directive, and the place behind it. -/
def readVersion (c : Cursor) : Except Fault (Token × Cursor) := do
  let (major, c) ← readNumber (c.skipRun (· == ' '))
  if c.head ≠ '.' then .error .malformed
  else
    let (_, c) ← readNumber c.next
    if isFieldEnd c.head then return (.version major, c) else .error .malformed

/-- A handle and what it stands for in a directive, and the place behind them. -/
def readHandleRule (c : Cursor) : Except Fault (Token × Cursor) := do
  let (handle, c) ← readHandle (c.skipRun (· == ' '))
  if c.head ≠ ' ' then .error .malformed
  else
    let (start, c) ← readAddress (c.skipRun (· == ' '))
    if isFieldEnd c.head then return (.handle handle start, c) else .error .malformed

/-- A directive from behind its mark, and the place of the next line. -/
def readDirective (c : Cursor) : Except Fault (Token × Cursor) := do
  let (name, c) := c.takeRun isNameChar
  if name.isEmpty || !isFieldEnd c.head then .error .malformed
  else
    let (token, c) ←
      if name = "YAML".toList then readVersion c
      else if name = "TAG".toList then readHandleRule c
      else pure (Token.directive, c.skipRun (!Cursor.isLineEnd ·))
    let c := c.skipComment
    if Cursor.isLineEnd c.head then return (token, c.takeBreak.2) else .error .malformed

end RouteDoc.Yaml.Name
