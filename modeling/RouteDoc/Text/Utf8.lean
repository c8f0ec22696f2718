import RouteDoc.Text.Basic

/-! The bytes of texts in UTF-8. Only the shortest form of a character is read. -/

namespace RouteDoc.Text

/-- What a first byte announces: how many bytes follow, the bits that it gives, and the range of the
byte after it. -/
def utf8Lead? (b : Nat) : Option (Nat × Nat × Nat × Nat) :=
  if b < 0x80 then some (0, b, 0, 0)
  else if b < 0xC2 then none
  else if b < 0xE0 then some (1, b - 0xC0, 0x80, 0xBF)
  else if b = 0xE0 then some (2, 0, 0xA0, 0xBF)
  else if b = 0xED then some (2, 0xD, 0x80, 0x9F)
  else if b < 0xF0 then some (2, b - 0xE0, 0x80, 0xBF)
  else if b = 0xF0 then some (3, 0, 0x90, 0xBF)
  else if b < 0xF4 then some (3, b - 0xF0, 0x80, 0xBF)
  else if b = 0xF4 then some (3, 4, 0x80, 0x8F)
  else none

/-- The text of bytes, when `more` bytes of a character that has begun are still to come, the first
of them between `low` and `high`, and `bits` are those read so far. -/
def decodeFrom? (more bits low high : Nat) : List UInt8 → Option Text
  | [] => if more = 0 then some [] else none
  | b :: rest =>
    let b := b.toNat
    if more = 0 then
      match utf8Lead? b with
      | none => none
      | some (0, bits, _, _) => (decodeFrom? 0 0 0 0 rest).map (Char.ofNat bits :: ·)
      | some (more, bits, low, high) => decodeFrom? more bits low high rest
    else if b < low ∨ high < b then none
    else if more = 1 then
      (decodeFrom? 0 0 0 0 rest).map (Char.ofNat (64 * bits + (b - 0x80)) :: ·)
    else decodeFrom? (more - 1) (64 * bits + (b - 0x80)) 0x80 0xBF rest

/-- The text that bytes write, or nothing if they write none. -/
def ofUtf8? (bytes : List UInt8) : Option Text := decodeFrom? 0 0 0 0 bytes

def toUtf8 (t : Text) : List UInt8 := t.flatMap String.utf8EncodeChar

end RouteDoc.Text
