import RouteDoc.Text.Basic

/-! Digits of base sixteen, and the characters whose code points they write. -/

namespace RouteDoc.Text

def hexDigit? (c : Char) : Option Nat :=
  let n := c.toNat
  if 48 ≤ n ∧ n ≤ 57 then some (n - 48)
  else if 65 ≤ n ∧ n ≤ 70 then some (n - 55)
  else if 97 ≤ n ∧ n ≤ 102 then some (n - 87)
  else none

def hexNumber? (t : Text) : Option Nat :=
  t.foldlM (fun n c => (hexDigit? c).map (16 * n + ·)) 0

/-- The character of a code point; one that is no scalar value has the replacement character. -/
def charOf (code : Nat) : Char := if code.isValidChar then Char.ofNat code else '\ufffd'

end RouteDoc.Text
