import RouteDoc.Text.Basic

/-! The blank characters of Unicode, and the words between them. -/

namespace RouteDoc.Text

/-- The blanks: the ASCII controls U+0009 to U+000D and U+001C to U+001F, the space, and the
separators of the other scripts. -/
def isBlank (c : Char) : Bool :=
  let n := c.toNat
  (9 ≤ n && n ≤ 13) || (28 ≤ n && n ≤ 32) || n == 0x85 || n == 0xA0 || n == 0x1680 ||
    (0x2000 ≤ n && n ≤ 0x200A) || n == 0x2028 || n == 0x2029 || n == 0x202F || n == 0x205F ||
    n == 0x3000

/-- A text without the blanks at its ends. -/
def strip (t : Text) : Text := trim isBlank t

/-- The maximal runs of characters that are not blank. -/
def words (t : Text) : List Text := (splitWhen isBlank t).filter (!·.isEmpty)

end RouteDoc.Text
