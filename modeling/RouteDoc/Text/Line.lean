import RouteDoc.Text.Basic

/-! Line ends: the three of text files made one, and the wider set at which a paragraph is cut into
lines. -/

namespace RouteDoc.Text

/-- Every line end of a file, `\r\n`, `\r` or `\n`, as `\n`. -/
def unifyLineEnds : Text → Text
  | [] => []
  | '\r' :: '\n' :: rest => '\n' :: unifyLineEnds rest
  | '\r' :: rest => '\n' :: unifyLineEnds rest
  | c :: rest => c :: unifyLineEnds rest

/-- The characters that end a line of a paragraph. -/
def isLineEnd (c : Char) : Bool :=
  let n := c.toNat
  (10 ≤ n && n ≤ 13) || (28 ≤ n && n ≤ 30) || n == 0x85 || n == 0x2028 || n == 0x2029

/-- The lines of a paragraph; `\r\n` ends one line, and a last line needs no end. -/
def lines : Text → List Text
  | [] => []
  | '\r' :: '\n' :: rest => [] :: lines rest
  | c :: rest =>
    if isLineEnd c then [] :: lines rest
    else
      match lines rest with
      | [] => [[c]]
      | line :: more => (c :: line) :: more

end RouteDoc.Text
