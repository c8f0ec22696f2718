import RouteDoc.Schema.Fault

/-! The extent of a number in source text: whole numbers in the bases 2, 8, 10 and 16, decimal
fractions with an exponent, and imaginary ones. -/

namespace RouteDoc.Source.Number

/-- What follows digits of a base that a digit has begun; single low lines may stand between two
digits. -/
def afterDigits? (isDigit : Char → Bool) : Text → Option Text
  | '_' :: c :: rest => if isDigit c then afterDigits? isDigit rest else none
  | ['_'] => none
  | c :: rest => if isDigit c then afterDigits? isDigit rest else some (c :: rest)
  | [] => some []

/-- Whether a character can stand inside a name; characters beyond ASCII count. -/
def isNameChar (c : Char) : Bool := c.isAlphanum || c == '_' || 128 ≤ c.toNat

/-- The beginnings of words that may follow a number without a blank. -/
def followers : List Text := ["and", "else", "for", "if", "in", "is", "or", "not"].map (·.toList)

/-- Whether a number may end before a text. -/
def mayEndBefore (t : Text) : Bool :=
  followers.any (Text.startsWith · t) || !(t.head?.any isNameChar)

/-- Nothing unless a number may end before a text. -/
def ending? (t : Text) : Option Text := if mayEndBefore t then some t else none

/-- What follows a whole number of another base, after its mark. -/
def afterBase? (isDigit : Char → Bool) (t : Text) : Option Text :=
  let digits := if t.head? = some '_' then t.drop 1 else t
  if digits.head?.any isDigit then afterDigits? isDigit digits >>= ending? else none

/-- Whether a number is imaginary, and what follows it, at the place where its mark may stand. -/
def afterMantissa? (t : Text) : Option (Bool × Text) :=
  match t with
  | 'j' :: rest | 'J' :: rest => (ending? rest).map (true, ·)
  | _ => (ending? t).map (false, ·)

/-- The same at the place where an exponent may stand. An `e` that no digits follow belongs to the
next word. -/
def afterFraction? (t : Text) : Option (Bool × Text) :=
  match t with
  | [] => some (false, [])
  | c :: rest =>
    if c = 'e' ∨ c = 'E' then
      let signed := rest.head? = some '+' ∨ rest.head? = some '-'
      let digits := if signed then rest.drop 1 else rest
      if digits.head?.any Char.isDigit then afterDigits? Char.isDigit digits >>= afterMantissa?
      else if signed then none
      else (ending? t).map (false, ·)
    else afterMantissa? t

/-- The same after a point. -/
def afterPoint? (t : Text) : Option (Bool × Text) :=
  if t.head?.any Char.isDigit then afterDigits? Char.isDigit t >>= afterFraction?
  else afterFraction? t

/-- Whether a text goes on with the rest of a number that is not whole. -/
def isFractional (t : Text) : Bool := t.head?.any ['.', 'e', 'E', 'j', 'J'].contains

/-- Whether the number at the start of a text is imaginary, and what follows it. A whole number that
begins with zero has no other digits, and no whole number has more digits than are read. -/
def afterNumber? (t : Text) : Option (Bool × Text) :=
  match t with
  | '.' :: rest => afterPoint? rest
  | '0' :: c :: rest =>
    if c = 'x' ∨ c = 'X' then
      (afterBase? (fun d => d.isDigit || ('a' ≤ d.toLower && d.toLower ≤ 'f')) rest).map (false, ·)
    else if c = 'o' ∨ c = 'O' then
      (afterBase? (fun d => '0' ≤ d && d ≤ '7') rest).map (false, ·)
    else if c = 'b' ∨ c = 'B' then
      (afterBase? (fun d => d == '0' || d == '1') rest).map (false, ·)
    else do
      let after ← afterDigits? Char.isDigit t
      match after with
      | '.' :: rest => afterPoint? rest
      | _ =>
        let digits := t.take (t.length - after.length)
        if after.head?.any (fun d => d == 'e' || d == 'E' || d == 'j' || d == 'J') ||
            digits.all (fun d => d == '0' || d == '_') then
          afterFraction? after
        else none
  | _ => do
    let after ← afterDigits? Char.isDigit t
    match after with
    | '.' :: rest => afterPoint? rest
    | _ =>
      let (imaginary, rest) ← afterFraction? after
      let digits := t.take (t.length - after.length)
      if isFractional after || (digits.filter Char.isDigit).length ≤ Failure.digitLimit then
        return (imaginary, rest)
      else none

end RouteDoc.Source.Number
