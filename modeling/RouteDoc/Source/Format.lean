import RouteDoc.Source.Lexer
import RouteDoc.Source.Quotation

/-! Quotations with expressions in braces: cutting them into literal parts and fields. A field holds
an expression, and behind it an equals sign, a conversion and a format, which may have fields of its
own. -/

namespace RouteDoc.Source.Format

/-- Where a literal part is being read. -/
inductive Place where
  | plain
  /-- Behind a backslash. -/
  | escaped
  /-- Behind a backslash and the letter of names. -/
  | beforeName
  | inName
  /-- At the second of two equal braces. -/
  | doubled
  deriving DecidableEq, Repr, Inhabited

/-- A character put before a part that has been read. -/
def keep (c : Char) (found : Option (Text × Text)) : Option (Text × Text) :=
  found.map fun (part, rest) => (c :: part, rest)

/-- A literal part and the rest, which is empty or begins with a brace. Braces that are written
twice stand for themselves outside formats, where a single closing brace is refused. A name in
braces belongs to its backslash. -/
def readLiteral (raw outside : Bool) (place : Place) : Text → Option (Text × Text)
  | [] => some ([], [])
  | c :: rest =>
    match place with
    | .doubled => readLiteral raw outside .plain rest
    | .inName => keep c (readLiteral raw outside (if c = '\x7d' then .plain else .inName) rest)
    | .beforeName =>
      keep c (readLiteral raw outside (if c = '\x7b' then .inName else .plain) rest)
    | _ =>
      if c = '\x7b' ∨ c = '\x7d' then
        if !outside then some ([], c :: rest)
        else if rest.head? = some c then keep c (readLiteral raw outside .doubled rest)
        else if c = '\x7d' then none
        else some ([], c :: rest)
      else if place = .escaped then
        keep c (readLiteral raw outside (if c = 'N' then .beforeName else .plain) rest)
      else
        let place := if c = '\\' ∧ !raw then .escaped else .plain
        keep c (readLiteral raw outside place rest)

/-- An expression and the rest, which begins with the sign that ends it. Backslashes and comments
are refused. The first `passed` characters belong to a mark or an operator that has begun. -/
def readExpression (passed : Nat) (quoted : Option (Char × Bool)) (brackets : Text) :
    Text → Option (Text × Text)
  | [] => none
  | c :: rest =>
    if passed > 0 then keep c (readExpression (passed - 1) quoted brackets rest)
    else if c = '\\' then none
    else
      match quoted with
      | some (mark, thrice) =>
        if c ≠ mark then keep c (readExpression 0 quoted brackets rest)
        else if !thrice then keep c (readExpression 0 none brackets rest)
        else if rest.take 2 = [c, c] then keep c (readExpression 2 none brackets rest)
        else keep c (readExpression 0 quoted brackets rest)
      | none =>
        if c = '\x22' ∨ c = '\x27' then
          if rest.take 2 = [c, c] then keep c (readExpression 2 (some (c, true)) brackets rest)
          else keep c (readExpression 0 (some (c, false)) brackets rest)
        else if (Lexer.partner? c).isSome then
          if brackets.length < Lexer.bracketLimit then
            keep c (readExpression 0 none (c :: brackets) rest)
          else none
        else if c = '#' then none
        else if brackets.isEmpty ∧ ['!', ':', '\x7d', '=', '<', '>'].contains c then
          if ['!', '=', '<', '>'].contains c ∧ rest.head? = some '=' then
            keep c (readExpression 1 none brackets rest)
          else if c = '<' ∨ c = '>' then keep c (readExpression 0 none brackets rest)
          else some ([], c :: rest)
        else if c = ')' ∨ c = ']' ∨ c = '\x7d' then
          match brackets with
          | d :: brackets =>
            if Lexer.partner? d = some c then keep c (readExpression 0 none brackets rest) else none
          | [] => none
        else keep c (readExpression 0 none brackets rest)

/-- Whether a character is a blank of the grammar. -/
def isSpace (c : Char) : Bool := c == ' ' || c == '\t' || c == '\n' || c == '\x0c'

/-- What follows the equals sign that may stand behind an expression. -/
def afterEquals : Text → Text
  | '=' :: rest => rest.dropWhile fun c => isSpace c || c == '\r' || c == '\x0b'
  | rest => rest

/-- What follows the conversion that may stand behind an expression. -/
def afterConversion? : Text → Option Text
  | '!' :: c :: rest => if ['s', 'r', 'a'].contains c then some rest else none
  | ['!'] => none
  | rest => some rest

/-- The expressions of a part of the body at a depth of formats, and the rest from the first brace
on that closes nothing in it. Each step takes a brace, so the fuel need not pass the length of the
text. -/
def readFields (raw : Bool) : (fuel depth : Nat) → Text → Option (List Text × Text)
  | 0, _, _ => none
  | fuel + 1, depth, t => do
    let (literal, rest) ← readLiteral raw (depth == 0) .plain t
    let q : Quotation := ⟨raw, false, true, literal⟩
    let _ ← q.value?
    match rest with
    | '\x7b' :: rest =>
      if depth ≥ 2 then none
      else
        let (expression, rest) ← readExpression 0 none [] rest
        if expression.all isSpace then none
        else
          let rest ← afterConversion? (afterEquals rest)
          let (inner, rest) ← match rest with
            | ':' :: rest => readFields raw fuel (depth + 1) rest
            | rest => some ([], rest)
          match rest with
          | '\x7d' :: rest =>
            let (more, rest) ← readFields raw fuel depth rest
            return (expression :: inner ++ more, rest)
          | _ => none
    | rest => return ([], rest)

def expressions? (q : Quotation) : Option (List Text) := do
  let (found, rest) ← readFields q.raw (q.body.length + 1) 0 q.body
  if rest.isEmpty then some found else none

end RouteDoc.Source.Format
