import RouteDoc.Text.Basic

/-! The tokens of Python source text. -/

namespace RouteDoc.Source

/-- A quoted text as it is written. -/
structure Quotation where
  /-- Whether a backslash stands for itself. -/
  raw : Bool
  bytes : Bool
  /-- Whether braces hold expressions. -/
  format : Bool
  body : Text
  deriving DecidableEq, Repr, Inhabited

/-- What a token is. -/
inductive Lexeme where
  /-- An identifier or a keyword. -/
  | word (t : Text)
  | number (imaginary : Bool)
  | quotation (q : Quotation)
  /-- An operator, a bracket or a mark between parts. -/
  | sign (t : Text)
  /-- The end of a statement's line. -/
  | lineEnd
  | indent
  | dedent
  deriving DecidableEq, Repr, Inhabited

/-- A token and the number of the line on which it begins. -/
structure Token where
  row : Nat
  lexeme : Lexeme
  deriving DecidableEq, Repr, Inhabited

def keywords : List Text :=
  ["False", "None", "True", "and", "as", "assert", "async", "await", "break", "class", "continue",
    "def", "del", "elif", "else", "except", "finally", "for", "from", "global", "if", "import",
    "in", "is", "lambda", "nonlocal", "not", "or", "pass", "raise", "return", "try", "while",
    "with", "yield"].map (·.toList)

def isName (t : Text) : Bool := !keywords.contains t

end RouteDoc.Source
