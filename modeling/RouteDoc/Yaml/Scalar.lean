import RouteDoc.Yaml.Timestamp

/-! What a scalar without quotes means: the forms of YAML 1.1 for truth values, numbers, nothing and
dates, as the resolver of PyYAML knows them. Any other scalar is a text. -/

namespace RouteDoc.Yaml

inductive ScalarKind where
  | text
  | bool
  | float
  | int
  | merge
  | null
  | timestamp
  | value
  deriving DecidableEq, Repr, Inhabited

namespace ScalarKind

def trueWords : List Text :=
  ["yes", "Yes", "YES", "true", "True", "TRUE", "on", "On", "ON"].map (·.toList)

def falseWords : List Text :=
  ["no", "No", "NO", "false", "False", "FALSE", "off", "Off", "OFF"].map (·.toList)

def nullWords : List Text := ["", "~", "null", "Null", "NULL"].map (·.toList)

/-- The words for infinity, without sign and point. -/
def infinityWords : List Text := ["inf", "Inf", "INF"].map (·.toList)

/-- The words for no number, without the point. -/
def nanWords : List Text := ["nan", "NaN", "NAN"].map (·.toList)

def dropSign (t : Text) : Text := (Numeral.cutSign t).2

def isDigitOrLine (c : Char) : Bool := c.isDigit || c == '_'

/-- Whether a text is a digit with any digits and low lines after it. -/
def isCount : Text → Bool
  | c :: rest => c.isDigit && rest.all isDigitOrLine
  | [] => false

/-- Whether a text is one of the parts of a number of base sixty after its first. -/
def isSixtieth (t : Text) : Bool :=
  match t with
  | [c] => c.isDigit
  | [c, d] => '0' ≤ c && c ≤ '5' && d.isDigit
  | _ => false

def isHexOrLine (c : Char) : Bool :=
  isDigitOrLine c || ('a' ≤ c && c ≤ 'f') || ('A' ≤ c && c ≤ 'F')

/-- Whether a text is a whole number in one of the bases 2, 8, 10, 16 and 60. -/
def isInt (t : Text) : Bool :=
  match dropSign t with
  | ['0'] => true
  | '0' :: 'b' :: c :: rest => (c :: rest).all fun d => d == '0' || d == '1' || d == '_'
  | '0' :: 'x' :: c :: rest => (c :: rest).all isHexOrLine
  | '0' :: c :: rest => (c :: rest).all fun d => ('0' ≤ d && d ≤ '7') || d == '_'
  | c :: rest =>
    c.isDigit && match Text.splitOn ':' (c :: rest) with
      | whole :: parts => whole.all isDigitOrLine && parts.all isSixtieth
      | [] => false
  | [] => false

/-- Whether a text is empty or an exponent with a sign. -/
def isExponent : Text → Bool
  | [] => true
  | mark :: sign :: digits =>
    (mark == 'e' || mark == 'E') && (sign == '+' || sign == '-') && !digits.isEmpty &&
      digits.all Char.isDigit
  | _ => false

/-- Whether a text is a number with a point, the word for infinity or the one for no number. -/
def isFloat (t : Text) : Bool :=
  let body := dropSign t
  let signed := body.length != t.length
  let whole := body.takeWhile (· != '.')
  match body.dropWhile (· != '.') with
  | [] => false
  | _ :: fraction =>
    let tail := fraction.dropWhile isDigitOrLine
    if whole.isEmpty then
      infinityWords.contains fraction || (!signed && nanWords.contains fraction) ||
        (!signed && (fraction.head?.elim false Char.isDigit) && isExponent tail)
    else if isCount whole then isExponent tail
    else
      tail.isEmpty && match Text.splitOn ':' whole with
        | first :: parts => isCount first && parts.all isSixtieth
        | [] => false

def ofText (t : Text) : ScalarKind :=
  if trueWords.contains t || falseWords.contains t then .bool
  else if isFloat t then .float
  else if isInt t then .int
  else if t = ['<', '<'] then .merge
  else if nullWords.contains t then .null
  else if Timestamp.isPlain t then .timestamp
  else if t = ['='] then .value
  else .text

end ScalarKind

end RouteDoc.Yaml
