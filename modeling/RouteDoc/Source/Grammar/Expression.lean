import RouteDoc.Source.Format
import RouteDoc.Source.Grammar.Basic

/-! The expressions of the grammar. The order in which operators bind plays no part in what is
accepted, so operands and operators are read in one row for each group of levels. -/

namespace RouteDoc.Source.Grammar

open Reader

/-! ### Names, quotations and lists of expressions -/

/-- An expression, or a name with a value assigned to it. -/
def named (rules : Rules) : Reader Shape := do
  if (← second?) == some (.sign ":=".toList) then
    let _ ← name
    sign ":="
    let _ ← rules .expression
    return .other
  else rules .expression

/-- An element of a list: a named expression, or a starred operation. -/
def element (rules : Rules) : Reader Shape := do
  if ← trySign "*" then return .starred (← rules .operation) else named rules

/-- One of the expressions that a statement lists. -/
def listed (rules : Rules) : Reader Shape := do
  if ← trySign "*" then return .starred (← rules .operation) else rules .expression

/-- The expressions that a statement lists; more than one, or one with a comma, are a row. -/
def listing (rules : Rules) : Reader Shape := do
  match ← itemsAndComma (listed rules) with
  | ([single], false) => return single
  | (parts, _) => return .row parts

/-- A value handed out by a generator. -/
def yielded (rules : Rules) : Reader Shape := do
  word "yield"
  if ← tryWord "from" then
    let _ ← rules .expression
  else
    let _ ← optional (listing rules)
  return .other

/-- A generator's value or a list of expressions. -/
def assigned (rules : Rules) : Reader Shape := do
  if ← isWord "yield" then yielded rules else listing rules

def quotation : Reader Quotation := do
  match ← take with
  | .quotation q => return q
  | _ => failure

/-- Whether an expression inside a quotation can be read, in brackets that let it span lines. -/
def isReadable (rules : Rules) (t : Text) : Bool :=
  ((Lexer.tokens? ('(' :: t ++ [')'])).bind (rules .expression)).isSome

/-- What one quotation denotes; for one with expressions, nothing in particular. -/
def denoted? (rules : Rules) (q : Quotation) : Option Text :=
  if q.format then do
    let expressions ← Format.expressions? q
    guard (expressions.all (isReadable rules))
    return []
  else q.value?

/-- Quotations side by side, which are joined. Bytes stand only beside bytes. -/
def quotations (rules : Rules) : Reader Shape := do
  let qs ← many1 quotation
  guard (qs.all (·.bytes) || qs.all (!·.bytes))
  match qs.mapM (denoted? rules) with
  | some texts =>
    return if qs.any (fun q => q.bytes || q.format) then .other else .text texts.flatten
  | none => failure

/-! ### Assigned values and repetition -/

/-- Something that values are assigned to. -/
def target (rules : Rules) : Reader Shape := do
  let shape ←
    if ← trySign "*" then pure (.starred (← rules .primary)) else rules .primary
  guard shape.isTarget
  return shape

/-- The repetitions behind an expression inside brackets. -/
def repetitions (rules : Rules) : Reader Unit := do
  let _ ← many1 do
    let _ ← tryWord "async"
    word "for"
    let _ ← itemsAndComma (target rules)
    word "in"
    let _ ← rules .condition
    many do word "if"; rules .condition
  return ()

/-- Whether a repetition comes next. -/
def isRepetition : Reader Bool := return (← isWord "for") || (← isWord "async")

/-! ### Parameters -/

/-- Which parameters may come next. -/
inductive ParameterStage where
  | positional
  /-- Behind a bare star, which must have a name after it. -/
  | nameNeeded
  | byName
  | finished
  deriving DecidableEq, Repr, Inhabited

/-- What the parameters read so far allow. -/
structure Parameters where
  stage : ParameterStage := .positional
  any : Bool := false
  defaulted : Bool := false
  slashed : Bool := false
  deriving DecidableEq, Repr, Inhabited

/-- The type that may be declared for a parameter. -/
def parameterType (rules : Rules) (typed : Bool) : Reader Unit := do
  if typed then
    if ← trySign ":" then
      let _ ← rules .expression

/-- The type of the parameter that takes the remaining arguments; it may be starred. -/
def restType (rules : Rules) (typed : Bool) : Reader Unit := do
  if typed then
    if ← trySign ":" then
      let _ ← listed rules

/-- One parameter, and the comma behind it unless the closing sign follows. -/
def parameter (rules : Rules) (typed : Bool) (close : String) (s : Parameters) :
    Reader Parameters := do
  guard (s.stage ≠ .finished)
  let s ← match ← trySigns ["/", "**", "*"] with
    | some "/" =>
      guard (s.stage = .positional && s.any && !s.slashed)
      pure { s with slashed := true }
    | some "**" =>
      guard (s.stage ≠ .nameNeeded)
      let _ ← name
      parameterType rules typed
      pure { s with stage := .finished }
    | some _ =>
      guard (s.stage = .positional)
      if ← isSign "," then pure { s with stage := .nameNeeded }
      else
        let _ ← name
        restType rules typed
        pure { s with stage := .byName }
    | none =>
      let _ ← name
      parameterType rules typed
      let defaulted ← trySign "="
      if defaulted then
        let _ ← rules .expression
      if s.stage = .positional then
        guard (defaulted || !s.defaulted)
        pure { s with any := true, defaulted }
      else pure { s with stage := .byName }
  if !(← isSign close) then sign ","
  return s

/-- The parameters of a function, up to the closing sign, which stays. -/
def parameters (rules : Rules) (typed : Bool) (close : String) : Reader Unit := do
  let s ← iterate (parameter rules typed close) {}
  guard (s.stage ≠ .nameNeeded && (← isSign close))

/-! ### Arguments and items -/

/-- Which arguments may come next. -/
inductive ArgumentStage where
  | first
  | positional
  | byName
  /-- Behind a mapping that gives names. -/
  | mapped
  /-- Behind a repetition, which stands alone. -/
  | finished
  deriving DecidableEq, Repr, Inhabited

/-- One argument, and the comma behind it unless the closing bracket follows. -/
def argument (rules : Rules) (s : ArgumentStage) : Reader ArgumentStage := do
  guard (s ≠ .finished)
  let isNamed := (← second?) == some (.sign "=".toList)
  let t ← match ← trySigns ["**", "*"] with
    | some "**" =>
      let _ ← rules .expression
      pure .mapped
    | some _ =>
      guard (s ≠ .mapped)
      let _ ← rules .expression
      pure (if s = .byName then .byName else .positional)
    | none =>
      if isNamed then
        let _ ← name
        sign "="
        let _ ← rules .expression
        pure (if s = .mapped then .mapped else .byName)
      else
        guard (s = .first || s = .positional)
        let _ ← named rules
        if s = .first && (← isRepetition) then
          repetitions rules
          pure .finished
        else pure .positional
  if t = .finished then guard (← isSign ")")
  else if !(← isSign ")") then sign ","
  return t

/-- The arguments of a call and the closing bracket. -/
def arguments (rules : Rules) : Reader Unit := do
  let _ ← iterate (argument rules) .first
  sign ")"

/-- The arguments of a class and the closing bracket; a repetition is none. -/
def classArguments (rules : Rules) : Reader Unit := do
  guard ((← iterate (argument rules) .first) ≠ .finished)
  sign ")"

/-- The bounds of a range behind its first colon. -/
def bounds (rules : Rules) : Reader Unit := do
  sign ":"
  let _ ← optional (rules .expression)
  if ← trySign ":" then
    let _ ← optional (rules .expression)

/-- An item or a range of items. -/
def item (rules : Rules) : Reader Unit := do
  if ← trySign "*" then
    let _ ← rules .expression
  else
    let assigns := (← second?) == some (.sign ":=".toList)
    if !(← isSign ":") then
      let _ ← named rules
    if !assigns && (← isSign ":") then bounds rules

/-! ### Atoms -/

/-- What stands behind an opening bracket: a tuple, a group or a repetition. -/
def inBrackets (rules : Rules) : Reader Shape := do
  match ← next? with
  | some (.sign [')']) => sign ")"; return .row []
  | some (.word ['y', 'i', 'e', 'l', 'd']) =>
    let _ ← yielded rules
    sign ")"
    return .other
  | _ =>
    let first ← element rules
    if ← isRepetition then
      guard !first.isStarred
      repetitions rules
      sign ")"
      return .other
    else
      let rest ← many do sign ","; element rules
      let comma ← trySign ","
      sign ")"
      if rest.isEmpty && !comma then
        guard !first.isStarred
        return .group first
      else return .row (first :: rest)

/-- What stands behind an opening square bracket: a list or a repetition. -/
def inSquareBrackets (rules : Rules) : Reader Shape := do
  if ← trySign "]" then return .row []
  else
    let first ← element rules
    if ← isRepetition then
      guard !first.isStarred
      repetitions rules
      sign "]"
      return .other
    else
      let rest ← many do sign ","; element rules
      let _ ← trySign ","
      sign "]"
      return .row (first :: rest)

/-- A pair of a mapping, or another mapping that is merged into it. -/
def entry (rules : Rules) : Reader Unit := do
  if ← trySign "**" then
    let _ ← rules .operation
  else
    let _ ← rules .expression
    sign ":"
    let _ ← rules .expression

/-- The further elements between braces, and the closing one. -/
def closeBraces {α : Type} (reader : Reader α) : Reader Shape := do
  let _ ← many do sign ","; reader
  let _ ← trySign ","
  sign "\x7d"
  return .other

/-- What stands behind an opening brace: a mapping, a set or a repetition. -/
def inBraces (rules : Rules) : Reader Shape := do
  match ← next? with
  | some (.sign ['\x7d']) => sign "\x7d"; return .other
  | some (.sign ['*', '*']) =>
    entry rules
    closeBraces (entry rules)
  | _ =>
    let assigns := (← second?) == some (.sign ":=".toList)
    let first ← element rules
    if ← isRepetition then
      guard !first.isStarred
      repetitions rules
      sign "\x7d"
      return .other
    else
      match ← trySigns [":"] with
      | none => closeBraces (element rules)
      | some _ =>
        guard (!assigns && !first.isStarred)
        let _ ← rules .expression
        if ← isRepetition then
          repetitions rules
          sign "\x7d"
          return .other
        else closeBraces (entry rules)

def atom (rules : Rules) : Reader Shape := do
  match ← next? with
  | some (.quotation _) => quotations rules
  | _ =>
    match ← take with
    | .number _ => return .other
    | .word t =>
      if isName t then return .name
      else
        guard (["None", "True", "False"].any (·.toList == t))
        return .other
    | .sign ['('] => inBrackets rules
    | .sign ['['] => inSquareBrackets rules
    | .sign ['\x7b'] => inBraces rules
    | .sign ['.', '.', '.'] => return .other
    | _ => failure

/-! ### Operations -/

/-- An attribute, a call or an item behind an atom. -/
def trailer (rules : Rules) : Reader Shape := do
  match ← trySigns [".", "(", "["] with
  | some "." =>
    let _ ← name
    return .member
  | some "(" =>
    arguments rules
    return .other
  | some _ =>
    let _ ← itemsAndComma (item rules)
    sign "]"
    return .member
  | none => failure

def primary (rules : Rules) : Reader Shape := do
  let shape ← atom rules
  iterate (fun _ => trailer rules) shape

/-- A primary with the signs and the word that may stand before it. -/
def operand (rules : Rules) : Reader Shape := do
  let signs ← many (oneOf ["+", "-", "~"])
  let awaited ← tryWord "await"
  let shape ← primary rules
  return if signs.isEmpty && !awaited then shape else .other

def operators : List String :=
  ["|", "^", "&", "<<", ">>", "+", "-", "*", "/", "//", "%", "@", "**"]

/-- Operands with operators between them. -/
def operation (rules : Rules) : Reader Shape := do
  let shape ← operand rules
  iterate (fun _ => do oneOf operators; let _ ← operand rules; return .other) shape

/-- A comparison between operations. -/
def comparator : Reader Unit := do
  match ← tryWords ["not", "is", "in"] with
  | some "not" => word "in"
  | some "is" =>
    let _ ← tryWord "not"
  | some _ => return ()
  | none => oneOf ["==", "!=", "<", "<=", ">", ">="]

/-- Operations with comparisons between them. -/
def comparison (rules : Rules) : Reader Shape := do
  let shape ← operation rules
  iterate (fun _ => do comparator; let _ ← operation rules; return .other) shape

/-- A comparison with any number of negations before it. -/
def inversion (rules : Rules) : Reader Shape := do
  let negations ← many (word "not")
  let shape ← comparison rules
  return if negations.isEmpty then shape else .other

/-- Comparisons joined by "and" and "or". -/
def condition (rules : Rules) : Reader Shape := do
  let shape ← inversion rules
  iterate (fun _ => do
    guard (← tryWords ["and", "or"]).isSome
    let _ ← inversion rules
    return .other) shape

/-- An expression: a condition, a choice between two, or a function without a name. -/
def expression (rules : Rules) : Reader Shape := do
  if ← tryWord "lambda" then
    parameters rules false ":"
    sign ":"
    let _ ← rules .expression
    return .other
  else
    let shape ← condition rules
    if ← tryWord "if" then
      let _ ← condition rules
      word "else"
      let _ ← rules .expression
      return .other
    else return shape

end RouteDoc.Source.Grammar
