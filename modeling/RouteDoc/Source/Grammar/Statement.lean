import RouteDoc.Source.Grammar.Pattern

/-! The statements of the grammar, and whole texts of them. -/

namespace RouteDoc.Source.Grammar

open Reader

/-! ### Simple statements -/

def isEnd : Reader Bool := do
  return (← isSign ";") || (← next?) == some .lineEnd

/-- The operators that change a value in place. -/
def updates : List String :=
  ["+=", "-=", "*=", "@=", "/=", "%=", "&=", "|=", "^=", "<<=", ">>=", "**=", "//="]

/-- One more target of an assignment, or its value. -/
def assignment (rules : Rules) (left : Shape) : Reader Shape := do
  guard left.isTarget
  sign "="
  if ← isWord "yield" then yielded rules else listing rules

/-- An expression by itself, a declaration of a type, an assignment or an update. -/
def expressionStatement (rules : Rules) : Reader Statement := do
  let row ← row
  let shape ← listing rules
  match ← next? with
  | some (.sign [':']) =>
    guard shape.isSingleTarget
    sign ":"
    let _ ← rules .expression
    if ← trySign "=" then
      let _ ← assigned rules
    return .simple
  | some (.sign ['=']) =>
    let _ ← iterate (assignment rules) shape
    return .simple
  | some (.sign [';']) | some .lineEnd => return (shape.text?.map (.text row)).getD .simple
  | _ =>
    guard shape.isSingleTarget
    oneOf updates
    let _ ← assigned rules
    return .simple

/-- Names with dots between them. -/
def path : Reader Unit := do
  let _ ← dottedName

/-- The other name that an imported thing may have. -/
def otherName : Reader Unit := do
  if ← tryWord "as" then
    let _ ← name

def importModules : Reader Unit := do
  let _ ← items do path; otherName

def importNames : Reader Unit := do
  let dots ← many (oneOf [".", "..."])
  if dots.isEmpty || !(← isWord "import") then path
  word "import"
  match ← trySigns ["(", "*"] with
  | some "(" =>
    let _ ← itemsAndComma do let _ ← name; otherName
    sign ")"
  | some _ => return ()
  | none =>
    let _ ← items do let _ ← name; otherName

/-- What stands behind the first word of a simple statement that begins with a word of its own. -/
def wordStatement (rules : Rules) (first : String) : Reader Unit := do
  match first with
  | "pass" | "break" | "continue" => return ()
  | "return" =>
    if !(← isEnd) then
      let _ ← listing rules
  | "raise" =>
    if !(← isEnd) then
      let _ ← rules .expression
      if ← tryWord "from" then
        let _ ← rules .expression
  | "global" | "nonlocal" =>
    let _ ← items name
  | "del" =>
    let (parts, _) ← itemsAndComma (rules .primary)
    guard (Shape.areDeletable parts)
  | "assert" =>
    let _ ← rules .expression
    if ← trySign "," then
      let _ ← rules .expression
  | "import" => importModules
  | "from" => importNames
  | _ => failure

/-- The words that begin simple statements of their own. -/
def statementWords : List String :=
  ["pass", "break", "continue", "return", "raise", "global", "nonlocal", "del", "assert", "import",
    "from"]

def simpleStatement (rules : Rules) : Reader Statement := do
  match ← next? with
  | some (.word t) =>
    let first := String.ofList t
    if statementWords.contains first then
      word first
      wordStatement rules first
      return .simple
    else if first = "yield" then
      let _ ← yielded rules
      return .simple
    else expressionStatement rules
  | _ => expressionStatement rules

def simpleStatements (rules : Rules) : Reader (List Statement) := do
  let first ← simpleStatement rules
  let rest ← many do sign ";"; simpleStatement rules
  let _ ← trySign ";"
  exactly .lineEnd
  return first :: rest

/-! ### Compound statements -/

/-- The statements behind a colon: on the same line, or indented on the next ones. -/
def block (rules : Rules) : Reader (List Statement) := do
  if (← next?) == some .lineEnd then
    exactly .lineEnd
    exactly .indent
    rules .block
  else simpleStatements rules

def body (rules : Rules) : Reader (List Statement) := do
  sign ":"
  block rules

/-- A word with a body, if it comes next. -/
def branch (rules : Rules) (first : String) : Reader (List Statement) := do
  if ← tryWord first then body rules else return []

/-- A choice behind its first word. -/
def choice (rules : Rules) : Reader Statement := do
  let _ ← named rules
  let first ← body rules
  let others ← many do word "elif"; let _ ← named rules; body rules
  let last ← branch rules "else"
  return .compound (first ++ others.flatten ++ last)

/-- A loop with a condition, behind its first word. -/
def loop (rules : Rules) : Reader Statement := do
  let _ ← named rules
  let first ← body rules
  let last ← branch rules "else"
  return .compound (first ++ last)

/-- A loop over values, behind its first word. -/
def walk (rules : Rules) : Reader Statement := do
  let _ ← itemsAndComma (target rules)
  word "in"
  let _ ← listing rules
  let first ← body rules
  let last ← branch rules "else"
  return .compound (first ++ last)

/-- A resource and what it is bound to. -/
def resource (rules : Rules) : Reader Unit := do
  let _ ← rules .expression
  if ← tryWord "as" then
    let _ ← target rules

/-- The resources of a block, up to its colon, in brackets of their own or not. -/
def resources (rules : Rules) : Reader Unit := do
  let bracketed ← optional do
    sign "("
    let _ ← itemsAndComma (resource rules)
    sign ")"
    sign ":"
  if bracketed.isNone then
    let _ ← items (resource rules)
    sign ":"

/-- A block with resources, behind its first word. -/
def usage (rules : Rules) : Reader Statement := do
  resources rules
  return .compound (← block rules)

/-- A handler of exceptions behind its first word; whether it names them, which one for groups of
them must. -/
def handler (rules : Rules) (groups : Bool) : Reader (List Statement) := do
  word "except"
  if groups then sign "*"
  if groups || !(← isSign ":") then
    let _ ← rules .expression
    otherName
  body rules

/-- A block with handlers of exceptions, behind its first word. -/
def trial (rules : Rules) : Reader Statement := do
  let first ← body rules
  if ← isWord "finally" then return .compound (first ++ (← branch rules "finally"))
  else
    let groups := (← second?) == some (.sign "*".toList)
    let handlers ← many1 (handler rules groups)
    let others ← branch rules "else"
    let last ← branch rules "finally"
    return .compound (first ++ handlers.flatten ++ others ++ last)

def classDefinition (rules : Rules) : Reader Statement := do
  let _ ← name
  if ← trySign "(" then classArguments rules
  return .definition (← body rules)

def functionDefinition (rules : Rules) : Reader Statement := do
  let _ ← name
  sign "("
  parameters rules true ")"
  sign ")"
  if ← trySign "->" then
    let _ ← rules .expression
  return .definition (← body rules)

/-- A statement behind the word that lets it run beside others. -/
def concurrent (rules : Rules) : Reader Statement := do
  match ← tryWords ["def", "with", "for"] with
  | some "def" => functionDefinition rules
  | some "with" => usage rules
  | some _ => walk rules
  | none => failure

/-- A function or a class with decorators before it. -/
def decorated (rules : Rules) : Reader Statement := do
  let _ ← many1 do sign "@"; let _ ← named rules; exactly .lineEnd
  if ← tryWord "class" then classDefinition rules
  else
    let _ ← tryWord "async"
    word "def"
    functionDefinition rules

/-- The first line of a statement that compares a value with patterns. -/
def comparisonHead (rules : Rules) : Reader Unit := do
  word "match"
  let first ← element rules
  if ← trySign "," then
    let _ ← optional (itemsAndComma (element rules))
  else guard !first.isStarred
  sign ":"
  exactly .lineEnd

/-- A case of such a statement. -/
def caseBlock (rules : Rules) : Reader (List Statement) := do
  word "case"
  casePattern rules
  if ← tryWord "if" then
    let _ ← named rules
  body rules

/-- Any statement; a line of simple ones may hold several. -/
def statement (rules : Rules) : Reader (List Statement) := do
  match ← next? with
  | some (.word t) =>
    match String.ofList t with
    | "if" => word "if"; return [← choice rules]
    | "while" => word "while"; return [← loop rules]
    | "for" => word "for"; return [← walk rules]
    | "with" => word "with"; return [← usage rules]
    | "try" => word "try"; return [← trial rules]
    | "class" => word "class"; return [← classDefinition rules]
    | "def" => word "def"; return [← functionDefinition rules]
    | "async" => word "async"; return [← concurrent rules]
    | "match" =>
      match ← optional (comparisonHead rules) with
      | some () =>
        exactly .indent
        let cases ← many1 (caseBlock rules)
        exactly .dedent
        return [.compound cases.flatten]
      | none => simpleStatements rules
    | _ => simpleStatements rules
  | some (.sign ['@']) => return [← decorated rules]
  | _ => simpleStatements rules

/-- The indented statements of a block and the end of the indentation. -/
def indented (rules : Rules) : Reader (List Statement) := do
  let found ← many1 (statement rules)
  exactly .dedent
  return found.flatten

/-! ### All rules together -/

/-- The rules that contain themselves, read to a depth. -/
def rules : (depth : Nat) → Rules
  | 0, _ => failure
  | depth + 1, goal =>
    match goal with
    | .expression => expression (rules depth)
    | .condition => condition (rules depth)
    | .operation => operation (rules depth)
    | .primary => primary (rules depth)
    | .pattern => pattern (rules depth)
    | .block => indented (rules depth)

/-- The statements of a whole text, or nothing if it breaks the grammar. Each rule that contains
itself takes a token before it comes round again, so the depth suffices. -/
def statements? (t : Text) : Option (List Statement) := do
  let tokens ← Lexer.tokens? t
  let (found, rest) ← (many (statement (rules (2 * t.length + 10)))) tokens
  if rest.isEmpty then some found.flatten else none

end RouteDoc.Source.Grammar
