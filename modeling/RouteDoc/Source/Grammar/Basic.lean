import RouteDoc.Source.Token

/-! Readers of tokens, and what they find: the shapes of expressions, as far as the other rules of
the grammar ask for them, and statements, as far as documentation is found in them. -/

namespace RouteDoc.Source

/-- What an expression looks like. -/
inductive Shape where
  | name
  /-- An attribute or an item of something. -/
  | member
  | group (inner : Shape)
  /-- A tuple or a list, part by part. -/
  | row (parts : List Shape)
  | starred (inner : Shape)
  | text (value : Text)
  | other
  deriving BEq, Repr, Inhabited

namespace Shape

mutual

def isTarget : Shape → Bool
  | .name | .member => true
  | .group inner | .starred inner => inner.isTarget
  | .row parts => areTargets parts
  | .text _ | .other => false

def areTargets : List Shape → Bool
  | [] => true
  | part :: parts => part.isTarget && areTargets parts

end

def isSingleTarget : Shape → Bool
  | .name | .member => true
  | .group inner => inner.isSingleTarget
  | _ => false

mutual

def isDeletable : Shape → Bool
  | .name | .member => true
  | .group inner => inner.isDeletable
  | .row parts => areDeletable parts
  | .starred _ | .text _ | .other => false

def areDeletable : List Shape → Bool
  | [] => true
  | part :: parts => part.isDeletable && areDeletable parts

end

def isStarred : Shape → Bool
  | .starred _ => true
  | _ => false

/-- The text that a quoted text, in brackets or not, denotes. -/
def text? : Shape → Option Text
  | .text value => some value
  | .group inner => inner.text?
  | _ => none

end Shape

inductive Statement where
  /-- A quoted text by itself, and the line on which it begins. -/
  | text (row : Nat) (value : Text)
  | definition (body : List Statement)
  /-- A statement with others inside, whatever branch they are in. -/
  | compound (body : List Statement)
  | simple
  deriving BEq, Repr, Inhabited

namespace Grammar

/-- A reader gives a result and the tokens after it, or nothing. -/
abbrev Reader (α : Type) := StateT (List Token) Option α

/-- The rules of the grammar that contain themselves. -/
inductive Goal where
  | expression
  /-- An expression that is neither conditional nor a function. -/
  | condition
  /-- An expression without comparisons. -/
  | operation
  /-- An atom with attributes, calls and items. -/
  | primary
  | pattern
  | block
  deriving DecidableEq, Repr, Inhabited

/-- What a rule finds. -/
abbrev Goal.Result : Goal → Type
  | .pattern => Unit
  | .block => List Statement
  | _ => Shape

/-- Readers for all the rules that contain themselves. -/
abbrev Rules := (goal : Goal) → Reader goal.Result

namespace Reader

/-- The next token's lexeme, which stays. -/
def next? : Reader (Option Lexeme) := fun tokens => some (tokens.head?.map (·.lexeme), tokens)

/-- The lexeme after the next one; both stay. -/
def second? : Reader (Option Lexeme) := fun tokens => some (tokens[1]?.map (·.lexeme), tokens)

/-- The line of the next token. -/
def row : Reader Nat := fun tokens => some ((tokens.head?.map (·.row)).getD 0, tokens)

def take : Reader Lexeme
  | [] => none
  | token :: rest => some (token.lexeme, rest)

def exactly (lexeme : Lexeme) : Reader Unit := do guard ((← take) == lexeme)

def sign (t : String) : Reader Unit := exactly (.sign t.toList)

def word (t : String) : Reader Unit := exactly (.word t.toList)

def isSign (t : String) : Reader Bool := return (← next?) == some (.sign t.toList)

def isWord (t : String) : Reader Bool := return (← next?) == some (.word t.toList)

def trySign (t : String) : Reader Bool := do
  if ← isSign t then sign t; return true else return false

def tryWord (t : String) : Reader Bool := do
  if ← isWord t then word t; return true else return false

def oneOf (signs : List String) : Reader Unit := do
  match ← take with
  | .sign t => guard (signs.any (·.toList == t))
  | _ => failure

def trySigns (signs : List String) : Reader (Option String) := do
  let next ← next?
  match signs.find? fun t => next == some (.sign t.toList) with
  | some t => sign t; return some t
  | none => return none

def tryWords (words : List String) : Reader (Option String) := do
  let next ← next?
  match words.find? fun t => next == some (.word t.toList) with
  | some t => word t; return some t
  | none => return none

def name : Reader Text := do
  match ← take with
  | .word t => guard (isName t); return t
  | _ => failure

/-- Repeat a reader on a state for as long as it succeeds. Each step takes a token, so as many steps
suffice as there are tokens. -/
def repeatOn {σ : Type} (step : σ → Reader σ) : (fuel : List Token) → σ → Reader σ
  | [], s => return s
  | _ :: fuel, s => do
    match ← optional (step s) with
    | some s => repeatOn step fuel s
    | none => return s

def iterate {σ : Type} (step : σ → Reader σ) (s : σ) : Reader σ :=
  fun tokens => repeatOn step tokens s tokens

def many {α : Type} (reader : Reader α) : Reader (List α) := do
  let found ← iterate (fun l => return (← reader) :: l) []
  return found.reverse

def many1 {α : Type} (reader : Reader α) : Reader (List α) :=
  return (← reader) :: (← many reader)

/-- The results of a reader between commas. -/
def items {α : Type} (reader : Reader α) : Reader (List α) :=
  return (← reader) :: (← many do sign ","; reader)

/-- The results of a reader between commas, and whether one more comma follows. -/
def itemsAndComma {α : Type} (reader : Reader α) : Reader (List α × Bool) :=
  return (← items reader, ← trySign ",")

end Reader

end Grammar

end RouteDoc.Source
