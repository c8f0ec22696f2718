import RouteDoc.Source.Grammar.Expression

/-! The patterns of the grammar. -/

namespace RouteDoc.Source.Grammar

open Reader

/-- Whether a sign comes next that makes a name more than a name. -/
def isQualified : Reader Bool := return (← isSign ".") || (← isSign "(") || (← isSign "=")

def boundName : Reader Unit := do
  let t ← name
  guard (t ≠ ['_'])
  guard !(← isQualified)

/-- A name that a value is bound to, or the one that binds nothing. -/
def boundOrAny : Reader Unit := do
  if !(← tryWord "_") then boundName

def number : Reader Bool := do
  match ← take with
  | .number imaginary => return imaginary
  | _ => failure

/-- A number with or without a sign, or the sum of a real and an imaginary one. -/
def numberPattern : Reader Unit := do
  let _ ← trySign "-"
  let imaginary ← number
  if (← isSign "+") || (← isSign "-") then
    oneOf ["+", "-"]
    guard (!imaginary && (← number))

/-- A constant. -/
def literalPattern (rules : Rules) : Reader Unit := do
  match ← next? with
  | some (.quotation _) =>
    let _ ← quotations rules
  | some (.word t) =>
    guard (["None", "True", "False"].any (·.toList == t))
    word (String.ofList t)
  | _ => numberPattern

/-- A name with attributes behind it; how many. -/
def dottedName : Reader Nat := do
  let _ ← name
  return (← many do sign "."; name).length

/-- A pattern or, with a star, a name for the remaining values; whether there is a star. -/
def starredPattern (rules : Rules) : Reader Bool := do
  if ← trySign "*" then
    boundOrAny
    return true
  else
    rules .pattern
    return false

/-- Patterns for the values of a sequence, up to the closing sign. -/
def sequencePatterns (rules : Rules) (close : String) : Reader Unit := do
  let _ ← optional (itemsAndComma (starredPattern rules))
  sign close

/-- One pattern in the arguments of a class, and the comma behind it unless the closing bracket
follows; those with names come last. -/
def argumentPattern (rules : Rules) (byName : Bool) : Reader Bool := do
  let named := (← second?) == some (.sign "=".toList)
  if named then
    let _ ← name
    sign "="
  guard (named || !byName)
  rules .pattern
  if !(← isSign ")") then sign ","
  return named

def entryPattern (rules : Rules) : Reader Unit := do
  match ← next? with
  | some (.word t) =>
    if isName t then guard ((← dottedName) > 0) else literalPattern rules
  | _ => literalPattern rules
  sign ":"
  rules .pattern

/-- A name for the remaining pairs of a mapping. -/
def remainingEntries : Reader Unit := do
  sign "**"
  boundName
  let _ ← trySign ","

/-- What stands behind an opening brace in a pattern. -/
def mappingPattern (rules : Rules) : Reader Unit := do
  if !(← isSign "\x7d") then
    if ← isSign "**" then remainingEntries
    else
      let (_, comma) ← itemsAndComma (entryPattern rules)
      if comma && (← isSign "**") then remainingEntries
  sign "\x7d"

/-- What stands behind an opening bracket in a pattern: a group or a sequence. -/
def groupPattern (rules : Rules) : Reader Unit := do
  if !(← trySign ")") then
    let starred ← starredPattern rules
    if ← trySign "," then sequencePatterns rules ")"
    else
      guard !starred
      sign ")"

/-- A pattern without alternatives. -/
def closedPattern (rules : Rules) : Reader Unit := do
  match ← next? with
  | some (.word t) =>
    if !isName t then literalPattern rules
    else if t = ['_'] then word "_"
    else
      let attributes ← dottedName
      if ← trySign "(" then
        let _ ← iterate (argumentPattern rules) false
        sign ")"
      else guard (attributes > 0 || !(← isSign "="))
  | some (.sign t) =>
    if t = ['('] then sign "("; groupPattern rules
    else if t = ['['] then sign "["; sequencePatterns rules "]"
    else if t = ['\x7b'] then sign "\x7b"; mappingPattern rules
    else numberPattern
  | _ => literalPattern rules

/-- A pattern with its alternatives, and the name that the value is bound to. -/
def pattern (rules : Rules) : Reader Unit := do
  closedPattern rules
  let _ ← many do sign "|"; closedPattern rules
  if ← tryWord "as" then boundName

/-- The pattern of a case: one pattern, or several for the values of a sequence. -/
def casePattern (rules : Rules) : Reader Unit := do
  let starred ← starredPattern rules
  if ← trySign "," then
    let _ ← optional (itemsAndComma (starredPattern rules))
  else guard !starred

end RouteDoc.Source.Grammar
