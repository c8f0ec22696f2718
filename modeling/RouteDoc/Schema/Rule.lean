import RouteDoc.Number.Numeral
import RouteDoc.Schema.Basic
import RouteDoc.Schema.Fault
import RouteDoc.Tag.Constraint

/-! Rules: how the options of a `validate` tag constrain a schema. -/

namespace RouteDoc

inductive Rule where
  | length
  | enum
  | maximum
  | minimum
  deriving DecidableEq, Repr, Inhabited

namespace Rule

def mark : Rule → Text
  | .length => "len=".toList
  | .enum => Tag.enumMark
  | .maximum => "max=".toList
  | .minimum => "min=".toList

/-- The rules that hold when no others are chosen. -/
def standard : List Rule := [.length, .enum, .maximum, .minimum]

def bound (option form value : Text) : Except Failure Bound :=
  match Numeral.float? value with
  | some x => .ok (.real x)
  | none => .error (.schema (.constraint option form))

def exactLength (option value : Text) : Except Failure Int :=
  match Numeral.integer? value with
  | none => .error (.schema (.constraint option "len=1".toList))
  | some (negative, digits) =>
    if Failure.digitLimit < digits.length then .error (.oversized digits.length)
    else .ok (Numeral.toInt negative digits)

/-- A schema with one option applied by one rule; an option of another rule changes nothing. -/
def apply (rule : Rule) (schema : Schema) (option : Text) : Except Failure Schema :=
  match Text.dropStart? rule.mark option with
  | none => .ok schema
  | some value =>
    match rule with
    | .length => do return { schema with length := some (← exactLength option value) }
    | .enum => .ok { schema with enum := Text.splitOn ',' value }
    | .maximum => do return { schema with maximum := some (← bound option "max=12".toList value) }
    | .minimum => do return { schema with minimum := some (← bound option "min=1".toList value) }

/-- A schema with every option applied by every rule, option by option. -/
def applyAll (rules : List Rule) (schema : Schema) (options : List Text) :
    Except Failure Schema :=
  options.foldlM (fun schema option => rules.foldlM (fun s rule => rule.apply s option) schema)
    schema

end Rule

end RouteDoc
