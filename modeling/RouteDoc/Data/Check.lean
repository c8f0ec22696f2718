import RouteDoc.Data.Basic
import RouteDoc.Number.Numeral

/-! Checking data as pydantic does where it is not strict: a reader gives a value, or every flaw of
the data with the place where it is. Which values are taken for others, in which order the flaws
stand and what their codes are is pydantic's choice. -/

namespace RouteDoc

inductive Step where
  | name (name : Text)
  | index (index : Nat)
  deriving DecidableEq, Repr, Inhabited

inductive FlawKind where
  | missing
  | text | textEncoding
  | list | mapping | model
  | word | choice
  | integer | integerText | integerFraction | notFinite
  | number | numberText
  | truth | truthText
  deriving DecidableEq, Repr, Inhabited

/-- A flaw and its place, from the outermost container inwards. -/
structure Flaw where
  place : List Step
  kind : FlawKind
  deriving DecidableEq, Repr, Inhabited

def FlawKind.code : FlawKind → Text
  | .missing => "missing".toList
  | .text => "string_type".toList
  | .textEncoding => "string_unicode".toList
  | .list => "list_type".toList
  | .mapping => "dict_type".toList
  | .model => "model_type".toList
  | .word => "literal_error".toList
  | .choice => "enum".toList
  | .integer => "int_type".toList
  | .integerText => "int_parsing".toList
  | .integerFraction => "int_from_float".toList
  | .notFinite => "finite_number".toList
  | .number => "float_type".toList
  | .numberText => "float_parsing".toList
  | .truth => "bool_type".toList
  | .truthText => "bool_parsing".toList

/-- A value, or the flaws of the data it should come from. -/
abbrev Checked (α : Type) := Except (List Flaw) α

namespace Checked

variable {α β : Type}

/-- A single flaw at the place of the value itself. -/
def flaw (kind : FlawKind) : Checked α := .error [⟨[], kind⟩]

/-- Move the flaws one step inwards. -/
def within (step : Step) : Checked α → Checked α
  | .ok value => .ok value
  | .error flaws => .error (flaws.map fun f => { f with place := step :: f.place })

/-- Apply a checked function to a checked value; the flaws of both are kept. -/
def ap : Checked (α → β) → Checked α → Checked β
  | .ok f, .ok value => .ok (f value)
  | .ok _, .error flaws => .error flaws
  | .error flaws, .ok _ => .error flaws
  | .error flaws, .error more => .error (flaws ++ more)

def all : List (Checked α) → Checked (List α)
  | [] => .ok []
  | check :: more => ap (check.map fun value values => value :: values) (all more)

/-- The items of a list, each checked at its index from `start` on. -/
def items (check : Data → Checked α) (start : Nat) : List Data → List (Checked α)
  | [] => []
  | item :: more => within (.index start) (check item) :: items check (start + 1) more

end Checked

namespace Data

variable {α : Type}

/-- A text. Bytes that encode one are taken as that text. -/
def asText : Data → Checked Text
  | .text t => .ok t
  | .bytes value =>
    match String.fromUTF8? ⟨value.toArray⟩ with
    | some s => .ok s.toList
    | none => .flaw .textEncoding
  | _ => .flaw .text

def asOptional (check : Data → Checked α) : Data → Checked (Option α)
  | .null => .ok none
  | d => (check d).map some

def asList (check : Data → Checked α) : Data → Checked (List α)
  | .list items | .tuple items | .set items => Checked.all (Checked.items check 0 items)
  | _ => .flaw .list

/-- A whole number from a text: blanks around it, low lines between digits, and a fraction of zeros
are taken. -/
def integerOfText? (t : Text) : Option Int :=
  let t := Text.strip t
  let whole := t.takeWhile (· != '.')
  let fraction := t.dropWhile (· != '.')
  if fraction.drop 1 |>.all (· == '0') then
    (Numeral.dropLowLines? false whole).bind fun digits =>
      if digits.all fun c => c.toNat < 128 then
        (Numeral.integer? digits).map fun (negative, digits) => Numeral.toInt negative digits
      else none
  else none

def asInteger : Data → Checked Int
  | .int n => .ok n
  | .bool b => .ok (if b then 1 else 0)
  | .float (.finite negative m e) =>
    if m * pow2 e % Binary64.unitsPerOne = 0 then
      let n : Nat := m * pow2 e / Binary64.unitsPerOne
      .ok (if negative then -(n : Int) else n)
    else .flaw .integerFraction
  | .float _ => .flaw .notFinite
  | .text t => (integerOfText? t).elim (.flaw .integerText) .ok
  | _ => .flaw .integer

def asFloat : Data → Checked Binary64
  | .float x => .ok x
  | .int n => .ok (.ofInt n)
  | .bool b => .ok (.ofInt (if b then 1 else 0))
  | .text t =>
    match if t.all fun c => c.toNat < 128 then Numeral.float? (Text.strip t) else none with
    | some x => .ok x
    | none => .flaw .numberText
  | _ => .flaw .number

def truthWords : List (String × Bool) :=
  [("1", true), ("on", true), ("t", true), ("true", true), ("y", true), ("yes", true),
    ("0", false), ("off", false), ("f", false), ("false", false), ("n", false), ("no", false)]

def asBool : Data → Checked Bool
  | .bool b => .ok b
  | .int 0 => .ok false
  | .int 1 => .ok true
  | .int _ => .flaw .truthText
  | .float x =>
    if x = .ofInt 1 then .ok true
    else if x = .zero false ∨ x = .zero true then .ok false
    else if x.isFinite then .flaw .integerFraction
    else .flaw .truth
  | .text t =>
    match truthWords.find? fun word => word.1.toList = Text.toLowerAscii t with
    | some word => .ok word.2
    | none => .flaw .truthText
  | _ => .flaw .truth

/-- The entries of a record. -/
def asRecord (read : List (Data × Data) → Checked α) : Data → Checked α
  | .mapping entries => read entries
  | _ => .flaw .model

def field (entries : List (Data × Data)) (name : String) (check : Data → Checked α) : Checked α :=
  match get? entries name.toList with
  | some value => Checked.within (.name name.toList) (check value)
  | none => Checked.within (.name name.toList) (.flaw .missing)

def fieldOr (entries : List (Data × Data)) (name : String) (fallback : α)
    (check : Data → Checked α) : Checked α :=
  match get? entries name.toList with
  | some value => Checked.within (.name name.toList) (check value)
  | none => .ok fallback

def asEntries (check : Data → Checked α) : Data → Checked (List (Text × α))
  | .mapping entries =>
    Checked.all <| entries.map fun (key, value) =>
      Checked.ap (key.asText.map fun name value => (name, value)) <|
        Checked.within (.name (match key with | .text t => t | _ => [])) (check value)
  | _ => .flaw .mapping

end Data

end RouteDoc
