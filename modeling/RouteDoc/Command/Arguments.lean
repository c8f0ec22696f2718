import RouteDoc.Command.Usage

/-! Reading arguments as the parser of click does: options with their values, and what is left. A
value stands behind an equals sign, behind the letter of an option, or in the next argument. -/

namespace RouteDoc.Command

/-- The options that are given, in order and with their values, and the other arguments. -/
structure Arguments where
  given : List (Opt × Text) := []
  others : List Text := []
  deriving DecidableEq, Repr, Inhabited

namespace Arguments

/-- An option that stands in front of other arguments, with its value, and what is left. -/
def takeValue (opt : Opt) (name : Text) (attached : Option Text) (rest : List Text) :
    Except UsageFault (List (Opt × Text) × List Text) :=
  match attached, rest with
  | none, _ =>
    if !opt.takesValue then .ok ([(opt, [])], rest)
    else
      match rest with
      | value :: rest => .ok ([(opt, value)], rest)
      | [] => .error (.noValue name)
  | some value, _ =>
    if opt.takesValue then .ok ([(opt, value)], rest) else .error (.extraValue name)

/-- Options that share a dash: letters, and behind the first that takes a value the value. -/
def takeLetters (allowed : List Opt) : Text → (rest : List Text) →
    Except UsageFault (List (Opt × Text) × List Text)
  | [], rest => .ok ([], rest)
  | c :: letters, rest =>
    match Opt.named? allowed ['-', c] with
    | none => .error (.unknownOption ['-', c])
    | some opt =>
      if opt.takesValue then
        takeValue opt ['-', c] (if letters.isEmpty then none else some letters) rest
      else do
        let (more, rest) ← takeLetters allowed letters rest
        return ((opt, []) :: more, rest)

/-- An argument that begins with a dash, and what is left. Two dashes begin a name; one dash may
begin letters too. -/
def takeOption (allowed : List Opt) (argument : Text) (rest : List Text) :
    Except UsageFault (List (Opt × Text) × List Text) :=
  let name := argument.takeWhile (· != '=')
  let attached := if argument.contains '=' then some (argument.drop (name.length + 1)) else none
  -- A short name is one of letters, so that its value may follow it at once.
  let long := if Opt.isShort name then none else Opt.named? allowed name
  match long with
  | some opt => takeValue opt name attached rest
  | none =>
    if Text.startsWith ['-', '-'] argument then .error (.unknownOption name)
    else takeLetters allowed (argument.drop 1) rest

def isOption (argument : Text) : Bool := argument.head? == some '-' && argument.length != 1

/-- Read arguments. Two dashes alone end the options, and so does the first other argument unless
options may follow it. -/
def read (allowed : List Opt) (interspersed : Bool) :
    (fuel : Nat) → List Text → Except UsageFault Arguments
  | 0, others => .ok { others := others }
  | _, [] => .ok {}
  | fuel + 1, argument :: rest =>
    if argument = ['-', '-'] then .ok { others := rest }
    else if isOption argument then do
      let (given, rest) ← takeOption allowed argument rest
      let more ← read allowed interspersed fuel rest
      return { more with given := given ++ more.given }
    else if interspersed then do
      let more ← read allowed interspersed fuel rest
      return { more with others := argument :: more.others }
    else .ok { others := argument :: rest }

/-- The arguments of a scope. The program hands on what follows the name of its command. -/
def ofScope (scope : Scope) (arguments : List Text) : Except UsageFault Arguments :=
  read scope.options (scope = .generate) (arguments.length + 1) arguments

def values (arguments : Arguments) (opt : Opt) : List Text :=
  arguments.given.filterMap fun (other, value) => if other = opt then some value else none

/-- The value that counts of an option: the last one, or the standard one. -/
def value? (arguments : Arguments) (opt : Opt) : Option Text :=
  (arguments.values opt).getLast?.or opt.standard?

def has (arguments : Arguments) (opt : Opt) : Bool := !(arguments.values opt).isEmpty

def relevant (arguments : Arguments) (opt : Opt) : List Text :=
  if opt.isMultiple then arguments.values opt else (arguments.value? opt).toList

/-- The options in the order in which their values are looked at: as they are given first, then
those that are not given. -/
def order (arguments : Arguments) : List Opt :=
  let given := (arguments.given.map (·.1)).eraseDups
  given ++ Opt.all.filter (!given.contains ·)

end Arguments

end RouteDoc.Command
