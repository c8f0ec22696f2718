import RouteDoc.Route.Basic
import RouteDoc.Route.Directive
import RouteDoc.Text.Quoted
import RouteDoc.Text.Upper

/-! Comment groups: each line that begins with a directive adds to one route. -/

namespace RouteDoc

/-- An annotation line with the wrong number of fields, given by what follows its directive. -/
inductive DirectiveFault where
  | router (payload : Text)
  | response (payload : Text)
  deriving DecidableEq, Repr, Inhabited

def DirectiveFault.message : DirectiveFault → Text
  | .router payload => "Cannot parse router comment: ".toList ++ Text.quoted payload
  | .response payload => "Cannot parse response comment: ".toList ++ Text.quoted payload

namespace Route

/-- A method as written, in brackets or not. -/
def readMethod (t : Text) : Text := Text.toUpper (Text.trim (fun c => c == '[' || c == ']') t)

/-- A status, a placeholder for the body, and a description that may be left out; each is ended by
one space. -/
def readResponse (payload : Text) : Except DirectiveFault (Text × Text) :=
  match Text.splitAtMost ' ' 2 payload with
  | [status, _] => .ok (status, [])
  | [status, _, description] => .ok (status, description)
  | _ => .error (.response payload)

def addDirective (route : Route) (directive : Directive) (payload : Text) :
    Except DirectiveFault Route :=
  match directive with
  | .description =>
    .ok { route with
      description := if route.description.isEmpty then payload else
        route.description ++ '\n' :: payload }
  | .summary => .ok { route with summary := payload }
  | .router =>
    match Text.words payload with
    | [path, method] => .ok { route with path := path, method := readMethod method }
    | _ => .error (.router payload)
  | .response => do
    let (status, description) ← readResponse payload
    return { route with responses := route.responses.put status { description } }

def addLine (route : Route) (line : Text) : Except DirectiveFault Route :=
  match Directive.ofLine? line with
  | some (directive, payload) => route.addDirective directive payload
  | none => .ok route

def ofComment (lines : List Text) : Except DirectiveFault Route := lines.foldlM addLine {}

/-- Whether a comment group says where its route is found, by the first words of its lines alone. -/
def isDeclaredBy (lines : List Text) : Bool :=
  lines.any fun line => Directive.ofFirstWord? line = some .router

end Route

end RouteDoc
