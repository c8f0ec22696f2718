import RouteDoc.Route.Comment
import RouteDoc.Source.Docstring

/-! Annotated source texts: their comment groups, and the routes that these describe. -/

namespace RouteDoc.Source

/-- Why a source gives no routes. -/
inductive Fault where
  | malformed
  | directive (fault : DirectiveFault)
  deriving DecidableEq, Repr, Inhabited

/-- Groups by the lines on which they begin; of two that begin on one line, the first stays first.
-/
def inOrder (groups : List Group) : List Group := groups.mergeSort fun a b => a.row ≤ b.row

/-- The comment blocks and the documentation of a source text, in the order of their lines. -/
def groups? (t : Text) : Option (List Group) := do
  let comments ← comments? t
  let body ← Grammar.statements? t
  return inOrder (Group.ofComments comments ++ Docstring.ofModule body)

/-- The route of each group that declares one. Every group is read, so that a line with a fault
stops the reading even where no route is declared. -/
def routesOf (groups : List Group) : Except DirectiveFault (List Route) := do
  let routes ← groups.mapM fun group =>
    (Route.ofComment group.lines).map (Route.isDeclaredBy group.lines, ·)
  return (routes.filter (·.1)).map (·.2)

def routes (t : Text) : Except Fault (List Route) :=
  match groups? t with
  | none => .error .malformed
  | some groups => (routesOf groups).mapError .directive

end RouteDoc.Source
