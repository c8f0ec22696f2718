import RouteDoc.Files.Tree
import RouteDoc.Source.Basic

/-! Source files: the routes of one file, and of all files in a directory. -/

namespace RouteDoc.Source

inductive Cause where
  | unreadable (fault : FileFault)
  | source (fault : Fault)
  deriving DecidableEq, Repr, Inhabited

/-- A file that gives no routes, by its name as it is shown, and why. -/
structure FileFailure where
  name : Text
  cause : Cause
  deriving DecidableEq, Repr, Inhabited

def FileFailure.message (failure : FileFailure) : Text :=
  let reason := match failure.cause with
    | .unreadable fault => fault.message failure.name
    | .source .malformed => "invalid syntax".toList
    | .source (.directive fault) => fault.message
  "Cannot parse comment of file ".toList ++ failure.name ++ ": ".toList ++ reason

/-- The routes of a source text that is shown under a name. -/
def routesNamed (name t : Text) : Except FileFailure (List Route) :=
  (routes t).mapError fun fault => ⟨name, .source fault⟩

def routesOfFile (tree : FileTree) (name : FileName) : Except FileFailure (List Route) :=
  match tree.readText name with
  | .error fault => .error ⟨name.toText, .unreadable fault⟩
  | .ok text => routesNamed name.toText text

def ending : Text := ".py".toList

/-- Whether a place below a directory is that of a source file. Deeper ones count only when
`recursive`. -/
def isMatch (recursive : Bool) (parts : List Text) : Bool :=
  (recursive || parts.length == 1) && parts.getLast?.any (ending.isSuffixOf ·)

/-- The names of the source files of a directory, in their order; what is no directory has none. -/
def filesOf (tree : FileTree) (directory : FileName) (recursive : Bool) : List FileName :=
  match tree.place directory with
  | .error _ => []
  | .ok place =>
    if tree.isDirectory place then
      (((tree.below place).filter (isMatch recursive)).map directory.append).mergeSort FileName.le
    else []

/-- The routes of all source files of a directory. The first file with a fault stops the reading. -/
def routesOfDirectory (tree : FileTree) (directory : FileName) (recursive : Bool) :
    Except FileFailure (List Route) := do
  return (← (filesOf tree directory recursive).mapM (routesOfFile tree)).flatten

end RouteDoc.Source
