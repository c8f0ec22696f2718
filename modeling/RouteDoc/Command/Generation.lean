import RouteDoc.Command.Settings
import RouteDoc.Config.File
import RouteDoc.Document.Basic
import RouteDoc.Source.Discovery
import RouteDoc.Target.Basic

/-! Making a document: the configuration is read, the routes are collected, and the document is
written to a file. -/

namespace RouteDoc.Command

/-- What a run finds: files, and code with the models that it declares. -/
structure Workspace where
  files : FileTree := {}
  code : Code := []
  catalog : Catalog := .ofDeclarations []

/-- Why no document is made. -/
inductive RunFault where
  | config (fault : ConfigFault)
  | source (failure : Source.FileFailure)
  | target (fault : Target.Fault)
  | models (failure : Failure)
  /-- The document cannot be written. -/
  | output (name : Text) (fault : FileFault)
  deriving Repr, Inhabited

namespace RunFault

def message : RunFault → Text
  | .config fault => fault.message
  | .source failure => failure.message
  | .target fault => fault.message
  | .models failure => failure.message
  | .output name fault => fault.message name

/-- Whether a fault is reported as one of the tool's own. -/
def isReported : RunFault → Bool
  | .config fault => fault.isReported
  | .source _ => true
  | .target fault => fault.isReported
  | .models (.schema _) => true
  | .models (.oversized _) | .output .. => false

end RunFault

/-- What is printed: to the user, and to the log. -/
structure Printed where
  out : Text := []
  log : Text := []
  deriving DecidableEq, Repr, Inhabited

/-- What a run changes as it goes: what is printed, and the files. -/
structure RunState where
  printed : Printed := {}
  files : FileTree := {}
  deriving Inhabited

/-- A run prints as it goes and works on files, and may stop at a fault; what it has printed and
written by then stays. -/
abbrev Run := ExceptT RunFault (StateM RunState)

namespace Run

def print (change : Printed → Printed) : Run Unit :=
  modify fun state => { state with printed := change state.printed }

def say (line : Text) : Run Unit := print fun p => { p with out := p.out ++ line ++ ['\n'] }

def note (line : Text) : Run Unit := print fun p => { p with log := p.log ++ line ++ ['\n'] }

def files : Run FileTree := do return (← get).files

def setFiles (tree : FileTree) : Run Unit := modify fun state => { state with files := tree }

/-- Go on with a value, or stop at the fault that is there instead. -/
def orStop {ε α : Type} (toFault : ε → RunFault) (value : Except ε α) : Run α :=
  ExceptT.mk (pure (value.mapError toFault))

def config (s : Settings) : Run Config := do
  let read ← match s.config with
    | some file => do orStop .config (Config.ofFile (← files) file)
    | none => pure {}
  return read.override s.overrides

def sourceRoutes (recursive : Bool) (directory : FileName) : Run (List Route) := do
  say ("Parsing ".toList ++ directory.toText ++ "...".toList)
  orStop .source (Source.routesOfDirectory (← files) directory recursive)

def targetRoutes (w : Workspace) (target : Text) : Run (List Route) := do
  say ("Loading ".toList ++ target ++ "...".toList)
  orStop .target (Target.routes w.catalog w.code target)

/-- All routes that settings ask for: those of sources, then those of targets. -/
def routes (w : Workspace) (s : Settings) : Run (List Route) := do
  let sources ← s.directories.mapM (sourceRoutes s.recursive)
  let targets ← s.targets.mapM (targetRoutes w)
  return sources.flatten ++ targets.flatten

/-- The paths of routes, with the warnings in the log. -/
def paths (w : Workspace) (found : List Route) : Run (Entries Text PathItem) := do
  let (assembly, failure) := Assembly.ofRoutes w.catalog found
  -- The warnings are in the log also when the assembly has stopped.
  assembly.warnings.forM fun warning => note warning.logLine
  match failure with
  | none => return assembly.paths
  | some failure => throw (.models failure)

/-- The text of a document. It has one only if all that it holds has a form there. -/
def content (format : Format) (document : Document) : Except Target.Fault Text :=
  match format, document.foreign with
  | .json, [] => .ok (document.toJson.render (some 2))
  | .yaml, [] => .ok document.toYaml
  | .json, value :: _ => .error (.notJson value.className)
  | .yaml, value :: _ => .error (.notYaml value.shown)

def compose (w : Workspace) (s : Settings) : Run Text := do
  let config ← config s
  let found ← routes w s
  say ("Found ".toList ++ Text.ofNat found.length ++ " routes.".toList)
  orStop .target (content s.format ⟨config, ← paths w found⟩)

/-- Make the directory that one part of a name leads to, where there is none. -/
def enter (name : FileName) (place : List Text) (part : Text) : Run (List Text) := do
  let (tree, place) ← orStop (.output name.toText ·) ((← files).enter place part)
  setFiles tree
  return place

/-- Make a directory and those on the way to it; those that are made before a fault stay. -/
def makeDirectory (name : FileName) : Run Unit := do
  let _ ← name.steps.foldlM (enter name) []

def outputFile (s : Settings) : FileName := s.output.append ["openapi.".toList ++ s.format.word]

def save (s : Settings) (text : Text) : Run Unit := do
  makeDirectory s.output
  let file := outputFile s
  setFiles (← orStop (.output file.toText ·)
    ((← files).write file (Text.toUtf8 (text ++ ['\n']))))
  say ("OpenAPI document saved to ".toList ++ file.toText)

/-- Make the document that settings ask for. Nothing is written before its text is known. -/
def generate (w : Workspace) (s : Settings) : Run Unit := do save s (← compose w s)

end Run

end RouteDoc.Command
