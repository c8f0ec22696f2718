import RouteDoc.Command.Arguments
import RouteDoc.Config.Basic
import RouteDoc.Files.Tree

/-! What the command that makes a document is asked for, once its arguments have been checked in the
order in which click checks them. -/

namespace RouteDoc.Command

structure Settings where
  directories : List FileName
  targets : List Text
  output : FileName
  format : Format
  config : Option FileName
  overrides : Overrides
  recursive : Bool
  deriving DecidableEq, Repr, Inhabited

namespace Settings

def fault? (tree : FileTree) (opt : Opt) (value : Text) : Option ValueFault :=
  match opt, tree.kind? value with
  | .directory, none | .appDirectory, none | .config, none => some (.missing value)
  | .directory, some .file | .appDirectory, some .file | .output, some .file =>
    some (.isFile value)
  | .config, some .directory => some (.isDirectory value)
  | .format, _ => if (Format.ofWord? value).isNone then some (.unknownFormat value) else none
  | _, _ => none

def firstFault? (tree : FileTree) (arguments : Arguments) : Option UsageFault :=
  arguments.order.findSome? fun opt =>
    (arguments.relevant opt).findSome? fun value => (fault? tree opt value).map (.badValue opt ·)

/-- The settings that arguments without faults ask for. -/
def ofChecked (arguments : Arguments) : Settings where
  directories := (arguments.values .directory).map FileName.ofText
  targets := arguments.values .target
  output := FileName.ofText ((arguments.value? .output).getD [])
  format := ((arguments.value? .format).bind Format.ofWord?).getD .json
  config := (arguments.value? .config).map FileName.ofText
  overrides :=
    { title := arguments.value? .title
      description := arguments.value? .description
      version := arguments.value? .apiVersion }
  recursive := arguments.has .recursive

def ofArguments (tree : FileTree) (arguments : Arguments) : Except UsageFault Settings :=
  -- Values are looked at before it is asked whether there are too many arguments or too few.
  match firstFault? tree arguments with
  | some fault => .error fault
  | none =>
    if !arguments.others.isEmpty then .error (.extraArguments arguments.others)
    else if (arguments.values .directory ++ arguments.values .target).isEmpty then
      .error .noSources
    else .ok (ofChecked arguments)

end Settings

end RouteDoc.Command
