import RouteDoc.Command.Generation

/-! How a call of the program ends. -/

namespace RouteDoc.Command

structure Outcome where
  /-- Zero if all went well, one if a run stopped, two if the arguments are wrong. -/
  exitCode : Nat := 0
  printed : Printed := {}
  /-- The fault that ended the run, if it is not one of the tool's own. -/
  escaped : Option RunFault := none
  files : FileTree := {}
  deriving Inhabited

namespace Outcome

def ofUsageFault (files : FileTree) (scope : Scope) (fault : UsageFault) : Outcome where
  exitCode := 2
  printed := { log := fault.report scope }
  files := files

def ofHelp (files : FileTree) (scope : Scope) : Outcome where
  printed := { out := scope.help }
  files := files

def ofRun : Except RunFault Unit × RunState → Outcome
  | (.ok (), state) => { printed := state.printed, files := state.files }
  | (.error fault, state) =>
    -- A fault that is not the tool's own leaves no line in the log.
    if fault.isReported then
      let log := state.printed.log ++ "Error: ".toList ++ fault.message ++ ['\n']
      { exitCode := 1, printed := { state.printed with log := log }, files := state.files }
    else { exitCode := 1, printed := state.printed, escaped := some fault, files := state.files }

end Outcome

def generate (w : Workspace) (arguments : List Text) : Outcome :=
  match Arguments.ofScope .generate arguments with
  | .error fault => .ofUsageFault w.files .generate fault
  | .ok read =>
    if read.has .help then .ofHelp w.files .generate
    else
      match Settings.ofArguments w.files read with
      | .error fault => .ofUsageFault w.files .generate fault
      | .ok settings => .ofRun ((Run.generate w settings).run.run { files := w.files })

/-- Call the program. What follows the options of the program is a command with its arguments. -/
def call (w : Workspace) (arguments : List Text) : Outcome :=
  let refused := Outcome.ofUsageFault w.files .program
  match Arguments.ofScope .program arguments with
  | .error fault => refused fault
  | .ok read =>
    if read.has .help then .ofHelp w.files .program
    else
      match read.others with
      | [] => refused .noCommand
      | command :: rest =>
        if command = "generate".toList then generate w rest
        else
          -- What begins like an option is read as one, although it stands for the command.
          match Arguments.ofScope .program read.others with
          | .error fault => refused fault
          | .ok again =>
            if again.has .help then .ofHelp w.files .program
            else refused (.unknownCommand command)

end RouteDoc.Command
