import RouteDoc.Command.Outcome

/-! The program: what the arguments name is loaded from the disk, the call is made, and what it
leaves behind is printed and written. -/

namespace RouteDoc.Program

/-- Add what stands at a name on the disk to a tree, at a place, with `depth` levels below it. -/
def load : (depth : Nat) → FileTree → FileName → (place : List Text) → IO FileTree
  | depth, tree, name, place => do
    let written := String.ofList name.toText
    try
      let entries ← ((← IO.currentDir) / written).readDir
      let tree := { tree with directories := tree.directories ++ [place] }
      match depth with
      | 0 => return tree
      | depth + 1 =>
        entries.foldlM (fun tree entry =>
          let part := entry.fileName.toList
          load depth tree (name.append [part]) (place ++ [part])) tree
    catch _ =>
      try
        let bytes ← IO.FS.readBinFile written
        return { tree with files := tree.files ++ [(place, bytes.toList)] }
      catch _ => return tree

/-- Add what stands on the way along a name, and `depth` levels below its end. -/
def loadAlong (depth : Nat) (tree : FileTree) (name : FileName) : IO FileTree :=
  (List.range (name.steps.length + 1)).foldlM (fun tree n =>
    let steps := name.steps.take n
    let depth := if n = name.steps.length then depth else 0
    load depth tree (.ofSteps steps) (steps.foldl FileTree.follow [])) tree

/-- How many levels of directories are looked at when sources are looked for at all depths. -/
def deepest : Nat := 100

def filesFor (arguments : Command.Arguments) : IO FileTree := do
  let depth := if arguments.has .recursive then deepest else 1
  let names (opt : Command.Opt) := (arguments.relevant opt).map FileName.ofText
  let tree ← (names .directory).foldlM (loadAlong depth) {}
  let tree ← (names .appDirectory ++ names .config).foldlM (loadAlong 0) tree
  (names .output).foldlM (loadAlong 1) tree

/-- The workspace of a call. No module of code can be loaded. -/
def workspaceFor (arguments : List Text) : IO Command.Workspace := do
  match Command.Arguments.ofScope .generate (arguments.drop 1) with
  | .error _ => return {}
  | .ok read => return { files := ← filesFor read }

/-- Write a file, and make the directories on the way to it. -/
def save (name : FileName) (bytes : List UInt8) : IO Unit := do
  IO.FS.createDirAll (String.ofList (FileName.ofSteps name.steps.dropLast).toText)
  IO.FS.writeBinFile (String.ofList name.toText) ⟨bytes.toArray⟩

end RouteDoc.Program

def main (arguments : List String) : IO UInt32 := do
  let arguments := arguments.map (·.toList)
  let workspace ← RouteDoc.Program.workspaceFor arguments
  let outcome := RouteDoc.Command.call workspace arguments
  for (name, bytes) in workspace.files.changes outcome.files do
    RouteDoc.Program.save name bytes
  (← IO.getStdout).putStr (String.ofList outcome.printed.out)
  (← IO.getStderr).putStr (String.ofList outcome.printed.log)
  match outcome.escaped with
  | some fault => (← IO.getStderr).putStrLn (String.ofList fault.message)
  | none => pure ()
  return UInt32.ofNat outcome.exitCode
