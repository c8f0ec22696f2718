import RouteDoc.Files.Name
import RouteDoc.Text.Line
import RouteDoc.Text.Quoted
import RouteDoc.Text.Utf8

/-! A tree of files, and what can be read and written in it. -/

namespace RouteDoc

inductive FileFault where
  | missing
  | isDirectory
  /-- A part of the name before its last is a file. -/
  | notDirectory
  | notText
  deriving DecidableEq, Repr, Inhabited

def FileFault.message (name : Text) : FileFault → Text
  | .missing => "[Errno 2] No such file or directory: ".toList ++ Text.quoted name
  | .isDirectory => "[Errno 21] Is a directory: ".toList ++ Text.quoted name
  | .notDirectory => "[Errno 20] Not a directory: ".toList ++ Text.quoted name
  | .notText => "'utf-8' codec can't decode the bytes".toList

/-- Files with their bytes, and directories, each at its place: the parts on the way to it, from
where names begin or from the root of all files. The directories above a file or a directory are
there too. -/
structure FileTree where
  files : List (List Text × List UInt8) := []
  directories : List (List Text) := []
  deriving DecidableEq, Repr, Inhabited

namespace FileTree

def bytes? (tree : FileTree) (place : List Text) : Option (List UInt8) := tree.files.lookup place

def isDirectory (tree : FileTree) (place : List Text) : Bool :=
  place.isEmpty || tree.directories.any (place.isPrefixOf ·) ||
    tree.files.any fun (file, _) => place.isPrefixOf file && place != file

/-- The place that one part of a name leads to from a directory. Above the place where names begin
are places of their own, and above the root there is none. -/
def follow (place : List Text) (part : Text) : List Text :=
  if part.isEmpty || part = FileName.here then place
  else if part = FileName.above && place.any (· ≠ FileName.above) then
    if place = [FileName.root] then place else place.dropLast
  else place ++ [part]

/-- One step from a place along a part of a name. Only directories lead on. -/
def step (tree : FileTree) (place : List Text) (part : Text) : Except FileFault (List Text) :=
  if tree.isDirectory place then .ok (follow place part)
  else if (tree.bytes? place).isSome then .error .notDirectory
  else .error .missing

def placeOf (tree : FileTree) (parts : List Text) : Except FileFault (List Text) :=
  parts.foldlM tree.step []

def place (tree : FileTree) (name : FileName) : Except FileFault (List Text) :=
  tree.placeOf name.steps

def read (tree : FileTree) (name : FileName) : Except FileFault (List UInt8) := do
  let place ← tree.place name
  if tree.isDirectory place then .error .isDirectory
  else
    match tree.bytes? place with
    | some bytes => .ok bytes
    | none => .error .missing

/-- The text of the file with a name, with one kind of line end. -/
def readText (tree : FileTree) (name : FileName) : Except FileFault Text := do
  match Text.ofUtf8? (← tree.read name) with
  | some text => return Text.unifyLineEnds text
  | none => .error .notText

/-- What a name as it is written leads to. -/
inductive Kind where
  | file
  | directory
  deriving DecidableEq, Repr, Inhabited

/-- What a written name leads to; a slash behind it asks for a directory. -/
def kind? (tree : FileTree) (written : Text) : Option Kind :=
  if written.isEmpty then none
  else
    let start := if written.head? == some '/' then [FileName.root] else []
    match tree.placeOf (start ++ Text.splitOn '/' written) with
    | .error _ => none
    | .ok place =>
      if tree.isDirectory place then some .directory
      else if (tree.bytes? place).isSome then some .file
      else none

/-- Every place of the tree, that of the whole tree apart. -/
def places (tree : FileTree) : List (List Text) :=
  ((tree.files.map (·.1) ++ tree.directories).flatMap fun place =>
    (List.range place.length).map fun n => place.take (n + 1)).eraseDups

/-- The places below a directory, without the way to it. The root of all files and the places above
that where names begin are below no other. -/
def below (tree : FileTree) (place : List Text) : List (List Text) :=
  tree.places.filterMap fun other =>
    match other.drop place.length with
    | [] => none
    | part :: parts =>
      if place.isPrefixOf other && part ≠ FileName.root && part ≠ FileName.above then
        some (part :: parts)
      else none

/-- Make the directory that one part of a name leads to, where there is none. -/
def enter (tree : FileTree) (place : List Text) (part : Text) :
    Except FileFault (FileTree × List Text) :=
  let place := follow place part
  if (tree.bytes? place).isSome then .error .notDirectory
  else .ok ({ tree with directories := tree.directories ++ [place] }, place)

/-- Write the bytes of a file in a directory that is there. -/
def write (tree : FileTree) (name : FileName) (bytes : List UInt8) : Except FileFault FileTree := do
  let place ← tree.place name
  if tree.isDirectory place then .error .isDirectory
  else
    let others := tree.files.filter (·.1 ≠ place)
    return { tree with files := others ++ [(place, bytes)] }

/-- The files of `after` that are not the same in `before`, in the order of their names. -/
def changes (before after : FileTree) : List (FileName × List UInt8) :=
  let changed := after.files.filter fun (place, bytes) => before.bytes? place ≠ some bytes
  let named := changed.map fun (place, bytes) => (FileName.ofSteps place, bytes)
  named.mergeSort fun a b => a.1.le b.1

end FileTree

end RouteDoc
