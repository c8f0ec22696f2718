import RouteDoc.Files.Tree

/-! Writing to a tree of files: the directories on the way to a file are made, and the file is then
the only one that is not as it was. -/

namespace RouteDoc.FileTree

/-- The places that the parts of a name lead to, one after another. -/
def passed (place : List Text) : List Text → List (List Text)
  | [] => []
  | part :: parts => follow place part :: passed (follow place part) parts

/-- The tree with the bytes of a file at a place. -/
def put (tree : FileTree) (place : List Text) (bytes : List UInt8) : FileTree :=
  { tree with files := tree.files.filter (·.1 ≠ place) ++ [(place, bytes)] }

variable {tree : FileTree}

end RouteDoc.FileTree
