import RouteDoc.Text.Order

/-! The names of files and directories: parts with slashes between them. -/

namespace RouteDoc

/-- The name of a file or a directory, part by part. -/
structure FileName where
  /-- Whether the name starts at the root of all files. -/
  rooted : Bool := false
  parts : List Text := []
  deriving DecidableEq, Repr, Inhabited

namespace FileName

/-- The part that stands for the directory itself. -/
def here : Text := ['.']

/-- The part that stands for the directory above. -/
def above : Text := ['.', '.']

/-- The part that stands for the root of all files. -/
def root : Text := ['/']

/-- The name that a text writes. Slashes side by side count once, and parts that stand for the
directory itself count nothing. -/
def ofText (t : Text) : FileName where
  rooted := t.head? == some '/'
  parts := (Text.splitOn '/' t).filter fun part => !part.isEmpty && part != here

def toText (name : FileName) : Text :=
  if name.rooted then '/' :: Text.join ['/'] name.parts
  else if name.parts.isEmpty then here
  else Text.join ['/'] name.parts

def steps (name : FileName) : List Text :=
  if name.rooted then root :: name.parts else name.parts

def ofSteps : List Text → FileName
  | [] => {}
  | part :: parts => if part = root then ⟨true, parts⟩ else ⟨false, part :: parts⟩

def append (name : FileName) (parts : List Text) : FileName :=
  { name with parts := name.parts ++ parts }

/-- The order of names: by the first parts that differ, character by character. -/
def le (a b : FileName) : Bool := lexLe Text.le a.parts b.parts

theorem le_total (a b : FileName) : (a.le b || b.le a) = true :=
  lexLe_total Text.le_total a.parts b.parts

theorem le_trans (a b c : FileName) (hab : a.le b = true) (hbc : b.le c = true) :
    a.le c = true :=
  lexLe_trans Text.le_trans Text.le_antisymm hab hbc

theorem parts_eq_of_le_of_le {a b : FileName} (hab : a.le b = true) (hba : b.le a = true) :
    a.parts = b.parts :=
  lexLe_antisymm Text.le_antisymm hab hba

end FileName

end RouteDoc
