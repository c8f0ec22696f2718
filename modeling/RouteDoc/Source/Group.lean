import RouteDoc.Source.Comment

/-! Comment groups: the comments on consecutive lines of their own, and every other comment by
itself. They are found in one pass over the comments of a source. -/

namespace RouteDoc.Source

/-- Lines that may describe one route. -/
structure Group where
  /-- The number of the line on which the group begins. -/
  row : Nat
  lines : List Text
  deriving DecidableEq, Repr, Inhabited

/-- What is known between two comments. Before the first one, both rows are below all others. -/
structure Grouping where
  /-- The groups that are complete. -/
  blocks : List Group := []
  /-- The row of the first comment of the group that is open. -/
  start : Int := -1
  /-- The row of the comment before. -/
  last : Int := -1
  /-- The lines of the group that is open; none if no group is. -/
  current : List Text := []
  deriving DecidableEq, Repr, Inhabited

namespace Grouping

/-- The groups, with the one that is open as the last. -/
def published (s : Grouping) : List Group :=
  if s.current.isEmpty then s.blocks else s.blocks ++ [⟨s.start.toNat, s.current⟩]

/-- Take the next comment. -/
def step (s : Grouping) (c : Comment) : Grouping :=
  if c.ownLine ∧ s.current ≠ [] ∧ c.row = s.last + 1 then
    { s with current := s.current ++ [c.text], last := c.row }
  else
    let opened :=
      { s with blocks := s.published, start := c.row, current := [c.text], last := c.row }
    -- A comment behind a statement stands alone, so its group is complete at once.
    if c.ownLine then opened else { opened with blocks := opened.published, current := [] }

end Grouping

def Group.ofComments (comments : List Comment) : List Group :=
  (comments.foldl Grouping.step {}).published

end RouteDoc.Source
