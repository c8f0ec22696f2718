import RouteDoc.Yaml.Node.Basic
import RouteDoc.Yaml.Token.Reader

/-! The node of a document from the tokens of its text, as the parser and the composer of PyYAML
make it. -/

namespace RouteDoc.Yaml

/-- The tokens that are left, and the anchors so far. -/
structure Parsing where
  tokens : List Token
  anchors : List Text := []
  deriving Repr, Inhabited

/-- A step of the reading of nodes. -/
abbrev Parse := StateT Parsing (Except Fault)

/-- What tags with a handle begin with. -/
abbrev Handles := List (Text × Text)

/-- The handles that need no directive. -/
def Handles.standard : Handles := [(['!'], ['!']), (['!', '!'], NodeTag.standard)]

namespace Parse

/-- The next token. It is a fault to look where the text cannot be read. -/
def peek : Parse Token := do
  match (← get).tokens with
  | .broken fault :: _ => throw fault
  | token :: _ => return token
  | [] => return .finish

/-- Go behind the next token. -/
def advance : Parse Unit := modify fun p => { p with tokens := p.tokens.drop 1 }

/-- Go behind the next token if it is the one that must be here. -/
def expect (token : Token) : Parse Unit := do
  if (← peek) = token then advance else throw .malformed

/-! ### Tags and anchors -/

def address (handles : Handles) : Option Text → Text → Parse Text
  | none, suffix => return suffix
  | some handle, suffix =>
    match handles.lookup handle with
    | some start => return start ++ suffix
    | none => throw .malformed

def tag? : Parse (Option (Option Text × Text)) := do
  match ← peek with
  | .tag handle suffix => advance; return some (handle, suffix)
  | _ => return none

def anchor? : Parse (Option Text) := do
  match ← peek with
  | .anchor name => advance; return some name
  | _ => return none

/-- The anchor and the tag in front of a node, in either order. -/
def properties (handles : Handles) : Parse (Option Text × Option Text) := do
  let before ← anchor?
  let tag ← tag?
  let anchor ← if before.isNone && tag.isSome then anchor? else pure before
  match tag with
  | none => return (anchor, none)
  | some (handle, suffix) => return (anchor, some (← address handles handle suffix))

/-- Note an anchor. Each may be there once. -/
def note (anchor : Option Text) : Parse Unit := do
  let _ ← peek
  match anchor with
  | none => return
  | some name =>
    if (← get).anchors.contains name then throw .malformed
    else modify fun p => { p with anchors := name :: p.anchors }

/-- The tag of a node with an address, or the one that a node of its kind has otherwise. A mark
alone says no more than no tag. -/
def tagOr (otherwise : NodeTag) : Option Text → NodeTag
  | none => otherwise
  | some address => if address = ['!'] then otherwise else .ofAddress address

/-- The tag of a scalar. Unless a tag says otherwise, a scalar with quotes is a text. -/
def tagOfScalar (plain : Bool) (address : Option Text) (text : Text) : NodeTag :=
  tagOr (if plain || address.isSome then .ofScalar text else .scalar .text) address

/-! ### Nodes -/

inductive Place where
  | flow
  | block
  /-- In a block mapping, where the items of a sequence need no indentation. -/
  | entry
  deriving DecidableEq, Repr, Inhabited

/-- Whether a token ends a pair, so that a node in front of it is left out. -/
def endsPair : Token → Bool
  | .key | .value | .blockEnd | .flowEntry | .flowSequenceEnd | .flowMappingEnd => true
  | _ => false

def endsItem (token : Token) : Bool := token = .blockEntry || endsPair token

/-- A node, or the empty one where a token ends what it is part of. -/
def orEmpty (ends : Token → Bool) (read : Parse Node) : Parse Node := do
  if ends (← peek) then return .empty else read

/-- The comma in front of an item, which the first one does not have. -/
def separator (first : Bool) : Parse Unit :=
  if first then return else expect .flowEntry

mutual

def node (handles : Handles) : (fuel : Nat) → Place → Parse Node
  | 0, _ => throw .malformed
  | fuel + 1, place => do
    match ← peek with
    | .alias name =>
      advance
      if (← get).anchors.contains name then return .alias name else throw .malformed
    | _ =>
      let (anchor, tag) ← properties handles
      note anchor
      let found ← content handles fuel place (anchor.isSome || tag.isSome) tag
      return anchor.elim found (.anchored · found)

/-- A node behind its anchor and tag, where it may be left out if it has one of them. -/
def content (handles : Handles) :
    (fuel : Nat) → Place → (marked : Bool) → (tag : Option Text) → Parse Node
  | 0, _, _, _ => throw .malformed
  | fuel + 1, place, marked, tag => do
    match ← peek with
    | .scalar plain text => advance; return .scalar (tagOfScalar plain tag text) text
    | .flowSequence =>
      advance
      return .sequence (tagOr .sequence tag) (← flowItems handles fuel true)
    | .flowMapping =>
      advance
      return .mapping (tagOr .mapping tag) (← flowEntries handles fuel true)
    | token =>
      if token = .blockSequence ∧ place ≠ .flow then
        advance
        return .sequence (tagOr .sequence tag) (← blockItems handles fuel)
      else if token = .blockMapping ∧ place ≠ .flow then
        advance
        return .mapping (tagOr .mapping tag) (← blockEntries handles fuel)
      else if token = .blockEntry ∧ place = .entry then
        return .sequence (tagOr .sequence tag) (← freeItems handles fuel)
      else if marked then return .scalar (tagOfScalar true tag []) []
      else throw .malformed

def blockItems (handles : Handles) : (fuel : Nat) → Parse (List Node)
  | 0 => throw .malformed
  | fuel + 1 => do
    match ← peek with
    | .blockEntry =>
      advance
      let item ← orEmpty endsItem (node handles fuel .block)
      return item :: (← blockItems handles fuel)
    | _ => expect .blockEnd; return []

/-- The items of a sequence in a block mapping without indentation. -/
def freeItems (handles : Handles) : (fuel : Nat) → Parse (List Node)
  | 0 => throw .malformed
  | fuel + 1 => do
    match ← peek with
    | .blockEntry =>
      advance
      let item ← orEmpty endsItem (node handles fuel .block)
      return item :: (← freeItems handles fuel)
    | _ => return []

/-- An entry of a mapping behind the mark of its key. -/
def pair (handles : Handles) : (fuel : Nat) → Place → Parse (Node × Node)
  | 0, _ => throw .malformed
  | fuel + 1, place => do
    let key ← orEmpty endsPair (node handles fuel place)
    match ← peek with
    | .value =>
      advance
      return (key, ← orEmpty endsPair (node handles fuel place))
    | _ => return (key, .empty)

def blockEntries (handles : Handles) : (fuel : Nat) → Parse (List (Node × Node))
  | 0 => throw .malformed
  | fuel + 1 => do
    match ← peek with
    | .key =>
      advance
      let entry ← pair handles fuel .entry
      return entry :: (← blockEntries handles fuel)
    | _ => expect .blockEnd; return []

/-- The items of a flow sequence. A pair in it is a mapping with one entry. -/
def flowItems (handles : Handles) : (fuel : Nat) → (first : Bool) → Parse (List Node)
  | 0, _ => throw .malformed
  | fuel + 1, first => do
    match ← peek with
    | .flowSequenceEnd => advance; return []
    | _ =>
      separator first
      match ← peek with
      | .flowSequenceEnd => advance; return []
      | .key =>
        advance
        let entry ← pair handles fuel .flow
        return .mapping .mapping [entry] :: (← flowItems handles fuel false)
      | _ =>
        let item ← node handles fuel .flow
        return item :: (← flowItems handles fuel false)

/-- The entries of a flow mapping. A node alone is a key. -/
def flowEntries (handles : Handles) : (fuel : Nat) → (first : Bool) → Parse (List (Node × Node))
  | 0, _ => throw .malformed
  | fuel + 1, first => do
    match ← peek with
    | .flowMappingEnd => advance; return []
    | _ =>
      separator first
      match ← peek with
      | .flowMappingEnd => advance; return []
      | .key =>
        advance
        let entry ← pair handles fuel .flow
        return entry :: (← flowEntries handles fuel false)
      | _ =>
        let key ← node handles fuel .flow
        return (key, .empty) :: (← flowEntries handles fuel false)

end

/-! ### Documents -/

/-- The handles that the directives here declare. Each is declared once, the version too, which must
be the first one of YAML. -/
def directives : (fuel : Nat) → (versioned : Bool) → Handles → Parse Handles
  | 0, _, _ => throw .malformed
  | fuel + 1, versioned, handles => do
    match ← peek with
    | .version major =>
      if versioned || major != 1 then throw .malformed
      else
        advance
        directives fuel true handles
    | .handle name start =>
      if (handles.lookup name).isSome then throw .malformed
      else
        advance
        directives fuel versioned ((name, start) :: handles)
    | .directive => advance; directives fuel versioned handles
    | _ => return handles

def start : Parse Handles := do
  let handles ← directives ((← get).tokens.length + 1) false []
  expect .documentStart
  return handles ++ Handles.standard

def skipEnds : Parse Unit :=
  modify fun p => { p with tokens := p.tokens.dropWhile (· = .documentEnd) }

/-- Whether a token stands in front of a document or behind it. -/
def isOutside : Token → Bool
  | .version _ | .handle .. | .directive | .documentStart | .documentEnd | .finish => true
  | _ => false

/-- The only document. -/
def document : Parse (Option Node) := do
  let fuel := 2 * (← get).tokens.length + 4
  match ← peek with
  | .finish => return none
  | token =>
    let found ←
      if token = .documentEnd || !isOutside token then node Handles.standard fuel .block
      else do
        let handles ← start
        if isOutside (← peek) then pure Node.empty else node handles fuel .block
    skipEnds
    match ← peek with
    | .finish => return some found
    | _ =>
      let _ ← start
      throw .malformed

end Parse

/-- The node of the document in a text; an empty text has none. -/
def Node.ofText (t : Text) : Except Fault (Option Node) :=
  (Parse.document.run { tokens := Token.ofText t }).map (·.1)

end RouteDoc.Yaml
