import RouteDoc.Yaml.Atom
import RouteDoc.Yaml.Node.Reader

/-! The data of a YAML document, as the safe loader of PyYAML makes them. Aliases stand for the
nodes with their anchors, and entries may be merged from one mapping into another. -/

namespace RouteDoc.Yaml

namespace Node

/-! ### Anchors -/

mutual

/-- A node and all nodes in it. -/
def all : Node → List Node
  | .sequence tag items => .sequence tag items :: allOfItems items
  | .mapping tag entries => .mapping tag entries :: allOfEntries entries
  | .anchored name node => .anchored name node :: all node
  | node => [node]

def allOfItems : List Node → List Node
  | [] => []
  | item :: more => all item ++ allOfItems more

def allOfEntries : List (Node × Node) → List Node
  | [] => []
  | (key, value) :: more => all key ++ all value ++ allOfEntries more

end

/-- The name that a node has as an anchor or an alias. -/
def name? : Node → Option Text
  | .anchored name _ | .alias name => some name
  | _ => none

end Node

/-- The nodes of a document that have anchors, and how many nodes there are in all. -/
structure Graph where
  anchors : List (Text × Node)
  size : Nat
  deriving Repr

namespace Graph

def ofNode (root : Node) : Graph where
  anchors := root.all.filterMap fun node =>
    match node with
    | .anchored name node => some (name, node)
    | _ => none
  size := root.all.length

/-- The node that stands behind a name, or the node itself if it has none. -/
def target (g : Graph) : Node → Node
  | .alias name => (g.anchors.lookup name).getD .empty
  | .anchored _ node => node
  | node => node

def tag (g : Graph) (node : Node) : NodeTag :=
  match g.target node with
  | .scalar tag _ | .sequence tag _ | .mapping tag _ => tag
  | _ => .unknown

/-! ### Scalars -/

/-- The text of a node that is to be a scalar. A mapping has that of its value sign. -/
def text? (g : Graph) : (fuel : Nat) → Node → Option Text
  | 0, _ => none
  | fuel + 1, node =>
    match g.target node with
    | .scalar _ text => some text
    | .mapping _ entries =>
      match entries.find? fun entry => g.tag entry.1 = .scalar .value with
      | some entry => text? g fuel entry.2
      | none => none
    | _ => none

def text (g : Graph) (node : Node) : Except Fault Text :=
  match g.text? (g.size + 1) node with
  | some text => .ok text
  | none => .error .malformed

/-- The value of a node that has no parts, and nothing for a collection. -/
def atom? (g : Graph) (node : Node) : Except Fault (Option Atom) :=
  match g.tag node with
  | .scalar kind => do return some (← Atom.ofScalar kind (← g.text node))
  | .binary => do return some (← Atom.ofBinary (← g.text node))
  | .sequence | .mapping | .set | .pairs => .ok none
  | .unknown => .error .malformed

/-- The value of a node that is a key. The value sign is a text there, and no collection is a key.
-/
def key (g : Graph) (node : Node) : Except Fault Atom := do
  if g.tag node = .scalar .value then return .text (← g.text node)
  else
    match ← g.atom? node with
    | some atom => return atom
    | none => .error .malformed

/-! ### Collections -/

/-- The entries of a mapping behind those that are merged into it. What is merged into itself adds
nothing to its own. -/
def entries (g : Graph) : (fuel : Nat) → (around : List Text) → Node →
    Except Fault (List (Node × Node))
  | 0, _, _ => .error .malformed
  | fuel + 1, around, node =>
    match g.target node with
    | .mapping _ found =>
      let isMerge (entry : Node × Node) : Bool := g.tag entry.1 = .scalar .merge
      let own := found.filter (!isMerge ·)
      if node.name?.any around.contains then .ok own
      else do
        let around := node.name?.toList ++ around
        let merged ← (found.filter isMerge).mapM fun (_, value) =>
          match g.target value with
          | .sequence _ items =>
            let inner := value.name?.toList ++ around
            if value.name?.any around.contains then .ok []
            else do
              -- Of several mappings the first counts most, so its entries come last.
              return (← items.mapM fun item => entries g fuel inner item).reverse.flatten
          | _ => entries g fuel around value
        return merged.flatten ++ own
    | _ => .error .malformed

/-- The entries of a node that must be a mapping. -/
def entriesOf (g : Graph) (node : Node) : Except Fault (List (Node × Node)) :=
  g.entries ((g.anchors.length + 1) * (g.size + 1)) [] node

/-- The items of a node that must be a sequence. -/
def itemsOf (g : Graph) (node : Node) : Except Fault (List Node) :=
  match g.target node with
  | .sequence _ items => .ok items
  | _ => .error .malformed

/-- The entry of a node that must be a mapping with one. -/
def pairOf (g : Graph) (node : Node) : Except Fault (Node × Node) :=
  match g.target node with
  | .mapping _ [entry] => .ok entry
  | _ => .error .malformed

/-! ### Faults -/

/-- Look at a node: a fault of its own, or the node if its parts are to be looked at later. -/
def look (g : Graph) (node : Node) : Except Fault (List Node) := do
  match ← g.atom? node with
  | some _ => return []
  | none => return [node]

/-- Look at the parts of a collection, and give those that are collections themselves. -/
def lookInto (g : Graph) (node : Node) : Except Fault (List Node) := do
  match g.tag node with
  | .sequence => return (← (← g.itemsOf node).mapM g.look).flatten
  | .pairs =>
    return (← (← g.itemsOf node).mapM fun item => do
      let (key, value) ← g.pairOf item
      return (← g.look key) ++ (← g.look value)).flatten
  | _ =>
    return (← (← g.entriesOf node).mapM fun (key, value) => do
      -- A key is looked at as a whole, as no collection is one.
      let _ ← g.key key
      g.look value).flatten

/-- The nodes whose names have not been seen, and the names seen then. -/
def fresh (seen : List Text) : List Node → List Node × List Text
  | [] => ([], seen)
  | node :: more =>
    match node.name? with
    | none =>
      let (nodes, seen) := fresh seen more
      (node :: nodes, seen)
    | some name =>
      if seen.contains name then fresh seen more
      else
        let (nodes, seen) := fresh (name :: seen) more
        (node :: nodes, seen)

/-- The first fault in some collections: those are looked at in order, then the collections in them.
What has a name is looked at once. -/
def check (g : Graph) : (fuel : Nat) → (seen : List Text) → List Node → Except Fault Unit
  | 0, _, _ => .ok ()
  | fuel + 1, seen, nodes => do
    if nodes.isEmpty then return
    else
      let found ← nodes.mapM g.lookInto
      let (nodes, seen) := fresh seen found.flatten
      check g fuel seen nodes

/-! ### Data -/

/-- The entries of a mapping with one for each key: the last value of a key stands where the key
stands first. -/
def distinct {α : Type} (found : List (Atom × α)) : List (Atom × α) :=
  found.foldl (fun before (key, value) =>
    if before.any (·.1.isSame key) then
      before.map fun entry => if entry.1.isSame key then (entry.1, value) else entry
    else before ++ [(key, value)]) []

/-- The entries of a mapping by the values of their keys. -/
def keyed (g : Graph) (node : Node) : List (Atom × Node) :=
  match g.entriesOf node with
  | .error _ => []
  | .ok found => distinct <| found.filterMap fun (key, value) =>
    (g.key key).toOption.map fun atom => (atom, value)

/-- A node without faults as data, down to a depth. -/
def toData (g : Graph) : (depth : Nat) → Node → Data
  | 0, _ => .null
  | depth + 1, node =>
    match g.tag node with
    | .sequence =>
      .list (((g.itemsOf node).toOption.getD []).map (toData g depth))
    | .pairs =>
      .list <| ((g.itemsOf node).toOption.getD []).filterMap fun item =>
        (g.pairOf item).toOption.map fun (key, value) =>
          .tuple [toData g depth key, toData g depth value]
    | .set => .set ((g.keyed node).map (·.1.toData))
    | .mapping =>
      .mapping ((g.keyed node).map fun (key, value) => (key.toData, toData g depth value))
    | _ => ((g.atom? node).toOption.join.map Atom.toData).getD .null

end Graph

/-- The data of a text, down to a depth; an empty text is null. Faults are found at every depth. -/
def load (depth : Nat) (t : Text) : Except Fault Data := do
  match ← Node.ofText t with
  | none => return .null
  | some root =>
    let g := Graph.ofNode root
    -- Faults are looked for first, so that the data need only be formed where there are none.
    let (nodes, seen) := Graph.fresh [] (← g.look root)
    g.check (g.size + 1) seen nodes
    return g.toData depth root

end RouteDoc.Yaml
