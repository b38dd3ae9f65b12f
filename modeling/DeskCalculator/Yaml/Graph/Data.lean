import DeskCalculator.Yaml.Graph.Merge
import DeskCalculator.Yaml.Scalar

/-!
# From the graph of a document to its data

A scalar has its value at once; a collection is begun when it is met, and filled later: first what
was met first.  So a collection can be part of itself, and of two failures the one that lies less
deep comes first.

* `Assembly` — the graph, the collections that wait, and those that are filled.
* `construct` and `fillAll` — the work.
* `Assembly.view` — the data of a node, down to some depth.
-/

namespace DeskCalculator.Yaml

/-! ## What is put together -/

/-- What a node has become. -/
inductive Item where
  | value (d : Datum)
  /-- The collection of a node, which may still have to be filled. -/
  | collection (id : NodeId)

/-- What a collection is filled with. -/
inductive Filling where
  | list (items : List Item)
  | pairs (entries : List (Item × Item))
  | set (members : List Datum)
  /-- The last value of a key, in the place of the first. -/
  | mapping (entries : List (Datum × Item))

/-- How far a collection is. -/
inductive Progress where
  | untouched
  | begun
  | filled (f : Filling)

/-- A document's data in the making. -/
structure Assembly where
  graph : Graph
  /-- How far the collection of each node is. -/
  progress : Array Progress
  /-- The collections that wait, the last one first. -/
  waiting : List NodeId := []

/-- A step of the work. -/
abbrev Assembling (β : Type) := StateT Assembly (Except Failure) β

namespace Assembling

/-! ## Single nodes -/

/-- The text of a scalar.  A mapping may have a key that stands for its value; the argument bounds
the number of mappings in each other. -/
def textOf (g : Graph) : Nat → NodeId → Except Failure CodePoints
  | 0, _ => .error .malformed
  | fuel + 1, id =>
    match (g.read id).content with
    | .scalar text => .ok text
    | .sequence _ => .error .malformed
    | .mapping entries =>
      match entries.find? fun e => (g.read e.1).kind == .valueKey with
      | some (_, value) => textOf g fuel value
      | none => .error .malformed

/-- The value of a node that is said to be a scalar. -/
def valueOf (g : Graph) (id : NodeId) : Except Failure Datum := do
  let kind := (g.read id).kind
  let text ← textOf g (g.size + 1) id
  if kind == .date && g.isMapping id then .error (.badScalar .notAText) else kind.value text

/-- Begin the collection of a node, unless that was done before. -/
def beginCollection (id : NodeId) : Assembling Unit :=
  modify fun a =>
    match a.progress[id]? with
    | some .untouched =>
      { a with progress := a.progress.setIfInBounds id .begun, waiting := id :: a.waiting }
    | _ => a

/-- What a node becomes. -/
def construct (id : NodeId) : Assembling Item := do
  let g := (← get).graph
  match (g.read id).kind with
  | .sequence | .mapping | .set | .pairs =>
    beginCollection id
    return .collection id
  | _ => return .value (← valueOf g id)

/-! ## Collections -/

/-- What a node becomes as a key.  A collection cannot be one. -/
def constructKey (id : NodeId) : Assembling Datum := do
  match ← construct id with
  | .value d => return d
  | .collection _ => throw .malformed

/-- What the entries of a mapping become. -/
def constructEntries (found : List (Datum × Item)) :
    List Entry → Assembling (List (Datum × Item))
  | [] => return found
  | (key, value) :: rest => do
    let key ← constructKey key
    let value ← construct value
    constructEntries (Datum.put found key value) rest

/-- The entries of a node that is said to be a mapping, with those that it merges. -/
def mappingEntries (id : NodeId) : Assembling (List (Datum × Item)) := do
  let a ← get
  if a.graph.isMapping id then
    let g ← a.graph.flatten id
    set { a with graph := g }
    constructEntries [] (g.entries id)
  else throw .malformed

/-- The items of a node that is said to be a sequence. -/
def sequenceItems (id : NodeId) : Assembling (List NodeId) := do
  match ((← get).graph.read id).content with
  | .sequence items => return items
  | _ => throw .malformed

/-- What a mapping of one entry becomes. -/
def constructPair (id : NodeId) : Assembling (Item × Item) := do
  match ((← get).graph.read id).content with
  | .mapping [(key, value)] => return (← construct key, ← construct value)
  | _ => throw .malformed

/-- What the collection of a node is filled with. -/
def fillingOf (id : NodeId) : Assembling Filling := do
  match ((← get).graph.read id).kind with
  | .mapping => return .mapping (← mappingEntries id)
  | .set => return .set ((← mappingEntries id).map (·.1))
  | .pairs => return .pairs (← (← sequenceItems id).mapM constructPair)
  | _ => return .list (← (← sequenceItems id).mapM construct)

/-- Fill the collection of a node. -/
def fill (id : NodeId) : Assembling Unit := do
  let f ← fillingOf id
  modify fun a => { a with progress := a.progress.setIfInBounds id (.filled f) }

/-- Take the collections that wait, the first one first. -/
def takeWaiting : Assembling (List NodeId) := do
  let a ← get
  set { a with waiting := [] }
  return a.waiting.reverse

/-- Fill all collections that wait, and then those that were met in them, and so on.  A collection
waits only once, so the number of nodes bounds the number of rounds. -/
def fillAll : Nat → Assembling Unit
  | 0 => return ()
  | fuel + 1 => do
    match ← takeWaiting with
    | [] => return ()
    | ids =>
      ids.forM fill
      fillAll fuel

end Assembling

/-! ## Data -/

namespace Assembly

/-- The work that begins with a graph. -/
def ofGraph (g : Graph) : Assembly :=
  { graph := g, progress := Array.replicate g.size .untouched }

/-- What the collection of a node was filled with. -/
def filling (a : Assembly) (id : NodeId) : Filling :=
  match a.progress[id]? with
  | some (.filled f) => f
  | _ => .list []

/-- The data of a node.  The argument says how deep collections are shown; those that lie deeper
are shown as if they were empty. -/
def view (a : Assembly) : Nat → Item → Datum
  | _, .value d => d
  | 0, .collection id =>
    match a.filling id with
    | .list _ | .pairs _ => .list []
    | .set _ => .set []
    | .mapping _ => .mapping []
  | depth + 1, .collection id =>
    match a.filling id with
    | .list items => .list (items.map (a.view depth))
    | .pairs entries => .list (entries.map fun e => .pair (a.view depth e.1) (a.view depth e.2))
    | .set members => .set members
    | .mapping entries => .mapping (entries.map fun e => (e.1, a.view depth e.2))

end Assembly

/-- The data of a node of a graph, down to some depth. -/
def Graph.data (g : Graph) (depth : Nat) (root : NodeId) : Except Failure Datum := do
  let work : Assembling Item := do
    let item ← Assembling.construct root
    Assembling.fillAll (g.size + 1)
    return item
  let (item, a) ← work.run (.ofGraph g)
  .ok (a.view depth item)

end DeskCalculator.Yaml
