import DeskCalculator.Yaml.Failure
import DeskCalculator.Yaml.Graph

/-!
# Merging mappings

A mapping takes in the entries of those that it merges, before its own.  The mapping is changed in
the graph, once and for all its places; what it merges is changed first, and may be the mapping
itself.

* `Graph.flatten` — a mapping without keys that merge.
-/

namespace DeskCalculator.Yaml

namespace Graph

/-- The entries of a mapping. -/
def entries (g : Graph) (id : NodeId) : List Entry :=
  match (g.read id).content with
  | .mapping entries => entries
  | _ => []

/-- Whether a node is a mapping by what it consists of. -/
def isMapping (g : Graph) (id : NodeId) : Bool :=
  match (g.read id).content with
  | .mapping _ => true
  | _ => false

/-- The number of entries in all nodes, which bounds the number of merges. -/
def entryCount (g : Graph) : Nat :=
  g.nodes.foldl (fun n node =>
    match node.content with
    | .mapping entries => n + entries.length
    | _ => n) 0

/-- Take an entry out of a mapping. -/
def dropEntry (g : Graph) (id : NodeId) (index : Nat) : Graph :=
  g.setContent id (.mapping ((g.entries id).eraseIdx index))

/-- The nodes that are merged as the value of a key: the items of a sequence, or the value. -/
def mergedBy (g : Graph) (value : NodeId) : List NodeId :=
  match (g.read value).content with
  | .sequence items => items
  | _ => [value]

mutual

/-- Merge what a mapping merges.  Each merge takes an entry away, and `merges` bounds their
number. -/
def flattenWithin (merges : Nat) (g : Graph) (id : NodeId) : Except Failure Graph :=
  flattenFrom merges g id 0 [] ((g.entries id).length + 1)
termination_by (merges, 1, 0)

/-- Go on at one of the entries.  `taken` are those that were taken in so far; `steps` bounds the
number of entries that are left. -/
def flattenFrom (merges : Nat) (g : Graph) (id : NodeId) (index : Nat) (taken : List Entry)
    (steps : Nat) : Except Failure Graph :=
  match steps with
  | 0 => .error .malformed
  | steps + 1 =>
    match (g.entries id)[index]? with
    | none => .ok (g.setContent id (.mapping (taken ++ g.entries id)))
    | some (key, value) =>
      match (g.read key).kind with
      | .mergeKey =>
        match merges with
        | 0 => .error .malformed
        | merges + 1 => do
          let g := g.dropEntry id index
          let (g, given) ← flattenAll merges g (g.mergedBy value)
          flattenFrom merges g id index (taken ++ given) ((g.entries id).length + 1)
      | .valueKey => flattenFrom merges (g.setKind key .text) id (index + 1) taken steps
      | _ => flattenFrom merges g id (index + 1) taken steps
termination_by (merges, 0, steps)

/-- The entries that mappings give to the one that merges them.  The later mappings' come first. -/
def flattenAll (merges : Nat) (g : Graph) (ids : List NodeId) :
    Except Failure (Graph × List Entry) :=
  match ids with
  | [] => .ok (g, [])
  | id :: rest =>
    if g.isMapping id then do
      let g ← flattenWithin merges g id
      let own := g.entries id
      let (g, later) ← flattenAll merges g rest
      .ok (g, later ++ own)
    else .error .malformed
termination_by (merges, 2, ids.length)

end

/-- Merge what a mapping merges. -/
def flatten (g : Graph) (id : NodeId) : Except Failure Graph := g.flattenWithin g.entryCount id

end Graph

end DeskCalculator.Yaml
