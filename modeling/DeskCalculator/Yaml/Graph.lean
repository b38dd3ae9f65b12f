import DeskCalculator.Yaml.Kind

/-!
# The graph of a document

A document's nodes refer to each other by number, since an alias can make a node part of several
nodes, and even of itself.

* `Node` — a scalar with its text, or a collection of the numbers of other nodes.
* `Graph` — nodes by number: `read`, `add` and `write`.
-/

namespace DeskCalculator.Yaml

/-- The number of a node. -/
abbrev NodeId := Nat

/-- The key and the value of an entry. -/
abbrev Entry := NodeId × NodeId

/-- What a node consists of. -/
inductive Content where
  | scalar (text : CodePoints)
  | sequence (items : List NodeId)
  | mapping (entries : List Entry)
deriving Repr

/-- A node: what it is said to be, and what it consists of. -/
structure Node where
  kind : Kind
  content : Content
deriving Repr

/-- The node that stands where nothing is written. -/
def Node.nothing : Node := ⟨.null, .scalar []⟩

/-- The nodes of a document by number. -/
structure Graph where
  nodes : Array Node := #[]
deriving Repr

namespace Graph

/-- The number of nodes. -/
def size (g : Graph) : Nat := g.nodes.size

/-- The node of a number. -/
def read (g : Graph) (id : NodeId) : Node := (g.nodes[id]?).getD .nothing

/-- Add a node, which gets the next number. -/
def add (g : Graph) (node : Node) : Graph := ⟨g.nodes.push node⟩

/-- Change the node of a number. -/
def write (g : Graph) (id : NodeId) (node : Node) : Graph := ⟨g.nodes.setIfInBounds id node⟩

/-- Change what a node consists of. -/
def setContent (g : Graph) (id : NodeId) (content : Content) : Graph :=
  g.write id { g.read id with content }

/-- Change what a node is said to be. -/
def setKind (g : Graph) (id : NodeId) (kind : Kind) : Graph :=
  g.write id { g.read id with kind }

end Graph

end DeskCalculator.Yaml
