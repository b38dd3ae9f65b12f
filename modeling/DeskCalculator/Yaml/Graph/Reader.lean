import DeskCalculator.Yaml.Graph
import DeskCalculator.Yaml.Token

/-!
# From the tokens of a document to its graph

A node may have a tag and a name; an alias stands for the node of its name.  A collection has its
name before its parts are read, so that they can refer to it.

* `GraphReader` — the tokens that are left and what is known so far.
* `readNode` and its companions — one node after the other.
* `Graph.ofTokens?` — the graph of the only document, and its root.
-/

namespace DeskCalculator.Yaml

/-! ## What is known so far -/

/-- The tokens that are left, and the nodes, names and handles that were met. -/
structure GraphReader where
  tokens : List Token
  graph : Graph := {}
  names : List (List Char × NodeId) := []
  handles : List (List Char × List Char) := [(['!'], ['!']), (['!', '!'], knownTagStart)]

/-- A step of the reading. -/
abbrev Reading (β : Type) := StateT GraphReader (Except Failure) β

namespace Reading

/-- Refuse a document. -/
def refuse {β : Type} : Reading β := throw .malformed

/-- Look at the next token; there is none at the end. -/
def peek? : Reading (Option Token) := do
  match (← get).tokens with
  | [] => return none
  | .broken e :: _ => throw e
  | t :: _ => return some t

/-- Go on to the token after the next one. -/
def advance : Reading Unit := modify fun r => { r with tokens := r.tokens.drop 1 }

/-- Go on if the next token is a given one, and say whether it was. -/
def skip? (t : Token) : Reading Bool := do
  if (← peek?) == some t then
    advance
    return true
  else return false

/-- Go on over a token that has to come next. -/
def expect (t : Token) : Reading Unit := do
  if !(← skip? t) then refuse

/-- Whether the next token is one of some. -/
def isNext (ts : List Token) : Reading Bool := return (← peek?).any ts.contains

/-! ## Nodes -/

/-- Add a node, under the name that is written before it.  No two nodes have one name. -/
def addNode (name? : Option (List Char)) (node : Node) : Reading NodeId := do
  let r ← get
  if name?.any fun name => r.names.any (·.1 == name) then refuse
  else
    let id := r.graph.size
    set { r with
      graph := r.graph.add node
      names := name?.toList.map (fun name => (name, id)) ++ r.names }
    return id

/-- Add the node that stands where nothing is written. -/
def addNothing : Reading NodeId := addNode none .nothing

/-- Note what a collection consists of. -/
def fill (id : NodeId) (content : Content) : Reading NodeId := do
  modify fun r => { r with graph := r.graph.setContent id content }
  return id

/-- The node that an alias stands for. -/
def nodeNamed (name : List Char) : Reading NodeId := do
  match (← get).names.find? (·.1 == name) with
  | some (_, id) => return id
  | none => refuse

/-! ## Tags and names -/

/-- The whole tag that is written with a handle. -/
def expand (t : TagText) : Reading (List Char) := do
  match t.handle? with
  | none => return t.suffix
  | some handle =>
    match (← get).handles.find? (·.1 == handle) with
    | some (_, start) => return start ++ t.suffix
    | none => refuse

/-- A tag that comes next. -/
def readTag? : Reading (Option TagText) := do
  match ← peek? with
  | some (.tag t) =>
    advance
    return some t
  | _ => return none

/-- A name that comes next. -/
def readName? : Reading (Option (List Char)) := do
  match ← peek? with
  | some (.anchor name) =>
    advance
    return some name
  | _ => return none

end Reading

/-- The tag and the name in front of a node. -/
structure Properties where
  tag? : Option (List Char) := none
  name? : Option (List Char) := none

namespace Properties

open Reading

/-- Read the tag and the name in front of a node, in either order. -/
def read : Reading Properties := do
  let (tag?, name?) ← match ← readName? with
    | some name => pure (← readTag?, some name)
    | none =>
      match ← readTag? with
      | some t => pure (some t, ← readName?)
      | none => pure (none, none)
  return { tag? := ← tag?.mapM expand, name? }

/-- The tag that says something.  A lone exclamation mark says nothing of its own. -/
def spokenTag? (p : Properties) : Option (List Char) := p.tag?.filter (· != ['!'])

/-- The kind of a collection. -/
def collectionKind (p : Properties) (natural : Kind) : Kind :=
  (p.spokenTag?.map Kind.ofTag).getD natural

/-- The kind of a scalar.  Its form counts if it is plain and has no tag, or a lone exclamation
mark. -/
def scalarKind (p : Properties) (plain : Bool) (text : CodePoints) : Kind :=
  match p.spokenTag? with
  | some tag => .ofTag tag
  | none => if plain || p.tag?.isSome then .ofText text else .text

/-- Add the node of a scalar. -/
def addScalar (p : Properties) (plain : Bool) (text : CodePoints) : Reading NodeId :=
  addNode p.name? ⟨p.scalarKind plain text, .scalar text⟩

/-- Begin a sequence. -/
def beginSequence (p : Properties) : Reading NodeId :=
  addNode p.name? ⟨p.collectionKind .sequence, .sequence []⟩

/-- Begin a mapping. -/
def beginMapping (p : Properties) : Reading NodeId :=
  addNode p.name? ⟨p.collectionKind .mapping, .mapping []⟩

/-- Add the empty scalar that a tag or a name stands before. -/
def addEmpty (p : Properties) : Reading NodeId :=
  if p.tag?.isSome || p.name?.isSome then p.addScalar true [] else refuse

end Properties

/-! ## Reading nodes -/

open Reading

mutual

/-- Read a node.  `block` says whether it may be a block, `dashes` whether it may be a sequence
whose dashes stand at the column of the keys around it. -/
def readNode (block dashes : Bool) : Nat → Reading NodeId
  | 0 => refuse
  | fuel + 1 => do
    match ← peek? with
    | some (.alias name) =>
      advance
      nodeNamed name
    | _ =>
      let p ← Properties.read
      match ← peek? with
      | some (.scalar plain text) =>
        advance
        p.addScalar plain text
      | some .flowSequenceStart =>
        let id ← p.beginSequence
        advance
        fill id (.sequence (← readFlowItems true fuel))
      | some .flowMappingStart =>
        let id ← p.beginMapping
        advance
        fill id (.mapping (← readFlowEntries true fuel))
      | some .blockSequenceStart =>
        if block then
          let id ← p.beginSequence
          advance
          let items ← readItems [.blockEntry, .blockEnd] fuel
          expect .blockEnd
          fill id (.sequence items)
        else p.addEmpty
      | some .blockMappingStart =>
        if block then
          let id ← p.beginMapping
          advance
          let entries ← readBlockEntries fuel
          expect .blockEnd
          fill id (.mapping entries)
        else p.addEmpty
      | some .blockEntry =>
        if dashes then
          let id ← p.beginSequence
          fill id (.sequence (← readItems [.blockEntry, .key, .value, .blockEnd] fuel))
        else p.addEmpty
      | _ => p.addEmpty

/-- A node that may be missing: it is, if one of some tokens comes next. -/
def readPart (block dashes : Bool) (ends : List Token) : Nat → Reading NodeId
  | 0 => refuse
  | fuel + 1 => do if ← isNext ends then addNothing else readNode block dashes fuel

/-- The items of a block sequence, each after a dash. -/
def readItems (ends : List Token) : Nat → Reading (List NodeId)
  | 0 => refuse
  | fuel + 1 => do
    if ← skip? .blockEntry then
      let item ← readPart true false ends fuel
      return item :: (← readItems ends fuel)
    else return []

/-- The entries of a block mapping. -/
def readBlockEntries : Nat → Reading (List Entry)
  | 0 => refuse
  | fuel + 1 => do
    if ← skip? .key then
      let ends : List Token := [.key, .value, .blockEnd]
      let entry ← readEntry true ends ends fuel
      return entry :: (← readBlockEntries fuel)
    else return []

/-- The key of an entry, and its value if a colon comes.  The tokens given end a missing key and a
missing value. -/
def readEntry (block : Bool) (keyEnds valueEnds : List Token) : Nat → Reading Entry
  | 0 => refuse
  | fuel + 1 => do
    let key ← readPart block block keyEnds fuel
    let value ← if ← skip? .value then readPart block block valueEnds fuel else addNothing
    return (key, value)

/-- The items of a sequence between brackets, to the closing one.  A key makes the item a mapping
of one entry. -/
def readFlowItems (first : Bool) : Nat → Reading (List NodeId)
  | 0 => refuse
  | fuel + 1 => do
    if ← skip? .flowSequenceEnd then return []
    else
      if !first then expect .flowEntry
      if ← skip? .flowSequenceEnd then return []
      else
        let item ← if ← skip? .key then
            let entry ← readEntry false [.value, .flowEntry, .flowSequenceEnd]
              [.flowEntry, .flowSequenceEnd] fuel
            addNode none ⟨.mapping, .mapping [entry]⟩
          else readNode false false fuel
        return item :: (← readFlowItems false fuel)

/-- The entries of a mapping between brackets, to the closing one. -/
def readFlowEntries (first : Bool) : Nat → Reading (List Entry)
  | 0 => refuse
  | fuel + 1 => do
    if ← skip? .flowMappingEnd then return []
    else
      if !first then expect .flowEntry
      if ← skip? .flowMappingEnd then return []
      else
        let entry ← if ← skip? .key then
            readEntry false [.value, .flowEntry, .flowMappingEnd]
              [.flowEntry, .flowMappingEnd] fuel
          else do
            let key ← readNode false false fuel
            pure (key, ← addNothing)
        return entry :: (← readFlowEntries false fuel)

end

/-! ## Documents -/

/-- Take in the directives in front of a document. -/
def readDirectives (versioned : Bool) (known : List (List Char)) : Nat → Reading Unit
  | 0 => refuse
  | fuel + 1 => do
    match ← peek? with
    | some (.directive d) =>
      advance
      match d with
      | .version major =>
        if versioned || major != 1 then refuse else readDirectives true known fuel
      | .tag handle start =>
        if known.contains handle then refuse
        else
          modify fun r => { r with handles := (handle, start) :: r.handles }
          readDirectives versioned (handle :: known) fuel
      | .other => readDirectives versioned known fuel
    | _ => return ()

/-- Skip the lines that end a document. -/
def skipEnds : Nat → Reading Unit
  | 0 => refuse
  | fuel + 1 => do if ← skip? .documentEnd then skipEnds fuel

/-- Check that nothing follows a document. -/
def readEnd (fuel : Nat) : Reading Unit := do
  skipEnds fuel
  if (← peek?).isSome then
    readDirectives false [] fuel
    let _ ← peek?
    refuse

/-- The node of a document that begins with a line of its own, if there is a document. -/
def readExplicit (fuel : Nat) : Reading (Option NodeId) := do
  skipEnds fuel
  if (← peek?).isNone then return none
  else
    readDirectives false [] fuel
    expect .documentStart
    match ← peek? with
    | none | some (.directive _) | some .documentStart | some .documentEnd =>
      return some (← addNothing)
    | _ => return some (← readNode true false fuel)

/-- The node of the only document. -/
def readDocument (fuel : Nat) : Reading (Option NodeId) := do
  let root? ← match ← peek? with
    | none | some (.directive _) | some .documentStart => readExplicit fuel
    | _ => some <$> readNode true false fuel
  readEnd fuel
  return root?

/-- The graph of the only document that some tokens make, and its root; there is no root if they
make none.  Every third step of the recursion takes a token at least, so four times their number
bounds it. -/
def Graph.ofTokens? (tokens : List Token) : Except Failure (Graph × Option NodeId) := do
  let (root?, r) ← (readDocument (4 * tokens.length + 4)).run { tokens }
  .ok (r.graph, root?)

end DeskCalculator.Yaml
