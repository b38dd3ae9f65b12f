import DeskCalculator.FilePath

/-!
# A tree of files

The files that a run can see, as a value: their places and contents, and the directories that
were made.  Each operation says what stands in its way.

* `FileTree.placeOf` — where a path leads.
* `FileTree.read?`, `write`, `remove` — the files.
* `FileTree.openForWriting` — a file with all the directories on the way to it.
-/

namespace DeskCalculator

/-- Why an operation on files is refused. -/
inductive FileFailure where
  /-- There is nothing at a name on the way. -/
  | missing
  /-- There is a file where a directory is to be made. -/
  | alreadyExists
  /-- A name on the way is that of a file. -/
  | notADirectory
  /-- There is a directory where a file is to be opened. -/
  | isADirectory
  /-- A name or a path has too many bytes. -/
  | tooLong
  /-- A path has the null character in it, so that it is none. -/
  | nullInPath
  /-- A name has a surrogate in it that stands for no byte. -/
  | notEncodable
deriving Repr, DecidableEq

/-- Whether the failure lies in the path alone, so that the system is not asked. -/
def FileFailure.isOfPath : FileFailure → Bool
  | .nullInPath | .notEncodable => true
  | _ => false

/-! ## Sizes -/

/-- The number of bytes that a character takes in a file. -/
def byteSize (c : Char) : Nat := c.utf8Size

/-- The number of bytes that a text takes in a file. -/
def textBytes : List Char → Nat
  | [] => 0
  | c :: rest => byteSize c + textBytes rest

/-- The most bytes that a name may have. -/
def maxNameBytes : Nat := 255

/-- The most bytes that a path may have. -/
def maxPathBytes : Nat := 4095

/-! ## Places -/

/-- The place of a file or directory: the names that lead to it from the working directory.  The
root directory has its slash for a name. -/
abbrev Place := List (List Char)

namespace Place

/-- The place where a path begins. -/
def origin (p : FilePath) : Place := if p.root.isEmpty then [] else [['/']]

/-- Whether a place is the working directory or lies above it. -/
def isAbove (place : Place) : Bool := place.all (· == FilePath.backName)

/-- The place of the directory that holds another one.  The root directory holds itself. -/
def up (place : Place) : Place :=
  if place.isAbove then place ++ [FilePath.backName]
  else if place == [['/']] then place
  else place.dropLast

/-- Whether a place lies strictly below another one. -/
def isBelow (place ancestor : Place) : Bool := ancestor.isPrefixOf place && place != ancestor

end Place

/-! ## Trees -/

/-- Files with their contents, and directories that were made. -/
structure FileTree where
  files : List (Place × List Char) := []
  made : List Place := []
deriving Repr

namespace FileTree

/-- The content of a file. -/
def read? (tree : FileTree) (place : Place) : Option (List Char) :=
  (tree.files.find? (·.1 == place)).map (·.2)

/-- Whether there is a file at a place. -/
def isFile (tree : FileTree) (place : Place) : Bool := (tree.read? place).isSome

/-- Whether there is a directory at a place: one that is there anyway, one that was made, or one
that has something below it. -/
def isDirectory (tree : FileTree) (place : Place) : Bool :=
  place.isAbove || place == [['/']] || tree.made.contains place
    || (tree.files.any fun f => f.1.isBelow place) || (tree.made.any fun d => d.isBelow place)

/-- Follow names from a place.  Each name is looked up in a directory. -/
def follow (tree : FileTree) (place : Place) : List (List Char) → Except FileFailure Place
  | [] => .ok place
  | name :: rest =>
    if !tree.isDirectory place then
      .error (if tree.isFile place then .notADirectory else .missing)
    else if maxNameBytes < textBytes name then .error .tooLong
    else tree.follow (if name = FilePath.backName then place.up else place ++ [name]) rest

/-- The place that a path leads to, whether there is something or not. -/
def placeOf (tree : FileTree) (p : FilePath) : Except FileFailure Place :=
  match p.systemNames? with
  | none => .error .notEncodable
  | some names =>
    if p.hasNull then .error .nullInPath
    else if maxPathBytes < textBytes (p.systemText names) then .error .tooLong
    else tree.follow (Place.origin p) names

/-- Whether a path leads to a directory. -/
def leadsToDirectory (tree : FileTree) (p : FilePath) : Bool :=
  match tree.placeOf p with
  | .ok place => tree.isDirectory place
  | .error _ => false

/-! ## Changes -/

/-- Give a file a content.  A new file comes last. -/
def write (tree : FileTree) (place : Place) (content : List Char) : FileTree :=
  if tree.isFile place then
    { tree with files := tree.files.map fun f => if f.1 == place then (place, content) else f }
  else { tree with files := tree.files ++ [(place, content)] }

/-- Take a file away. -/
def remove (tree : FileTree) (place : Place) : FileTree :=
  { tree with files := tree.files.filter fun f => f.1 != place }

/-- Make the directory of a path in one that is there. -/
def makeDirectory (tree : FileTree) (p : FilePath) : Except FileFailure FileTree := do
  let place ← tree.placeOf p
  if tree.isFile place || tree.isDirectory place then .error .alreadyExists
  else .ok { tree with made := tree.made ++ [place] }

/-- Make the directory of a path unless it is there. -/
def ensureDirectory (tree : FileTree) (p : FilePath) : FileTree × Except FileFailure Unit :=
  match tree.makeDirectory p with
  | .ok tree => (tree, .ok ())
  | .error e => (tree, if tree.leadsToDirectory p then .ok () else .error e)

/-- Make the directory of a path and those that are missing on the way.  The last name comes
first.  What was made before a failure stays. -/
def makeWay (tree : FileTree) (root : List Char) :
    List CodePoints → FileTree × Except FileFailure Unit
  | [] => tree.ensureDirectory ⟨root, []⟩
  | name :: before =>
    let p : FilePath := ⟨root, (name :: before).reverse⟩
    match tree.ensureDirectory p with
    | (tree, .error .missing) =>
      match tree.makeWay root before with
      | (tree, .ok ()) => tree.ensureDirectory p
      | failed => failed
    | made => made

/-- Open a file for writing: empty it, or leave its content in front. -/
def openInPlace (tree : FileTree) (p : FilePath) (truncate : Bool) :
    Except FileFailure (Place × FileTree) := do
  let place ← tree.placeOf p
  if tree.isDirectory place then .error .isADirectory
  else .ok (place, tree.write place (if truncate then [] else (tree.read? place).getD []))

/-- Open a file for writing; the directories on the way are made.  The tree afterwards is given
also when the file cannot be opened. -/
def openForWriting (tree : FileTree) (p : FilePath) (truncate : Bool) :
    FileTree × Except FileFailure Place :=
  match tree.makeWay p.root p.way.reverse with
  | (tree, .error e) => (tree, .error e)
  | (tree, .ok ()) =>
    match tree.openInPlace p truncate with
    | .ok (place, tree) => (tree, .ok place)
    | .error e => (tree, .error e)

/-! ## Writing in place -/

/-- The characters that lie within the first `n` bytes. -/
def takeBytes (n : Nat) : List Char → List Char
  | [] => []
  | c :: rest => if byteSize c ≤ n then c :: takeBytes (n - byteSize c) rest else []

/-- The characters that begin after the first `n` bytes. -/
def dropBytes (n : Nat) : List Char → List Char
  | [] => []
  | c :: rest => if n = 0 then c :: rest else dropBytes (n - byteSize c) rest

/-- Write a text over what is in a file from a byte on. -/
def overwrite (content : List Char) (start : Nat) (text : List Char) : List Char :=
  takeBytes start content ++ text ++ dropBytes (start + textBytes text) content

end FileTree

end DeskCalculator
