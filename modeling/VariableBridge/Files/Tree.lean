import VariableBridge.Files.Path

/-!
# The tree of files

Directories and files with their access modes. The root, the working directory
and the directories above it always exist. A way leads to a place only through
directories, also where two dots lead back from them. A file that exists keeps
its mode when it is written. Nodes have no owners: all of them belong to the user,
so that a mode is never an obstacle and can always be set.
-/

namespace VariableBridge.Files

/-- What lies at a place. -/
inductive Node where
  /-- A directory. -/
  | directory (mode : Nat)
  /-- A file; its bytes may be no text. -/
  | file (content : Option String) (mode : Nat)
  deriving DecidableEq, Repr

/-- Mode of a directory that is made without a wish. -/
def plainDirectoryMode : Nat := 0o755

/-- How many bytes a name may have. -/
def nameLimit : Nat := 255

/-- The nodes by place. -/
structure Tree where
  /-- All nodes but the given ones. -/
  nodes : List (Place × Node)
  deriving Repr, Inhabited

namespace Tree

/-- A tree without files. -/
def empty : Tree := ⟨[]⟩

/-- What lies at a place. -/
def at? (t : Tree) (place : Place) : Option Node :=
  match t.nodes.lookup place with
  | some node => some node
  | none => if place.isGiven then some (.directory plainDirectoryMode) else none

/-- Put a node at a place, over the one that is there. -/
def put (t : Tree) (place : Place) (node : Node) : Tree :=
  ⟨(place, node) :: t.nodes.filter fun n => n.1 != place⟩

/-- Does a directory lie at a place? -/
def isDirectory (t : Tree) (place : Place) : Bool :=
  match t.at? place with
  | some (.directory _) => true
  | _ => false

/-- Where parts lead from a place. Each step starts at a directory. -/
def follow (t : Tree) (place : Place) : List String → Option Place
  | [] => some place
  | part :: rest =>
    if t.isDirectory place && part.utf8ByteSize ≤ nameLimit then t.follow (place.step part) rest
    else none

/-- The place that a path leads to. The empty path and one that is too long lead nowhere. -/
def locate (t : Tree) (path : String) : Option Place :=
  if path = "" ∨ pathLimit < path.utf8ByteSize then none
  else t.follow (Route.ofPath path).start (Route.ofPath path).parts

/-- What a path leads to. -/
def find? (t : Tree) (path : String) : Option Node := (t.locate path).bind t.at?

/-- Make the directories on the way from a directory that are missing. Tells whether all
of them are there; a file in the way and a name that is too long stop it. -/
def makeWay (t : Tree) (place : Place) : List String → Bool × Tree
  | [] => (true, t)
  | part :: rest =>
    if nameLimit < part.utf8ByteSize then (false, t)
    else
      match t.at? (place.step part) with
      | some (.file _ _) => (false, t)
      | some (.directory _) => t.makeWay (place.step part) rest
      | none =>
        (t.put (place.step part) (.directory plainDirectoryMode)).makeWay (place.step part) rest

/-- Make the directories of a path that are missing. Tells whether all of them are there;
a path that is too long is not begun. -/
def makeDirectories (t : Tree) (path : String) : Bool × Tree :=
  if pathLimit < path.utf8ByteSize then (false, t)
  else t.makeWay (Route.ofPath path).start (Route.ofPath path).parts

/-- Write a file; a directory cannot be written. A new file gets the mode. -/
def writeFile (t : Tree) (path content : String) (mode : Nat) : Option Tree :=
  match t.locate path with
  | none => none
  | some place =>
    match t.at? place with
    | some (.directory _) => none
    | some (.file _ old) => some (t.put place (.file (some content) old))
    | none => some (t.put place (.file (some content) mode))

end Tree

end VariableBridge.Files
