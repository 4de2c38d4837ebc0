import VariableBridge.Text.Pieces

/-!
# Paths

A path is a text with slashes between its parts, and it describes a way through
directories: a dot stays where it is, two dots lead back, any other part leads to
the entry of that name. Relative ways begin in the working directory, absolute
ones in the root. A way is kept as it is written, because what lies on it decides
whether it leads anywhere; a place is where it leads.
-/

namespace VariableBridge.Files

/-- A place in the tree of files: the names on the way, from the root or from the
working directory. Places outside of the working directory begin with two dots. -/
structure Place where
  /-- Are the names counted from the root? -/
  absolute : Bool
  /-- The names. -/
  parts : List String
  deriving DecidableEq, Repr, Inhabited

namespace Place

/-- The directory above a place. The root is above itself. -/
def parent (p : Place) : Place :=
  match p.parts.getLast? with
  | none => if p.absolute then p else ⟨false, [".."]⟩
  | some last =>
    if last = ".." then ⟨false, p.parts ++ [".."]⟩ else ⟨p.absolute, p.parts.dropLast⟩

/-- One part further. -/
def step (p : Place) (part : String) : Place :=
  if part = "." then p
  else if part = ".." then p.parent
  else ⟨p.absolute, p.parts ++ [part]⟩

/-- Is this the root, the working directory or a directory above it? -/
def isGiven (p : Place) : Bool := p.parts.all (· == "..")

end Place

/-- A way as a path describes it. -/
structure Route where
  /-- Does the way begin in the root? -/
  absolute : Bool
  /-- The parts, dots among them. -/
  parts : List String
  deriving DecidableEq, Repr, Inhabited

namespace Route

/-- The way of a path. A part without characters is like a dot: it stays at a directory. -/
def ofPath (path : String) : Route :=
  ⟨path.toList.head? == some '/',
    if path = "" then []
    else (Text.splitAt '/' path).map fun part => if part = "" then "." else part⟩

/-- Where a way begins. -/
def start (r : Route) : Place := ⟨r.absolute, []⟩

/-- Where a way leads if each part of it can be followed. -/
def goal (r : Route) : Place := r.parts.foldl Place.step r.start

end Route

/-- The place that a path means if each part of it can be followed. -/
def Place.ofPath (path : String) : Place := (Route.ofPath path).goal

/-- How many bytes a path may have. -/
def pathLimit : Nat := 4095

/-- Pieces of a path without the empty ones and the dots at the end. -/
def trimPieces (pieces : List String) : List String :=
  (pieces.reverse.dropWhile fun piece => piece == "" || piece == ".").reverse

/-- The path to the directory that holds the last part. A part that stands alone has the
empty path, and the root has none. -/
def parentPath? (path : String) : Option String :=
  match Text.splitAt '/' path with
  | [] => none
  | first :: rest =>
    let names := trimPieces rest
    if names.isEmpty then if first = "" then none else some ""
    else
      match first, trimPieces names.dropLast with
      | "", [] => some "/"
      | first, kept => some ("/".intercalate (first :: kept))

example : Place.ofPath "/a//b/.././c/" = ⟨true, ["a", "c"]⟩ := by decide +kernel
example : Place.ofPath "../../a" = ⟨false, ["..", "..", "a"]⟩ := by decide +kernel
example : parentPath? "././a" = some "." := by decide +kernel
example : parentPath? "a" = some "" := by decide +kernel
example : parentPath? "//a/./b" = some "//a" := by decide +kernel
example : parentPath? "/." = none := by decide +kernel

end VariableBridge.Files
