import VariableBridge.Config.Environment
import VariableBridge.Config.Text
import VariableBridge.Files.Tree

/-!
# Loading and saving a configuration

Saving makes the directory of the file, keeps others out of it and writes the
whole text at once, after the text is known; a configuration that has no text
changes no file. Loading applies the overrides of the environment to what the
file holds.
-/

namespace VariableBridge

open Files (Tree)

/-- Why a configuration was not loaded or saved. -/
inductive StorageError where
  /-- The file cannot be read as text. -/
  | read (path : String)
  /-- The text is no configuration. -/
  | parse
  /-- The directory cannot be made. -/
  | directory
  /-- The directory's mode cannot be set. -/
  | permissions
  /-- The configuration has no text. -/
  | serialize
  /-- The file cannot be written. -/
  | write (path : String)
  deriving DecidableEq, Repr

namespace StorageError

/-- What has failed. -/
def headline : StorageError → String
  | .read _ => "Failed to read config"
  | .parse => "Failed to parse config"
  | .directory => "Failed to create config directory"
  | .permissions => "Failed to set config directory permissions"
  | .serialize => "Failed to serialize config"
  | .write _ => "Failed to write config"

/-- What has failed, and at which file. -/
def message : StorageError → String
  | .read path => "Failed to read config at " ++ path
  | .write path => "Failed to write config at " ++ path
  | error => error.headline

end StorageError

/-- Mode of the directory that holds a configuration. -/
def privateDirectoryMode : Nat := 0o700

/-- Mode of a new configuration file. -/
def privateFileMode : Nat := 0o600

namespace Configuration

/-- The configuration in a file; none if there is no file. -/
def load (t : Tree) (env : Environment) (path : String) :
    Except StorageError (Option Configuration) :=
  match t.find? path with
  | none => .ok none
  | some (.directory _) => .error (.read path)
  | some (.file none _) => .error (.read path)
  | some (.file (some text) _) =>
    match read text with
    | some c => .ok (some (env.override c))
    | none => .error .parse

/-- Make the directory that is to hold a file and keep others out of it. Also gives the
tree of files afterwards. A file named without a directory has none whose mode can be set. In a
tree without owners nothing else can fail at the end: to set the mode of a directory that was
there already, and belongs to somebody else, would be refused. -/
def prepareDirectory (t : Tree) (path : String) : Except StorageError Unit × Tree :=
  match Files.parentPath? path with
  | none => (.ok (), t)
  | some directory =>
    let (complete, made) := t.makeDirectories directory
    if complete then
      match made.locate directory with
      | none => (.error .permissions, made)
      | some place => (.ok (), made.put place (.directory privateDirectoryMode))
    else (.error .directory, made)

/-- Save a configuration. Also gives the tree of files afterwards. -/
def save (c : Configuration) (t : Tree) (path : String) : Except StorageError Unit × Tree :=
  match prepareDirectory t path with
  | (.error error, made) => (.error error, made)
  | (.ok (), made) =>
    match c.write with
    | none => (.error .serialize, made)
    | some text =>
      match made.writeFile path text privateFileMode with
      | none => (.error (.write path), made)
      | some written => (.ok (), written)

end Configuration

end VariableBridge
