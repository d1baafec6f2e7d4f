import Modforge.Naming.Qualified
import Modforge.Output.Sink
import Modforge.Settings

/-! # Sinks on disk, with two roots -/

namespace Modforge

def packagePath (package : String) : String := Path.joinAll (Naming.packageParts package)

structure Disk where
  resourceRoot : String
  sourceRoot : String
  deriving DecidableEq, Repr

namespace Disk

def ofSettings (s : Settings) : Disk := ⟨s.resourceRoot, s.sourceRoot⟩

def path (disk : Disk) : Request → String
  | .resource package name _ => Path.join (Path.join disk.resourceRoot (packagePath package)) name
  | .source package name _ =>
    Path.join (Path.join disk.sourceRoot (packagePath package)) (name ++ ".java")

def prepare (path : String) (tree : FileTree) : Except String Unit × FileTree :=
  match Path.parent? path with
  | none => (.ok (), tree)
  | some parent =>
    match tree.makeFolders parent with
    | (.ok (), tree) => (.ok (), tree)
    | (.error fault, tree) =>
      (.error ("Failed to create directory " ++ parent ++ ": " ++ fault.message), tree)

/-- Writes a file, and first makes the folders it lies in. -/
def write (path text : String) (tree : FileTree) : Except String Unit × FileTree :=
  match prepare path tree with
  | (.error reason, tree) => (.error reason, tree)
  | (.ok (), tree) =>
    match tree.write path text with
    | .ok tree => (.ok (), tree)
    | .error fault => (.error ("Failed to write file " ++ path ++ ": " ++ fault.message), tree)

def contents : Request → String
  | .resource _ _ contents => contents
  | .source _ _ contents => contents

def sink (disk : Disk) : Sink FileTree :=
  { store := fun request tree => write (disk.path request) (contents request) tree
    files := id }

end Disk

end Modforge
