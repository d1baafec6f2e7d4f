import Modforge.Files.Path
import Modforge.Keyed
import Modforge.Text.Utf8

/-!
# File trees

A tree of folders and files with a working directory, and what can be asked of it: reading a
file, making folders, writing a file. A request that fails leaves every file as it was.
-/

namespace Modforge

inductive FileFault where
  | notFound
  | exists
  | notFolder
  | isFolder
  | nameTooLong
  | notText
  | nulInName
  /-- There is no folder to begin with. -/
  | nowhere
  deriving DecidableEq, Repr

def FileFault.message : FileFault → String
  | .notFound => "No such file or directory (os error 2)"
  | .exists => "File exists (os error 17)"
  | .notFolder => "Not a directory (os error 20)"
  | .isFolder => "Is a directory (os error 21)"
  | .nameTooLong => "File name too long (os error 36)"
  | .notText => "stream did not contain valid UTF-8"
  | .nulInName => "file name contained an unexpected NUL byte"
  | .nowhere => "failed to create whole tree"

inductive Contents where
  | text (text : String)
  | bytes (bytes : List UInt8)
  deriving DecidableEq, Repr

def Contents.ofBytes (bytes : List UInt8) : Contents :=
  match Text.ofUtf8? bytes with
  | some decoded => .text decoded
  | none => .bytes bytes

/-- The contents as text, with replacement characters where there is none. -/
def Contents.shown : Contents → String
  | .text whole => whole
  | .bytes raw => Text.ofUtf8Lossy raw

/-- The names from the root down. -/
abbrev Location := List String

inductive FileNode where
  | file (contents : Contents)
  | folder
  deriving DecidableEq, Repr

/-- How many bytes a name and a path may have. -/
structure FileLimits where
  name : Nat
  path : Nat
  deriving DecidableEq, Repr

def FileLimits.usual : FileLimits := ⟨255, 4095⟩

structure FileTree where
  /-- Where relative paths begin. -/
  home : Location
  nodes : List (Location × FileNode)
  /-- Without limits every name and every path is short enough. -/
  limits : Option FileLimits
  deriving DecidableEq, Repr

namespace FileTree

def emptyAt (home : Location) : FileTree :=
  { home
    nodes := (List.range home.length).map fun n => (home.take (n + 1), .folder)
    limits := some .usual }

/-- The root is always a folder. -/
def node? (tree : FileTree) (place : Location) : Option FileNode :=
  if place = [] then some .folder else tree.nodes.lookup place

def put (tree : FileTree) (place : Location) (node : FileNode) : FileTree :=
  { tree with nodes := Keyed.put place node tree.nodes }

/-! ## Finding a place -/

def isLongName (tree : FileTree) (name : List Char) : Bool :=
  tree.limits.any (·.name < Text.byteLength name)

def isLongPath (tree : FileTree) (path : List Char) : Bool :=
  tree.limits.any (·.path < Text.byteLength path)

/-- One name further on the way. The place reached need not exist. -/
def enter (tree : FileTree) (place : Location) (name : List Char) : Except FileFault Location :=
  match tree.node? place with
  | none => .error .notFound
  | some (.file _) => .error .notFolder
  | some .folder =>
    if Path.isIdle name then .ok place
    else if name == ['.', '.'] then .ok place.dropLast
    else if tree.isLongName name then .error .nameTooLong
    else .ok (place ++ [String.ofList name])

def walk (tree : FileTree) (place : Location) (names : List (List Char)) :
    Except FileFault Location :=
  names.foldlM tree.enter place

def start (tree : FileTree) (path : String) : Location :=
  if Path.isAbsolute path then [] else tree.home

/-- Paths no request looks up. -/
def pathFault? (tree : FileTree) (path : String) : Option FileFault :=
  let chars := path.toList
  if chars.any (·.toNat == 0) then some .nulInName
  else if tree.isLongPath chars then some .nameTooLong
  else if chars.isEmpty then some .notFound
  else none

def locate (tree : FileTree) (path : String) : Except FileFault Location :=
  match tree.pathFault? path with
  | some fault => .error fault
  | none => tree.walk (tree.start path) (Text.splitChars '/' path.toList)

def isFolder (tree : FileTree) (path : String) : Bool :=
  match tree.locate path with
  | .ok place => tree.node? place == some .folder
  | .error _ => false

/-- The place a path would create: the folder it lies in, its last name, and whether slashes
follow that name. -/
def target (tree : FileTree) (path : String) :
    Except FileFault (Option (Location × List Char × Bool)) :=
  match tree.pathFault? path with
  | some fault => .error fault
  | none =>
    let pieces := (Text.splitChars '/' path.toList).reverse
    match pieces.dropWhile (·.isEmpty) with
    | [] => .ok none
    | name :: before => do
      let place ← tree.walk (tree.start path) before.reverse
      -- the folder must be one before its entry is looked at
      let _ ← tree.enter place []
      pure (some (place, name, pieces.head? == some []))

/-! ## Requests -/

def read (tree : FileTree) (path : String) : Except FileFault String :=
  match tree.locate path with
  | .error fault => .error fault
  | .ok place =>
    match tree.node? place with
    | none => .error .notFound
    | some .folder => .error .isFolder
    | some (.file (.text text)) => .ok text
    | some (.file (.bytes _)) => .error .notText

def makeFolder (tree : FileTree) (path : String) : Except FileFault FileTree :=
  match tree.target path with
  | .error fault => .error fault
  | .ok none => .error .exists
  | .ok (some (place, name, _)) =>
    if Path.isIdle name || name == ['.', '.'] then .error .exists
    else match tree.enter place name with
      | .error fault => .error fault
      | .ok inner =>
        if (tree.node? inner).isSome then .error .exists else .ok (tree.put inner .folder)

/-- A folder that is there already is as good as a new one. -/
def ensureFolder (tree : FileTree) (path : String) : Except FileFault FileTree :=
  match tree.makeFolder path with
  | .ok tree => .ok tree
  | .error fault => if tree.isFolder path then .ok tree else .error fault

/-- Makes a folder and those it lies in, each path being shorter than `fuel`. -/
def makeFoldersBelow : Nat → FileTree → String → Except FileFault Unit × FileTree
  | 0, tree, _ => (.error .nowhere, tree)
  | fuel + 1, tree, path =>
    if path.toList.isEmpty then (.ok (), tree)
    else match tree.makeFolder path with
      | .ok tree => (.ok (), tree)
      | .error .notFound =>
        match Path.parent? path with
        | none => (.error .nowhere, tree)
        | some parent =>
          match makeFoldersBelow fuel tree parent with
          | (.error fault, tree) => (.error fault, tree)
          | (.ok (), tree) =>
            match tree.ensureFolder path with
            | .ok tree => (.ok (), tree)
            | .error fault => (.error fault, tree)
      | .error fault =>
        if tree.isFolder path then (.ok (), tree) else (.error fault, tree)

def makeFolders (tree : FileTree) (path : String) : Except FileFault Unit × FileTree :=
  makeFoldersBelow (path.toList.length + 1) tree path

def write (tree : FileTree) (path text : String) : Except FileFault FileTree :=
  match tree.target path with
  | .error fault => .error fault
  | .ok none => .error .isFolder
  | .ok (some (place, name, slash)) =>
    if slash || Path.isIdle name || name == ['.', '.'] then .error .isFolder
    else match tree.enter place name with
      | .error fault => .error fault
      | .ok inner =>
        match tree.node? inner with
        | some .folder => .error .isFolder
        | _ => .ok (tree.put inner (.file (.text text)))

/-! ## Listing -/

/-- The files under the working directory, each with its path from there, in the order of their
paths. -/
def listing (tree : FileTree) : List (String × Contents) :=
  let files := tree.nodes.filterMap fun (place, node) =>
    match node with
    | .folder => none
    | .file contents =>
      if tree.home.isPrefixOf place then
        some (Text.join "/" (place.drop tree.home.length), contents)
      else none
  files.mergeSort fun a b => !(b.1 < a.1)

/-! ## Laws -/

theorem node?_put_self (tree : FileTree) {place : Location} (h : place ≠ []) (node : FileNode) :
    (tree.put place node).node? place = some node := by
  simp [node?, put, h]

theorem node?_put_of_ne (tree : FileTree) {place other : Location} (h : other ≠ place)
    (node : FileNode) : (tree.put place node).node? other = tree.node? other := by
  unfold node? put
  split
  · rfl
  · exact Keyed.lookup_put_of_ne h node tree.nodes

end FileTree

end Modforge
