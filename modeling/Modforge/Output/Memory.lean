import Modforge.Keyed
import Modforge.Output.Sink

/-! # Sinks in memory -/

namespace Modforge

/-- Texts, each under a package and a name. -/
abbrev Shelf := List ((String × String) × String)

namespace Shelf

def get? (shelf : Shelf) (package name : String) : Option String := shelf.lookup (package, name)

def put (shelf : Shelf) (package name contents : String) : Shelf :=
  Keyed.put (package, name) contents shelf

def inOrder (a b : String × String) : Bool :=
  a.1 < b.1 || (a.1 == b.1 && !(b.2 < a.2))

def listing (shelf : Shelf) : Shelf := shelf.mergeSort fun a b => inOrder a.1 b.1

theorem get?_put_self (shelf : Shelf) (package name contents : String) :
    (shelf.put package name contents).get? package name = some contents := by
  simp [get?, put]

theorem get?_put_of_ne (shelf : Shelf) {package name package' name' : String}
    (h : (package', name') ≠ (package, name)) (contents : String) :
    (shelf.put package name contents).get? package' name' = shelf.get? package' name' :=
  Keyed.lookup_put_of_ne h contents shelf

end Shelf

structure Memory where
  resources : Shelf
  sources : Shelf
  deriving DecidableEq, Repr

namespace Memory

def empty : Memory := ⟨[], []⟩

def put (memory : Memory) : Request → Memory
  | .resource package name contents =>
    { memory with resources := memory.resources.put package name contents }
  | .source package name contents =>
    { memory with sources := memory.sources.put package name contents }

/-- A sink that takes everything and leaves the files alone. -/
def sink (tree : FileTree) : Sink Memory :=
  { store := fun request memory => (.ok (), memory.put request)
    files := fun _ => tree }

end Memory

end Modforge
