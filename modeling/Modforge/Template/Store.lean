import Modforge.Keyed
import Modforge.Template.Bundled

/-! # Template stores -/

namespace Modforge

structure TemplateStore where
  byKind : List (TemplateKind × List (String × Template))
  deriving DecidableEq, Repr

namespace TemplateStore

def empty : TemplateStore := ⟨[]⟩

def isNamed (kind : TemplateKind) (name : String) (template : Template) : Bool :=
  template.kind == kind && template.name == name

def ofKind (store : TemplateStore) (kind : TemplateKind) : List (String × Template) :=
  (store.byKind.lookup kind).getD []

def lookup (store : TemplateStore) (kind : TemplateKind) (name : String) : Option Template :=
  (store.ofKind kind).lookup name

def contains (store : TemplateStore) (kind : TemplateKind) (name : String) : Bool :=
  (store.lookup kind name).isSome

/-- Adds a template under its kind and name, and gives back the one that it takes the place of. -/
def exchange (store : TemplateStore) (template : Template) : Option Template × TemplateStore :=
  let (previous, named) := Keyed.exchange template.name template (store.ofKind template.kind)
  (previous, ⟨(Keyed.exchange template.kind named store.byKind).2⟩)

def register (store : TemplateStore) (template : Template) : TemplateStore :=
  (store.exchange template).2

def size (store : TemplateStore) : Nat :=
  store.byKind.foldl (fun count (_, named) => count + named.length) 0

def isEmpty (store : TemplateStore) : Bool := store.size == 0

def names (store : TemplateStore) (kind : TemplateKind) : List String :=
  ((store.ofKind kind).map Prod.fst).mergeSort fun a b => !(b < a)

def withBundled (space : String) : TemplateStore :=
  (Bundled.templates space).foldl register empty

theorem previous_exchange (store : TemplateStore) (template : Template) :
    (store.exchange template).1 = store.lookup template.kind template.name :=
  Keyed.previous_exchange template.name template (store.ofKind template.kind)

theorem ofKind_register_self (store : TemplateStore) (template : Template) :
    (store.register template).ofKind template.kind =
      (Keyed.exchange template.name template (store.ofKind template.kind)).2 := by
  simp [ofKind, register, exchange]

theorem ofKind_register_of_ne (store : TemplateStore) (template : Template)
    {kind : TemplateKind} (h : kind ≠ template.kind) :
    (store.register template).ofKind kind = store.ofKind kind := by
  simp [ofKind, register, exchange, Keyed.lookup_exchange_of_ne h]

theorem lookup_register_self (store : TemplateStore) (template : Template) :
    (store.register template).lookup template.kind template.name = some template := by
  rw [lookup, ofKind_register_self, Keyed.lookup_exchange_self]

theorem lookup_register_of_ne (store : TemplateStore) (template : Template)
    {kind : TemplateKind} {name : String} (h : isNamed kind name template = false) :
    (store.register template).lookup kind name = store.lookup kind name := by
  by_cases hkind : kind = template.kind
  · have hname : name ≠ template.name := fun hname => by simp [isNamed, hkind, hname] at h
    rw [lookup, lookup, hkind, ofKind_register_self, Keyed.lookup_exchange_of_ne hname]
  · rw [lookup, lookup, ofKind_register_of_ne store template hkind]

end TemplateStore

end Modforge
