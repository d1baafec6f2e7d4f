import Modforge.Proofs.Candidate.Calls
import Modforge.Proofs.Folders

/-! # Output on disk as in memory -/

namespace Modforge

open Modforge.Path

/-- Every declared id is made of words between single slashes. -/
def Container.HasPlainIds (c : Container) : Prop :=
  ∀ id, c.Declares id →
    ∀ segment ∈ Text.split '/' id, Naming.isWordOf Naming.isNamespaceChar segment = true

namespace Disk

def root (disk : Disk) (isResource : Bool) : String :=
  if isResource then disk.resourceRoot else disk.sourceRoot

def rootPlace (disk : Disk) (home : Location) (isResource : Bool) : Location :=
  place home (disk.root isResource)

/-- The roots are apart and nothing lies in them. -/
structure IsVacant (disk : Disk) (tree : FileTree) : Prop where
  apart : ∀ isResource,
    ¬ disk.rootPlace tree.home isResource <+: disk.rootPlace tree.home (!isResource)
  empty : ∀ isResource place, Inside (disk.rootPlace tree.home isResource) place →
    tree.node? place = none

/-- Each root can be made: no file stands on the way to it, and no way to a root leads through
what will lie in one. -/
structure IsReady (disk : Disk) (tree : FileTree) : Prop extends disk.IsVacant tree where
  noNul : ∀ isResource, NoNul (disk.root isResource)
  clear : ∀ isResource, tree.IsClear (disk.root isResource)
  around : ∀ isResource other, ∀ place ∈ way tree.home (disk.root other),
    ¬ Inside (disk.rootPlace tree.home isResource) place

theorem isVacant_iff (disk : Disk) (tree : FileTree) :
    disk.IsVacant tree ↔
      (∀ isResource,
        ¬ disk.rootPlace tree.home isResource <+: disk.rootPlace tree.home (!isResource)) ∧
      ∀ isResource, ∀ entry ∈ tree.nodes,
        ¬ Inside (disk.rootPlace tree.home isResource) entry.1 := by
  simp only [← FileTree.forall_inside_iff]
  exact ⟨fun h => ⟨h.apart, h.empty⟩, fun h => ⟨h.1, h.2⟩⟩

instance (disk : Disk) (tree : FileTree) : Decidable (disk.IsVacant tree) :=
  decidable_of_iff _ (isVacant_iff disk tree).symm

theorem isReady_iff (disk : Disk) (tree : FileTree) :
    disk.IsReady tree ↔ disk.IsVacant tree ∧ (∀ isResource, NoNul (disk.root isResource)) ∧
      (∀ isResource, tree.IsClear (disk.root isResource)) ∧
      ∀ isResource other, ∀ place ∈ way tree.home (disk.root other),
        ¬ Inside (disk.rootPlace tree.home isResource) place :=
  ⟨fun h => ⟨h.toIsVacant, h.noNul, h.clear, h.around⟩,
    fun ⟨hvacant, hnul, hclear, haround⟩ => ⟨hvacant, hnul, hclear, haround⟩⟩

instance (disk : Disk) (tree : FileTree) : Decidable (disk.IsReady tree) :=
  decidable_of_iff _ (isReady_iff disk tree).symm

/-- The way of a path leads into no root, nor through a folder that is still to be made for one. -/
def Spares (disk : Disk) (tree : FileTree) (path : String) : Prop :=
  ∀ place ∈ way tree.home path, ∀ isResource,
    ¬ Inside (disk.rootPlace tree.home isResource) place ∧
      (place ∈ way tree.home (disk.root isResource) → (tree.node? place).isSome = true)

instance (disk : Disk) (tree : FileTree) (path : String) : Decidable (disk.Spares tree path) :=
  inferInstanceAs (Decidable (∀ place ∈ way tree.home path, ∀ isResource,
    ¬ Inside (disk.rootPlace tree.home isResource) place ∧
      (place ∈ way tree.home (disk.root isResource) → (tree.node? place).isSome = true)))

end Disk

end Modforge
