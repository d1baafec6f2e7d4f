import Modforge.Files.Tree

/-! # Sinks, where generated texts go -/

namespace Modforge

inductive Request where
  | resource (package name contents : String)
  | source (package name contents : String)
  deriving DecidableEq, Repr

namespace Request

def name : Request → String
  | .resource _ name _ => name
  | .source _ name _ => name

def isResource : Request → Bool
  | .resource .. => true
  | .source .. => false

end Request

/-- A way to store texts in a `σ`. A refusal has a reason. -/
structure Sink (σ : Type) where
  store : Request → σ → Except String Unit × σ
  files : σ → FileTree

/-- Refuses some requests, for the given reason, before they reach the sink. -/
def Sink.refusing {σ : Type} (sink : Sink σ) (refused : Request → Bool) (reason : String) :
    Sink σ :=
  { sink with
    store := fun request state =>
      if refused request then (.error reason, state) else sink.store request state }

end Modforge
