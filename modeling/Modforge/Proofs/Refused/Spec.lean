import Modforge.Generation.Run

/-! # Refusals -/

namespace Modforge

/-- What a sink was asked and what it answered. -/
abbrev Trace := List (Request × Except String Unit)

def Sink.traced {σ : Type} (sink : Sink σ) : Sink (σ × Trace) :=
  { store := fun request (state, trace) =>
      let (answer, state) := sink.store request state
      (answer, (state, trace ++ [(request, answer)]))
    files := fun (state, _) => sink.files state }

/-- A sink that takes everything and keeps nothing. -/
def Sink.accepting (tree : FileTree) : Sink Unit :=
  { store := fun _ state => (.ok (), state)
    files := fun _ => tree }

namespace Trace

def resources (trace : Trace) : Nat :=
  (trace.filter fun (request, answer) => request.isResource && answer.isOk).length

def sources (trace : Trace) : Nat :=
  (trace.filter fun (request, answer) => !request.isResource && answer.isOk).length

end Trace

/-- What is reported of an answer to a request that was made for a subject. -/
def fault? (call : Request × String) : Except String Unit → Option Diagnostic
  | .ok () => none
  | .error reason => some
    { severity := .error
      concern := .io
      subject := some call.2
      message := (call.1.refusal call.2 reason).message }

def faults (calls : List (Request × String)) (answers : List (Except String Unit)) :
    List Diagnostic :=
  (calls.zip answers).filterMap fun (call, answer) => fault? call answer

/-- The third list is the first two laid into one another, each in its own order. -/
inductive Interleaved {α : Type} : List α → List α → List α → Prop
  | nil : Interleaved [] [] []
  | left {a : α} {first second both : List α} (h : Interleaved first second both) :
    Interleaved (a :: first) second (a :: both)
  | right {a : α} {first second both : List α} (h : Interleaved first second both) :
    Interleaved first (a :: second) (a :: both)

end Modforge
