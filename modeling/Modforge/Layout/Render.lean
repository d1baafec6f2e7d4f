import Modforge.Layout.Eval
import Modforge.Layout.Node
import Modforge.Text.Cluster

/-! # Rendering layouts -/

namespace Modforge.Layout

inductive Flow where
  | on
  | leave
  | next
  deriving DecidableEq

/-- What was written, the variables after it and how it ended. -/
abbrev Rendered := Option (List Char × Scope × Flow)

/-- A text has as many rounds as characters. A cluster of several gives its value to one round, so
the last rounds may be left without. -/
def textRounds (text : List Char) : List (Option Json) :=
  let found := (Text.clusters text).map fun cluster => some (Json.text (String.ofList cluster))
  found ++ List.replicate (text.length - found.length) none

def roundsOf? (key : Option String) : Json → Option (List (Option Json))
  | .list items => if key.isSome then none else some (items.map some)
  | .text text => if key.isSome then none else some (textRounds text.toList)
  | _ => none

def isRange (range : Expr) : Bool :=
  match range.core with
  | .name _ | .call _ | .list _ => true
  | _ => false

/-- Repeats a body for each value, the first of which has the number `index`. -/
def repeatBody (body : Scope → Rendered) (name : String) :
    List (Option Json) → Nat → Scope → Option (List Char × Scope)
  | [], _, scope => some ([], scope)
  | value :: rest, index, scope => do
    let (text, scope, flow) ← body (scope.enter ⟨name, value, index, rest.isEmpty⟩)
    let scope := scope.leave
    if flow = .leave then pure (text, scope)
    else
      let (more, scope) ← repeatBody body name rest (index + 1) scope
      pure (text ++ more, scope)

mutual

def renderNode (depth : Nat) : Node → Scope → Rendered
  | .text text, scope => some (text, scope, .on)
  | .output value, scope => do
    let value ← eval scope depth value
    pure (shown value, scope, .on)
  | .branch cases otherwise, scope => renderCases depth cases (renderNodes depth otherwise) scope
  | .loop key name range body whenEmpty, scope =>
    if !isRange range then none
    else do
      let values ← roundsOf? key (← eval scope depth range)
      if values.isEmpty then renderNodes depth whenEmpty scope
      else
        let (text, scope) ←
          repeatBody (fun scope => renderNodes depth body scope) name values 0 scope
        pure (text, scope, .on)
  | .leaveLoop, scope => if scope.inLoop then some ([], scope, .leave) else none
  | .nextRound, scope => if scope.inLoop then some ([], scope, .next) else none
  | .assign everywhere name value, scope => do
    let value ← eval scope depth value
    pure ([], scope.assign everywhere name value, .on)
  | .filtered filter body, scope => do
    let (text, scope, flow) ← renderNodes depth body scope
    let result ← evalFilter scope depth (.text (String.ofList text)) filter
    pure (shown result, scope, flow)
  | .group body, scope => renderNodes depth body scope
  | .unavailable, _ => none

def renderNodes (depth : Nat) : List Node → Scope → Rendered
  | [], scope => some ([], scope, .on)
  | node :: rest, scope => do
    let (text, scope, flow) ← renderNode depth node scope
    if flow = .on then
      let (more, scope, flow) ← renderNodes depth rest scope
      pure (text ++ more, scope, flow)
    else pure (text, scope, flow)

def renderCases (depth : Nat) :
    List (Expr × List Node) → (Scope → Rendered) → Scope → Rendered
  | [], otherwise, scope => otherwise scope
  | (condition, body) :: rest, otherwise, scope => do
    if ← evalTruth scope depth condition then renderNodes depth body scope
    else renderCases depth rest otherwise scope

end

end Layout

def Layout.render (layout : Layout) (given : List (String × Json)) : Except Layout.Flaw String :=
  match Layout.renderNodes layout.depth layout.nodes ⟨[⟨[], none⟩], given⟩ with
  | some (text, _, _) => .ok (String.ofList text)
  | none => .error .unrenderable

end Modforge
