import Modforge.Layout.Expr
import Modforge.Layout.Filter

/-!
# Values of expressions

A name that stands for nothing is a failure, but it may be asked for as a condition, negated, or
given a default. Numbers are whole as long as they can be.
-/

namespace Modforge.Layout

open Decimal (Double)

/-! ## Numbers -/

def toDouble? : Json → Option Double
  | .int n => some (.ofInt n)
  | .float x => some x
  | _ => none

def isNumber (value : Json) : Bool := (toDouble? value).isSome

def lowestInt : Int := -(Decimal.wordLimit 63 : Int)

def highestInt : Int := Decimal.wordLimit 63 - 1

def keepInt (n : Int) : Option (Option Json) :=
  if Decimal.fitsSigned 64 n then some (some (.int n)) else none

def keepFloat (x : Double) : Option Json := if x.isFinite then some (.float x) else none

def quotient (x y : Double) : Option Json :=
  let q := x.div y
  match q.toInt? with
  | some n => some (.int (max lowestInt (min highestInt n)))
  | none => keepFloat q

def calculate (op : MathOp) (left right : Json) : Option (Option Json) :=
  match op, left, right with
  | .add, .int a, .int b => keepInt (a + b)
  | .sub, .int a, .int b => keepInt (a - b)
  | .mul, .int a, .int b => keepInt (a * b)
  | .mod, .int a, .int b => if b = 0 then none else some (some (.int (a.tmod b)))
  | op, a, b => do
    let x ← toDouble? a
    let y ← toDouble? b
    match op with
    | .add => some <$> keepFloat (x.add y)
    | .sub => some <$> keepFloat (x.sub y)
    | .mul => some (keepFloat (x.mul y))
    | .div => some (quotient x y)
    | .mod => some (keepFloat (x.rem y))

def ordered (op : CompareOp) (order : Option Ordering) : Bool :=
  match op, order with
  | .le, some o => o != .gt
  | .ge, some o => o != .lt
  | .lt, some o => o == .lt
  | .gt, some o => o == .gt
  | .eq, some o => o == .eq
  | .ne, some o => o != .eq
  | .ne, none => true
  | _, none => false

/-! ## Containment -/

def contains? (container item : Json) : Option Bool :=
  match container, item with
  | .list items, _ => some (items.any (same item))
  | .text text, .text part => some (Text.contains part text)
  | .object entries, .text key => some (entries.lookup key).isSome
  | _, _ => none

/-! ## Expressions -/

def isIdleFilter (filter : Call) : Bool := filter.name == "safe" || filter.name == "default"

/-- What stands in for a name without a value, if the first filter gives a default. -/
def defaultOf? : List Call → Option (Option Expr)
  | filter :: _ =>
    if filter.name = "default" then some (filter.args.lookup "value") else none
  | [] => none

mutual

def eval (scope : Scope) : Nat → Expr → Option Json
  | 0, _ => none
  | fuel + 1, .mk core filters negated => do
    let finish (value : Json) : Option Json := do
      let result ← filters.foldlM (fun value filter =>
        if isIdleFilter filter then some value else evalFilter scope fuel value filter) value
      pure (if negated then .flag !(holds result) else result)
    match core with
    | .name reference =>
      match scope.follow reference with
      | some .null => if negated then pure (.flag true) else finish .null
      | some value => finish value
      | none =>
        match defaultOf? filters with
        | some (some value) => finish (← eval scope fuel value)
        | some none => none
        | none => if negated then pure (.flag true) else none
    | .both _ _ | .either _ _ | .compare _ _ _ =>
      finish (.flag (← evalTruth scope fuel (.mk core [] negated)))
    | .text value => finish (.text value)
    | .int value => finish (.int value)
    | .float value => finish (.float value)
    | .flag value => finish (.flag value)
    | .list items => finish (.list (← items.mapM (eval scope fuel)))
    | .concat parts => finish (.text (String.ofList (← parts.mapM (evalPart scope fuel)).flatten))
    | .call call => finish (← evalCall scope fuel call)
    | .math _ _ _ =>
      match ← evalCoreNumber scope fuel core with
      | some value => finish value
      | none => finish (.text "NaN")
    | .within absent left right => finish (.flag (← evalWithin scope fuel absent left right))
    | .test reference absent name args =>
      finish (.flag (← evalTest scope fuel reference absent name args))
    | .unavailable => none

def evalArgs (scope : Scope) : Nat → List (String × Expr) → Option Args
  | 0, _ => none
  | fuel + 1, args => args.mapM fun (name, value) => do pure (name, ← eval scope fuel value)

def evalFilter (scope : Scope) : Nat → Json → Call → Option Json
  | 0, _, _ => none
  | fuel + 1, value, .mk name args => do applyFilter name value (← evalArgs scope fuel args)

def evalCall (scope : Scope) : Nat → Call → Option Json
  | 0, _ => none
  | fuel + 1, .mk name args => do applyFunction name (← evalArgs scope fuel args)

def evalPart (scope : Scope) : Nat → Core → Option (List Char)
  | 0, _ => none
  | fuel + 1, core => do
    match core, ← eval scope fuel core.plain with
    | _, .text text => some text.toList
    | .float _, .float x => some x.plainText.toList
    | _, .float x => some x.shortText.toList
    | _, .int n => some (toString n).toList
    | _, _ => none

def evalWithin (scope : Scope) : Nat → Bool → Expr → Expr → Option Bool
  | 0, _, _, _ => none
  | fuel + 1, absent, left, right => do
    let item ← eval scope fuel left
    let container ← eval scope fuel right
    let present ← contains? container item
    pure (present != absent)

def evalTest (scope : Scope) : Nat → String → Bool → String → List Expr → Option Bool
  | 0, _, _, _, _ => none
  | fuel + 1, reference, absent, name, args => do
    let args ← args.mapM (eval scope fuel)
    let result ← applyTest name (scope.follow reference) args
    pure (result != absent)

/-- The number an expression stands for, which may be no number at all. -/
def evalNumber (scope : Scope) : Nat → Expr → Option (Option Json)
  | 0, _ => none
  | fuel + 1, .mk core filters negated =>
    if filters.isEmpty then evalCoreNumber scope fuel core
    else do
      let value ← eval scope fuel (.mk core filters negated)
      if isNumber value then some (some value) else none

def evalCoreNumber (scope : Scope) : Nat → Core → Option (Option Json)
  | 0, _ => none
  | fuel + 1, core =>
    match core with
    | .name reference => do
      let value ← scope.follow reference
      if isNumber value then some (some value) else none
    | .int value => some (some (.int value))
    | .float value => some (some (.float value))
    | .call call => do
      let value ← evalCall scope fuel call
      if isNumber value then some (some value) else none
    | .math op left right => do
      let left ← evalNumber scope fuel left
      let right ← evalNumber scope fuel right
      match left, right with
      | some a, some b => calculate op a b
      | _, _ => some none
    | _ => none

def evalTruth (scope : Scope) : Nat → Expr → Option Bool
  | 0, _ => none
  | fuel + 1, .mk core filters negated => do
    let finish (result : Bool) : Option Bool := some (result != negated)
    match core with
    | .either left right =>
      if ← evalTruth scope fuel left then finish true else finish (← evalTruth scope fuel right)
    | .both left right =>
      if ← evalTruth scope fuel left then finish (← evalTruth scope fuel right) else finish false
    | .compare op left right =>
      if op = .eq ∨ op = .ne then
        let a ← eval scope fuel left
        let b ← eval scope fuel right
        match toDouble? a, toDouble? b with
        | some x, some y => finish (ordered op (x.compare? y))
        | none, none => finish (same a b == (op == .eq))
        | _, _ => some false
      else
        match ← evalNumber scope fuel left, ← evalNumber scope fuel right with
        | some a, some b => do
          let x ← toDouble? a
          let y ← toDouble? b
          finish (ordered op (x.compare? y))
        | _, _ => none
    | .name _ =>
      match eval scope fuel (.mk core filters negated) with
      | some value => some (holds value)
      | none => some false
    | .math _ _ _ | .int _ | .float _ =>
      match ← evalCoreNumber scope fuel core with
      | some value => finish (holds value)
      | none => finish false
    | .within absent left right => finish (← evalWithin scope fuel absent left right)
    | .test reference absent name args =>
      finish (← evalTest scope fuel reference absent name args)
    | .flag value => finish value
    | .text value => finish !value.toList.isEmpty
    | .call call =>
      match ← evalCall scope fuel call with
      | .flag value => finish value
      | _ => none
    | .concat _ =>
      match ← eval scope fuel (.mk core filters negated) with
      | .text text => finish !text.toList.isEmpty
      | _ => none
    | .list _ | .unavailable => none

end

end Modforge.Layout
