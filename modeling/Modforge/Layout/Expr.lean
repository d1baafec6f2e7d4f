import Modforge.Json.Value

/-! # Expressions of a layout -/

namespace Modforge.Layout

inductive MathOp where
  | add
  | sub
  | mul
  | div
  | mod
  deriving DecidableEq, Repr

inductive CompareOp where
  | le
  | ge
  | lt
  | gt
  | eq
  | ne
  deriving DecidableEq, Repr

mutual

/-- A core, the filters its value goes through, and whether the result is negated. -/
inductive Expr where
  | mk (core : Core) (filters : List Call) (negated : Bool)

inductive Core where
  | text (value : String)
  | int (value : Int)
  | float (value : Decimal.Double)
  | flag (value : Bool)
  /-- A reference, as it is written. -/
  | name (reference : String)
  | list (items : List Expr)
  | concat (parts : List Core)
  | call (call : Call)
  | math (op : MathOp) (left right : Expr)
  | both (left right : Expr)
  | either (left right : Expr)
  | compare (op : CompareOp) (left right : Expr)
  | within (negated : Bool) (left right : Expr)
  | test (reference : String) (negated : Bool) (name : String) (args : List Expr)
  /-- What is understood and cannot be had. -/
  | unavailable

inductive Call where
  | mk (name : String) (args : List (String × Expr))

end

def Expr.core : Expr → Core
  | .mk core _ _ => core

def Expr.filters : Expr → List Call
  | .mk _ filters _ => filters

def Expr.negated : Expr → Bool
  | .mk _ _ negated => negated

def Call.name : Call → String
  | .mk name _ => name

def Call.args : Call → List (String × Expr)
  | .mk _ args => args

def Core.plain (core : Core) : Expr := .mk core [] false

end Modforge.Layout
