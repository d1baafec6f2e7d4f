import Modforge.Decimal.Double

/-! # The shortest decimal that reads back as a double, and of several the nearest -/

namespace Modforge.Decimal

/-- The decimal `0.d₁d₂d₃… · 10 ^ point`. -/
structure Digits where
  digits : List Nat
  point : Int
  deriving DecidableEq, Repr

/-- Digits in base ten of a number, most significant first, at most `fuel` of them. -/
def digitsBelow : Nat → Nat → List Nat → List Nat
  | 0, _, done => done
  | fuel + 1, n, done => if n = 0 then done else digitsBelow fuel (n / 10) (n % 10 :: done)

def digitsOf (n : Nat) : List Nat := digitsBelow (n.log2 + 1) n []

/-- The numbers that round to a double, as a ratio with a common denominator. -/
structure Interval where
  low : Nat
  value : Nat
  high : Nat
  den : Nat
  /-- Whether the ends belong to the interval. -/
  closed : Bool

def Interval.ofParts (mantissa : Nat) (exponent : Int) : Interval :=
  let step := if 2 * mantissa = mantissaLimit ∧ lowestExponent < exponent then 1 else 2
  let scale (n : Nat) := if 2 ≤ exponent then n * Nat.pow 2 (exponent - 2).toNat else n
  { low := scale (4 * mantissa - step)
    value := scale (4 * mantissa)
    high := scale (4 * mantissa + 2)
    den := if 2 ≤ exponent then 1 else Nat.pow 2 (2 - exponent).toNat
    closed := mantissa % 2 = 0 }

def Interval.holds (i : Interval) (num scale : Nat) : Bool :=
  let n := num * i.den
  if i.closed then i.low * scale ≤ n && n ≤ i.high * scale
  else i.low * scale < n && n < i.high * scale

/-- The point for which `10 ^ (point - 1) ≤ num / den < 10 ^ point`. -/
def decimalPoint (num den : Nat) : Int :=
  if den ≤ num then (digitsOf (num / den)).length
  else 1 - ((digitsOf ((den - 1) / num)).length : Int)

def scaleUp (num den : Nat) (exponent : Int) : Nat × Nat :=
  if 0 ≤ exponent then (num * Nat.pow 10 exponent.toNat, den)
  else (num, den * Nat.pow 10 (-exponent).toNat)

/-- The neighbour with `count` digits that lies in the interval, the nearer one of two. -/
def Interval.neighbour? (i : Interval) (point : Int) (count : Nat) : Option Nat :=
  let (num, den) := scaleUp i.value i.den (count - point)
  let below := num / den
  let inside (n : Nat) : Bool :=
    let (a, b) := scaleUp n 1 (point - count)
    i.holds a b
  match inside below, inside (below + 1) with
  | true, true =>
    some (if 2 * (num % den) < den then below
      else if den < 2 * (num % den) then below + 1
      else below + below % 2)
  | true, false => some below
  | false, true => some (below + 1)
  | false, false => none

/-- Tries digit counts from `count` on. Seventeen digits always suffice. -/
def shortestFrom (i : Interval) (point : Int) : Nat → Nat → Digits
  | 0, count => ⟨digitsOf (i.value / i.den), count⟩
  | fuel + 1, count =>
    match i.neighbour? point count with
    | some n =>
      let digits := digitsOf n
      let trimmed := (digits.reverse.dropWhile (· == 0)).reverse
      ⟨trimmed, point - count + digits.length⟩
    | none => shortestFrom i point fuel (count + 1)

def shortest (mantissa : Nat) (exponent : Int) : Digits :=
  let i := Interval.ofParts mantissa exponent
  shortestFrom i (decimalPoint i.value i.den) 20 1

end Modforge.Decimal
