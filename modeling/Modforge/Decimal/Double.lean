import Modforge.Decimal.Word

/-!
# Binary floating point

Doubles as exact values: a signed multiple of a power of two. Arithmetic is done on exact
ratios and rounded once, to the nearest double, a tie to the even one.
-/

namespace Modforge.Decimal

/-- A binary floating point number of 64 bits. -/
inductive Double where
  /-- The value `mantissa · 2 ^ exponent`, with a sign that a zero keeps too. -/
  | finite (negative : Bool) (mantissa : Nat) (exponent : Int)
  | infinite (negative : Bool)
  | undefined
  deriving DecidableEq, Repr, Inhabited

def mantissaLimit : Nat := wordLimit 53

def lowestExponent : Int := -1074

def highestExponent : Int := 971

def roundHalfEven (num den : Nat) : Nat :=
  let whole := num / den
  let rest := num % den
  if 2 * rest < den then whole
  else if den < 2 * rest then whole + 1
  else whole + whole % 2

/-- The quotient of `num / den` and `2 ^ exponent`, again as a ratio. -/
def scaleDown (num den : Nat) (exponent : Int) : Nat × Nat :=
  if 0 ≤ exponent then (num, den * Nat.pow 2 exponent.toNat)
  else (num * Nat.pow 2 (-exponent).toNat, den)

namespace Double

def zero (negative : Bool) : Double := .finite negative 0 lowestExponent

/-- A mantissa that rounding carried to the limit goes to the next exponent. -/
def normal (negative : Bool) (mantissa : Nat) (exponent : Int) : Double :=
  let (mantissa, exponent) :=
    if mantissa < mantissaLimit then (mantissa, exponent) else (mantissa / 2, exponent + 1)
  if highestExponent < exponent then .infinite negative else .finite negative mantissa exponent

def ofRatio (negative : Bool) (num den : Nat) : Double :=
  if num = 0 then zero negative
  else
    let guess := max ((num.log2 : Int) - den.log2 - 53) lowestExponent
    let (n, d) := scaleDown num den guess
    let exponent := if n / d < mantissaLimit then guess else guess + 1
    let (n, d) := scaleDown num den exponent
    normal negative (roundHalfEven n d) exponent

def ofNat (n : Nat) : Double := ofRatio false n 1

def ofInt (n : Int) : Double := ofRatio (n < 0) n.natAbs 1

/-- The double nearest to `digits · 10 ^ exponent`. Exponents far out of range are settled
without computing the power. -/
def ofDecimal (negative : Bool) (digits : Nat) (exponent : Int) : Double :=
  let size : Int := digits.log2 / 3
  if digits = 0 then zero negative
  else if 400 < exponent then .infinite negative
  else if exponent + size < -800 then zero negative
  else if 0 ≤ exponent then ofRatio negative (digits * Nat.pow 10 exponent.toNat) 1
  else ofRatio negative digits (Nat.pow 10 (-exponent).toNat)

def negate : Double → Double
  | .finite negative mantissa exponent => .finite (!negative) mantissa exponent
  | .infinite negative => .infinite !negative
  | .undefined => .undefined

def isZero : Double → Bool
  | .finite _ mantissa _ => mantissa == 0
  | _ => false

def isFinite : Double → Bool
  | .finite .. => true
  | _ => false

def ratio (mantissa : Nat) (exponent : Int) : Nat × Nat :=
  if 0 ≤ exponent then (mantissa * Nat.pow 2 exponent.toNat, 1)
  else (mantissa, Nat.pow 2 (-exponent).toNat)

def signedRatio (negative : Bool) (mantissa : Nat) (exponent : Int) : Int × Nat :=
  let (num, den) := ratio mantissa exponent
  (if negative then -(num : Int) else num, den)

def mul : Double → Double → Double
  | .finite s m e, .finite t n f =>
    let (a, b) := ratio m e
    let (c, d) := ratio n f
    ofRatio (s != t) (a * c) (b * d)
  | .infinite s, .infinite t => .infinite (s != t)
  | .infinite s, .finite t n _ => if n = 0 then .undefined else .infinite (s != t)
  | .finite s m _, .infinite t => if m = 0 then .undefined else .infinite (s != t)
  | _, _ => .undefined

def div : Double → Double → Double
  | .finite s m e, .finite t n f =>
    let (a, b) := ratio m e
    let (c, d) := ratio n f
    if c ≠ 0 then ofRatio (s != t) (a * d) (b * c)
    else if a = 0 then .undefined
    else .infinite (s != t)
  | .infinite s, .finite t _ _ => .infinite (s != t)
  | .finite s _ _, .infinite t => zero (s != t)
  | _, _ => .undefined

def add : Double → Double → Double
  | .finite s m e, .finite t n f =>
    let (a, b) := signedRatio s m e
    let (c, d) := signedRatio t n f
    let sum := a * d + c * b
    if sum = 0 then zero (s && t) else ofRatio (sum < 0) sum.natAbs (b * d)
  | .infinite s, .infinite t => if s = t then .infinite s else .undefined
  | .infinite s, .finite .. => .infinite s
  | .finite .., .infinite t => .infinite t
  | _, _ => .undefined

def sub (x y : Double) : Double := add x y.negate

/-- The remainder of the division toward zero. It has the sign of the dividend. -/
def rem : Double → Double → Double
  | .finite s m e, .finite _ n f =>
    let (a, b) := ratio m e
    let (c, d) := ratio n f
    if c = 0 then .undefined else ofRatio s (a * d % (c * b)) (b * d)
  | x@(.finite ..), .infinite _ => x
  | _, _ => .undefined

def compare? : Double → Double → Option Ordering
  | .finite s m e, .finite t n f =>
    let (a, b) := signedRatio s m e
    let (c, d) := signedRatio t n f
    some (Ord.compare (a * d) (c * b))
  | .infinite s, .infinite t => some (Ord.compare t s)
  | .infinite s, .finite .. => some (if s then .lt else .gt)
  | .finite .., .infinite t => some (if t then .gt else .lt)
  | _, _ => none

def toInt? : Double → Option Int
  | .finite s m e =>
    let (num, den) := signedRatio s m e
    if num % den = 0 then some (num / den) else none
  | _ => none

end Double

end Modforge.Decimal
