import Modforge.Layout.Expr
import Modforge.Text.Digits
import Modforge.Text.Parse

/-! # Reading expressions -/

namespace Modforge.Layout

open Text (Parse valueOfDigits)
open Text.Parse

def isBlank (c : Char) : Bool := c == ' ' || c == '\t' || c == '\r' || c == '\n'

def blanks : Parse Unit := do
  let _ ← takeWhile isBlank

def spaced {α : Type} (p : Parse α) : Parse α := do
  blanks
  p

/-! ## Names, numbers and texts -/

def isNameStart (c : Char) : Bool := Text.isAsciiLower c || Text.isAsciiUpper c || c == '_'

def isNameChar (c : Char) : Bool := isNameStart c || Text.isDigit c

def readIdent : Parse String := do
  let first ← charWhere isNameStart
  let rest ← takeWhile isNameChar
  pure (String.ofList (first :: rest))

def readText : Parse String := do
  let mark ← charWhere fun c => c == '"' || c == '\'' || c == '\x60'
  let text ← takeWhile (· != mark)
  char mark
  pure (String.ofList text)

/-- Digits without leading zeros, and whether a minus sign stands before them. -/
def readDigits : Parse (Bool × List Char) := do
  let negative ← accepts (char '-')
  let first ← charWhere Text.isDigit
  if first == '0' then pure (negative, [first])
  else do
    let rest ← takeWhile Text.isDigit
    pure (negative, first :: rest)

def readInt : Parse Int := do
  let (negative, digits) ← readDigits
  let n : Int := valueOfDigits digits
  pure (if negative then -n else n)

def readFloat : Parse Decimal.Double := do
  let (negative, whole) ← readDigits
  char '.'
  let places ← takeWhile1 Text.isDigit
  pure (.ofDecimal negative (valueOfDigits (whole ++ places)) (-(places.length : Int)))

def readWordInt : Parse Int := do
  let n ← readInt
  if Decimal.fitsSigned 64 n then pure n else failure

/-- A key after a dot or in brackets, where another reference may stand. -/
def readKey (inner : Parse String) : Parse Unit :=
  (do
    char '.'
    let _ ← takeWhile1 isNameChar) <|>
  (do
    char '['
    (do let _ ← readInt) <|> (do let _ ← readText) <|> (do let _ ← inner)
    char ']')

def readReference : Nat → Parse String
  | 0 => failure
  | fuel + 1 => String.ofList <$> taken do
    let _ ← readIdent
    let _ ← many (readKey (readReference fuel))

def readFlag : Parse Bool :=
  (do word "true"; pure true) <|>
  (do word "false"; pure false) <|>
  (do word "True"; pure true) <|>
  (do word "False"; pure false)

/-! ## Operators -/

def readOpWord (text : String) : Parse Unit := do
  word text
  let _ ← charWhere isBlank

def readMathOp : Parse MathOp :=
  (do char '+'; pure .add) <|>
  (do char '-'; pure .sub) <|>
  (do char '*'; pure .mul) <|>
  (do char '/'; pure .div) <|>
  (do char '%'; pure .mod)

def readCompareOp : Parse CompareOp :=
  (do word "<="; pure .le) <|>
  (do word ">="; pure .ge) <|>
  (do word ">"; pure .gt) <|>
  (do word "<"; pure .lt) <|>
  (do word "=="; pure .eq) <|>
  (do word "!="; pure .ne)

def MathOp.isTight : MathOp → Bool
  | .mul | .div | .mod => true
  | .add | .sub => false

/-- Joins operands from the left; the tight operators are joined first. -/
def joinMath (first : Expr) (rest : List (MathOp × Expr)) : Expr :=
  let (sum, last) := rest.foldl step (none, first)
  close sum last
where
  close (sum : Option (Expr × MathOp)) (last : Expr) : Expr :=
    match sum with
    | none => last
    | some (left, op) => (Core.math op left last).plain
  step (state : Option (Expr × MathOp) × Expr) (next : MathOp × Expr) :
      Option (Expr × MathOp) × Expr :=
    let (sum, last) := state
    let (op, operand) := next
    if op.isTight then (sum, (Core.math op last operand).plain)
    else (some (close sum last, op), operand)

/-- Joins conditions from the left; `true` marks an `and`, which is joined first. -/
def joinLogic (first : Expr) (rest : List (Bool × Expr)) : Expr :=
  let (sum, last) := rest.foldl step (none, first)
  close sum last
where
  close (sum : Option Expr) (last : Expr) : Expr :=
    match sum with
    | none => last
    | some left => (Core.either left last).plain
  step (state : Option Expr × Expr) (next : Bool × Expr) : Option Expr × Expr :=
    let (sum, last) := state
    let (isAnd, operand) := next
    if isAnd then (sum, (Core.both last operand).plain)
    else (some (close sum last), operand)

def withFilters (filters : List Call) : Expr → Expr
  | .mk core _ negated => .mk core filters negated

def joinParts (parts : List Core) : Core :=
  match parts.mapM fun | .text value => some value | _ => none with
  | some texts => .text (String.join texts)
  | none => .concat parts

/-- The arguments without those whose name comes again. -/
def lastOfNames (args : List (String × Expr)) : List (String × Expr) :=
  args.foldr (fun arg later => if later.any (·.1 == arg.1) then later else arg :: later) []

/-! ## Expressions -/

mutual

def readCall : Nat → Parse Call
  | 0 => failure
  | fuel + 1 => do
    let name ← readIdent
    spaced (char '(')
    let args ← maybe (spaced (readArgs fuel))
    spaced (char ')')
    pure (.mk name (args.getD []))

def readArgs : Nat → Parse (List (String × Expr))
  | 0 => failure
  | fuel + 1 => do
    let first ← readArg fuel
    let rest ← many do
      spaced (char ',')
      spaced (readArg fuel)
    let _ ← accepts (spaced (char ','))
    pure (lastOfNames (first :: rest))

def readArg : Nat → Parse (String × Expr)
  | 0 => failure
  | fuel + 1 => do
    let name ← readIdent
    spaced (char '=')
    let value ← spaced (readLogic fuel <|> readListFiltered fuel)
    pure (name, value)

def readFilters : Nat → Parse (List Call)
  | 0 => failure
  | fuel + 1 => many do
    spaced (char '|')
    spaced (readCall fuel <|> (do
      let name ← readIdent
      pure (.mk name [])))

def readList : Nat → Parse Expr
  | 0 => failure
  | fuel + 1 => do
    char '['
    let items ← many do
      let item ← spaced (readLogicVal fuel)
      spaced (char ',')
      pure item
    let last ← maybe (spaced (readLogicVal fuel))
    spaced (char ']')
    pure (Core.list (items ++ last.toList)).plain

def readListFiltered : Nat → Parse Expr
  | 0 => failure
  | fuel + 1 => do
    let list ← readList fuel
    let filters ← readFilters fuel
    pure (withFilters filters list)

def readTest : Nat → Parse Core
  | 0 => failure
  | fuel + 1 => do
    let reference ← readReference fuel
    spaced (word "is")
    let (negated, name) ←
      (do
        spaced (word "not")
        let name ← spaced readIdent
        pure (true, name)) <|>
      (do
        let name ← spaced readIdent
        pure (false, name))
    let args ← maybe do
      spaced (char '(')
      let first ← spaced (readTestArg fuel)
      let rest ← many do
        spaced (char ',')
        spaced (readTestArg fuel)
      spaced (char ')')
      pure (first :: rest)
    pure (.test reference negated name (args.getD []))

def readTestArg : Nat → Parse Expr
  | 0 => failure
  | fuel + 1 => readLogic fuel <|> readListFiltered fuel

def readScopedCall : Nat → Parse Core
  | 0 => failure
  | fuel + 1 => do
    let _ ← readIdent
    spaced (word "::")
    let _ ← spaced (readCall fuel)
    pure .unavailable

def readOperand : Nat → Parse Expr
  | 0 => failure
  | fuel + 1 =>
    (do let flag ← readFlag; pure (Core.flag flag).plain) <|>
    (do let test ← readTest fuel; pure test.plain) <|>
    (do let call ← readScopedCall fuel; pure call.plain) <|>
    (do let call ← readCall fuel; pure (Core.call call).plain) <|>
    (do let reference ← readReference fuel; pure (Core.name reference).plain) <|>
    (do let x ← readFloat; pure (Core.float x).plain) <|>
    (do let n ← readWordInt; pure (Core.int n).plain)

def readTerm : Nat → Parse Expr
  | 0 => failure
  | fuel + 1 =>
    (do
      char '('
      let inner ← spaced (readMath fuel)
      spaced (char ')')
      pure inner) <|>
    readOperand fuel

def readMath : Nat → Parse Expr
  | 0 => failure
  | fuel + 1 => do
    let first ← readTerm fuel
    let rest ← many do
      let op ← spaced readMathOp
      let term ← spaced (readTerm fuel)
      pure (op, term)
    pure (joinMath first rest)

def readMathFiltered : Nat → Parse Expr
  | 0 => failure
  | fuel + 1 => do
    let value ← readMath fuel
    let filters ← readFilters fuel
    pure (withFilters filters value)

def readPart : Nat → Parse Core
  | 0 => failure
  | fuel + 1 =>
    (Core.call <$> readCall fuel) <|>
    (Core.float <$> readFloat) <|>
    (Core.int <$> readWordInt) <|>
    (Core.text <$> readText) <|>
    (Core.name <$> readReference fuel)

def readTextFiltered : Nat → Parse Expr
  | 0 => failure
  | fuel + 1 => do
    let core ← (do
        let first ← readPart fuel
        let rest ← many1 do
          spaced (char '~')
          spaced (readPart fuel)
        pure (joinParts (first :: rest))) <|>
      (Core.text <$> readText)
    let filters ← readFilters fuel
    pure (.mk core filters false)

def readCompared : Nat → Parse Expr
  | 0 => failure
  | fuel + 1 =>
    readTextFiltered fuel <|>
    (do
      let first ← readMathFiltered fuel
      let rest ← many do
        let op ← spaced readMathOp
        let value ← spaced (readMathFiltered fuel)
        pure (op, value)
      pure (joinMath first rest))

def readComparison : Nat → Parse Expr
  | 0 => failure
  | fuel + 1 => do
    let left ← readCompared fuel
    let right ← maybe do
      let op ← spaced readCompareOp
      let value ← spaced (readCompared fuel)
      pure (op, value)
    match right with
    | none => pure left
    | some (op, value) => pure (Core.compare op left value).plain

def readWithin : Nat → Parse Expr
  | 0 => failure
  | fuel + 1 => do
    let left ← readTextFiltered fuel <|> readMathFiltered fuel
    let negated ← accepts (spaced (readOpWord "not"))
    spaced (word "in")
    let right ← spaced (readTextFiltered fuel <|> readListFiltered fuel <|>
      (do let reference ← readReference fuel; pure (Core.name reference).plain))
    pure (Core.within negated left right).plain

def readLogicVal : Nat → Parse Expr
  | 0 => failure
  | fuel + 1 =>
    (do
      let negated ← accepts (readOpWord "not")
      let value ← spaced (readWithin fuel <|> readComparison fuel)
      pure (.mk value.core value.filters negated)) <|>
    (do
      char '('
      let value ← spaced (readLogic fuel)
      spaced (char ')')
      pure (.mk value.core value.filters false))

def readLogic : Nat → Parse Expr
  | 0 => failure
  | fuel + 1 => do
    let first ← readLogicVal fuel
    let rest ← many do
      let isAnd ← spaced ((do readOpWord "or"; pure false) <|> (do readOpWord "and"; pure true))
      let value ← spaced (readLogicVal fuel)
      pure (isAnd, value)
    pure (joinLogic first rest)

end

def readExpr (fuel : Nat) : Parse Expr := readLogic fuel <|> readListFiltered fuel

def readRange (fuel : Nat) : Parse Expr := readMathFiltered fuel <|> readListFiltered fuel

end Modforge.Layout
