import Modforge.Decimal.Word
import Modforge.Json.Cursor
import Modforge.Text.Digits

/-! # Words, texts and numbers of JSON, kept or skipped -/

namespace Modforge.Json

open Decimal (Double wordLimit)
open Reading

/-! ## Words -/

/-- The rest of a word whose first letter was taken. -/
def readWord : List Char → Reading Unit
  | [] => pure ()
  | c :: word => fun cursor =>
    match cursor.rest with
    | [] => stop .endInValue cursor
    | d :: rest =>
      if d = c then readWord word ⟨rest, cursor.place.after d⟩
      else .failed ⟨.malformed .noWord, some (cursor.place.inside d)⟩ cursor

/-! ## Texts -/

/-- The cursor some bytes ahead. The last character may be cut in two. -/
def Cursor.skipBytes : Nat → List Char → Place → Cursor
  | 0, rest, place => ⟨rest, place⟩
  | _, [], place => ⟨[], place⟩
  | n + 1, c :: rest, place =>
    let size := Text.byteCount c
    if size ≤ n + 1 then skipBytes (n + 1 - size) rest (place.after c)
    else ⟨c :: rest, ⟨place.line, place.column + (n + 1)⟩⟩
termination_by n rest => n + rest.length

def readHex : Reading Nat := fun cursor =>
  if Text.byteLength cursor.rest < 4 then
    let last := cursor.rest.foldl Place.after cursor.place
    stop .endInText ⟨[], last⟩
  else
    let next := Cursor.skipBytes 4 cursor.rest cursor.place
    match (cursor.rest.take 4).mapM Text.hexValue? with
    | some [a, b, c, d] => .done (((a * 16 + b) * 16 + c) * 16 + d) next
    | _ => stop .badEscape next

def isHighHalf (n : Nat) : Bool := 0xD800 ≤ n && n ≤ 0xDBFF

def isLowHalf (n : Nat) : Bool := 0xDC00 ≤ n && n ≤ 0xDFFF

/-- Takes a character that must follow a first surrogate. -/
def takeOfPair (c : Char) : Reading Unit := do
  match ← peek with
  | none => stop .endInText
  | some d =>
    if d = c then skip
    else fun cursor => .failed ⟨.malformed .hexEscapeEnds, some (cursor.place.inside d)⟩ cursor

/-- The character of an escape by number, which takes two for those beyond four digits. -/
def readNumbered : Reading Char := do
  let high ← readHex
  if isLowHalf high then stop .loneSurrogate
  else if isHighHalf high then do
    takeOfPair '\\'
    takeOfPair 'u'
    let low ← readHex
    if isLowHalf low then
      pure (Char.ofNat ((high - 0xD800) * 0x400 + (low - 0xDC00) + 0x10000))
    else stop .loneSurrogate
  else pure (Char.ofNat high)

def plainEscape? : Char → Option Char
  | '"' => some '"'
  | '\\' => some '\\'
  | '/' => some '/'
  | 'b' => some (Char.ofNat 8)
  | 'f' => some (Char.ofNat 12)
  | 'n' => some '\n'
  | 'r' => some '\r'
  | 't' => some '\t'
  | _ => none

def readEscape : Reading Char := fun cursor =>
  match cursor.rest with
  | [] => stop .endInText cursor
  | c :: rest =>
    let next : Cursor := ⟨rest, cursor.place.after c⟩
    match plainEscape? c with
    | some d => .done d next
    | none =>
      if c = 'u' then readNumbered next
      else .failed ⟨.malformed .badEscape, some (cursor.place.inside c)⟩ next

/-- The rest of a text whose opening quote was taken; `done` in reverse is what was read. -/
def readTextBelow : Nat → List Char → Reading String
  | 0, _ => stop .endInText
  | fuel + 1, done => fun cursor =>
    match cursor.rest with
    | [] => stop .endInText cursor
    | c :: rest =>
      let next : Cursor := ⟨rest, cursor.place.after c⟩
      if c = '"' then .done (String.ofList done.reverse) next
      else if c = '\\' then
        match readEscape next with
        | .done d next => readTextBelow fuel (d :: done) next
        | .failed fault next => .failed fault next
      else if c.toNat < 32 then stop .controlCharacter next
      else readTextBelow fuel (c :: done) next

def readText : Reading String := do
  let n ← fuel
  readTextBelow n []

def skipEscape : Reading Unit := fun cursor =>
  match cursor.rest with
  | [] => stop .endInText cursor
  | c :: rest =>
    let next : Cursor := ⟨rest, cursor.place.after c⟩
    if (plainEscape? c).isSome then .done () next
    else if c = 'u' then (do let _ ← readHex; pure ()) next
    else .failed ⟨.malformed .badEscape, some (cursor.place.inside c)⟩ next

def skipTextBelow : Nat → Reading Unit
  | 0 => stop .endInText
  | fuel + 1 => fun cursor =>
    match cursor.rest with
    | [] => stop .endInText cursor
    | c :: rest =>
      let next : Cursor := ⟨rest, cursor.place.after c⟩
      if c = '"' then .done () next
      else if c = '\\' then
        match skipEscape next with
        | .done () next => skipTextBelow fuel next
        | .failed fault next => .failed fault next
      else if c.toNat < 32 then stop .controlCharacter cursor
      else skipTextBelow fuel next

def skipText : Reading Unit := do
  let n ← fuel
  skipTextBelow n

/-! ## Numbers -/

def isExponentMark (c : Char) : Bool := c == 'e' || c == 'E'

/-- Takes digits onto `n` while the number stays below the limit. The digits taken are counted. -/
def takeDigits (limit : Nat) : Nat → Nat → List Char → Place → (Nat × Nat) × Cursor
  | n, count, [], place => ((n, count), ⟨[], place⟩)
  | n, count, c :: rest, place =>
    if Text.isDigit c && n * 10 + (c.toNat - 48) < limit then
      takeDigits limit (n * 10 + (c.toNat - 48)) (count + 1) rest (place.after c)
    else ((n, count), ⟨c :: rest, place⟩)

def readDigits (limit n : Nat) : Reading (Nat × Nat) := fun cursor =>
  let (result, next) := takeDigits limit n 0 cursor.rest cursor.place
  .done result next

def peekDigit : Reading Bool := do
  match ← peek with
  | some c => pure (Text.isDigit c)
  | none => pure false

/-- Divides by the largest power of ten at hand until the exponent is in reach. -/
def shrink : Nat → Double → Int → Double × Int
  | 0, x, exponent => (x, exponent)
  | fuel + 1, x, exponent =>
    if exponent < -308 ∧ !x.isZero then
      shrink fuel (x.div (.ofDecimal false 1 308)) (exponent + 308)
    else (x, exponent)

/-- `digits · 10 ^ exponent`, each factor and their product rounded on its own; `none` when it is
too large. -/
def floatOfParts? (digits : Nat) (exponent : Int) : Option Double :=
  let x := Double.ofNat digits
  if x.isZero then some x
  else if 308 < exponent then none
  else if 0 ≤ exponent then
    let y := x.mul (.ofDecimal false 1 exponent)
    if y.isFinite then some y else none
  else
    let (x, exponent) := shrink 4 x exponent
    if x.isZero then some x else some (x.div (.ofDecimal false 1 (-exponent)))

def finishFloat (negative : Bool) (digits : Nat) (exponent : Int) : Reading Json := do
  match floatOfParts? digits exponent with
  | some x => pure (.float (if negative then x.negate else x))
  | none => stop .numberTooLarge

def readExponent (negative : Bool) (digits : Nat) (exponent : Int) : Reading Json := do
  skip
  let sign ← peek
  if sign == some '+' || sign == some '-' then skip
  let down := sign == some '-'
  match ← peek with
  | none => stop .endInValue
  | some c =>
    if !Text.isDigit c then
      fun cursor => .failed ⟨.malformed .badNumber, some (cursor.place.inside c)⟩ cursor
    else do
      let (n, _) ← readDigits (wordLimit 31) 0
      if ← peekDigit then
        skip
        if digits ≠ 0 && !down then stop .numberTooLarge
        else do
          let _ ← takeWhile Text.isDigit
          pure (.float (Double.zero negative))
      else finishFloat negative digits (if down then exponent - n else exponent + n)

def readFloatEnd (negative : Bool) (digits : Nat) (exponent : Int) : Reading Json := do
  match ← peek with
  | some c =>
    if isExponentMark c then readExponent negative digits exponent
    else finishFloat negative digits exponent
  | none => finishFloat negative digits exponent

/-- The digits after a point. Those that no longer fit are passed over. -/
def readFraction (negative : Bool) (digits : Nat) (exponent : Int) : Reading Json := do
  skip
  let (n, count) ← readDigits (wordLimit 64) digits
  if ← peekDigit then
    let _ ← takeWhile Text.isDigit
    readFloatEnd negative n (exponent - count)
  else if count = 0 then
    match ← peek with
    | some _ => stopAhead .badNumber
    | none => stopAhead .endInValue
  else readFloatEnd negative n (exponent - count)

/-- A number whose whole part is `digits · 10 ^ exponent`. -/
def readNumberEnd (negative : Bool) (digits : Nat) (exponent : Nat) : Reading Json := do
  match ← peek with
  | some c =>
    if c = '.' then readFraction negative digits exponent
    else if isExponentMark c then readExponent negative digits exponent
    else whole
  | none => whole
where
  whole : Reading Json :=
    if exponent ≠ 0 then finishFloat negative digits exponent
    else if !negative then pure (.int digits)
    else if digits = 0 || wordLimit 63 < digits then pure (.float (Double.ofNat digits).negate)
    else pure (.int (-(digits : Int)))

/-- A number whose sign was taken. -/
def readNumber (negative : Bool) : Reading Json := do
  match ← peek with
  | none => stop .endInValue
  | some c =>
    if c = '0' then
      skip
      if ← peekDigit then stopAhead .badNumber else readNumberEnd negative 0 0
    else if Text.isDigit c then
      let (n, _) ← readDigits (wordLimit 64) 0
      let more ← takeWhile Text.isDigit
      readNumberEnd negative n more.length
    else fun cursor => .failed ⟨.malformed .badNumber, some (cursor.place.inside c)⟩ cursor

def skipDigit : Reading Unit := fun cursor =>
  match cursor.rest with
  | [] => stop .badNumber cursor
  | c :: rest =>
    if Text.isDigit c then .done () ⟨rest, cursor.place.after c⟩
    else .failed ⟨.malformed .badNumber, some (cursor.place.inside c)⟩ cursor

def skipExponent : Reading Unit := do
  skip
  let sign ← peek
  if sign == some '+' || sign == some '-' then skip
  skipDigit
  let _ ← takeWhile Text.isDigit

def skipFraction : Reading Unit := do
  skip
  let digits ← takeWhile Text.isDigit
  if digits.isEmpty then stopAhead .badNumber
  else match ← peek with
    | some c => if isExponentMark c then skipExponent else pure ()
    | none => pure ()

def skipNumber : Reading Unit := do
  let first ← peek
  skipDigit
  if first == some '0' then
    if ← peekDigit then stopAhead .badNumber
  else
    let _ ← takeWhile Text.isDigit
  match ← peek with
  | some c =>
    if c = '.' then skipFraction
    else if isExponentMark c then skipExponent
    else pure ()
  | none => pure ()

end Modforge.Json
