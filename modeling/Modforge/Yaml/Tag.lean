import Modforge.Text.Digits
import Modforge.Text.Utf8
import Modforge.Yaml.Token

/-! # Tags, anchors and directives -/

namespace Modforge.Yaml

/-- Characters of an address besides escapes. Between angle brackets there are more. -/
def isAddressChar (inAngles : Bool) (c : Char) : Bool :=
  isNameChar c || ";/?:@&=+$.!~*'()".toList.contains c || (inAngles && ",[]".toList.contains c)

def followersOf? (byte : Nat) : Option Nat :=
  if byte < 0x80 then some 0
  else if 0xC0 ≤ byte ∧ byte < 0xE0 then some 1
  else if 0xE0 ≤ byte ∧ byte < 0xF0 then some 2
  else if 0xF0 ≤ byte ∧ byte < 0xF8 then some 3
  else none

/-- Reads an address, `missing` bytes of an escaped character being still to come. -/
def readAddress (inAngles : Bool) : Nat → List Char → Option (List UInt8 × List Char)
  | missing, '%' :: a :: b :: rest => do
    let high ← Text.hexValue? a
    let low ← Text.hexValue? b
    let byte := 16 * high + low
    let missing ←
      if missing = 0 then followersOf? byte
      else if byte / 64 = 2 then some (missing - 1) else none
    let (bytes, rest) ← readAddress inAngles missing rest
    pure (byte.toUInt8 :: bytes, rest)
  | 0, c :: rest =>
    if c == '%' then none
    else if isAddressChar inAngles c then
      (readAddress inAngles 0 rest).map fun (bytes, rest) => (c.toNat.toUInt8 :: bytes, rest)
    else some ([], c :: rest)
  | 0, [] => some ([], [])
  | _ + 1, _ => none

/-- An address with something in it. A zero byte ends it early. -/
def readAddress1 (inAngles : Bool) (text : List Char) : Option (List UInt8 × List Char) := do
  let (bytes, rest) ← readAddress inAngles 0 text
  if bytes.isEmpty then none else some (bytes.takeWhile (· != 0), rest)

def bytesOf (text : String) : List UInt8 := text.toUTF8.toList

/-- Reads a tag whose exclamation mark was taken: a whole one between angle brackets, or a
handle and the rest of it. -/
def readTag : List Char → Option (Token × List Char)
  | '<' :: text => do
    let (bytes, rest) ← readAddress1 true text
    match rest with
    | '>' :: rest => some (.tag "" bytes, rest)
    | _ => none
  | text => do
    let name := text.takeWhile isNameChar
    match text.drop name.length with
    | '!' :: rest =>
      let (bytes, rest) ← readAddress1 false rest
      pure (.tag (String.ofList ('!' :: name ++ ['!'])) bytes, rest)
    | rest =>
      let (bytes, rest) ← readAddress false 0 rest
      let bytes := (bytesOf (String.ofList name) ++ bytes).takeWhile (· != 0)
      pure (if bytes.isEmpty then .tag "" (bytesOf "!") else .tag "!" bytes, rest)

/-- Reads a name, after which a word is over or a mark follows. -/
def readName (text : List Char) : Option (String × List Char) :=
  let name := text.takeWhile isNameChar
  let rest := text.drop name.length
  if name.isEmpty then none
  else if endsWord rest || rest.head?.any "?:,]\x7d%@\x60".toList.contains then
    some (String.ofList name, rest)
  else none

def readVersionPart (text : List Char) : Option (Nat × List Char) :=
  let digits := text.takeWhile Text.isDigit
  if digits.isEmpty ∨ 9 < digits.length then none
  else some (Text.valueOfDigits digits, text.drop digits.length)

def readVersion (text : List Char) : Option (Token × List Char) := do
  let (major, rest) ← readVersionPart text
  match rest with
  | '.' :: rest =>
    let (minor, rest) ← readVersionPart rest
    pure (.version (major == 1 && (minor == 1 || minor == 2)), rest)
  | _ => none

/-- A handle is one exclamation mark, or two with a name or nothing between them. -/
def readHandle : List Char → Option (String × List Char)
  | '!' :: text =>
    let name := text.takeWhile isNameChar
    match text.drop name.length with
    | '!' :: rest => some (String.ofList ('!' :: name ++ ['!']), rest)
    | rest => if name.isEmpty then some ("!", rest) else none
  | _ => none

def readHandleStart (text : List Char) : Option (Token × List Char) := do
  let (name, rest) ← readHandle text
  if !rest.head?.any isBlank then none
  else
    let (start, rest) ← readAddress1 true (rest.dropWhile isBlank)
    if endsWord rest then some (.handle name start, rest) else none

def readDirective (text : List Char) : Option (Token × List Char) :=
  let name := text.takeWhile isNameChar
  let rest := text.drop name.length
  if !endsWord rest then none
  else if name = ['Y', 'A', 'M', 'L'] then readVersion (rest.dropWhile isBlank)
  else if name = ['T', 'A', 'G'] then readHandleStart (rest.dropWhile isBlank)
  else none

end Modforge.Yaml
