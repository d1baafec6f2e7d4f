import Modforge.Text.Letter

/-! # Quoted text, as messages show it -/

namespace Modforge.Text

def hexDigit (n : Nat) : Char :=
  if n < 10 then Char.ofNat (48 + n) else Char.ofNat (87 + n)

def hexBelow : Nat → Nat → List Char → List Char
  | 0, _, done => done
  | fuel + 1, n, done =>
    let done := hexDigit (n % 16) :: done
    if n < 16 then done else hexBelow fuel (n / 16) done

def hexChars (n : Nat) : List Char := hexBelow 8 n []

def isHidden (c : Char) : Bool :=
  if isAscii c then c.toNat < 32 || c.toNat == 127 else inRanges ClassTable.hidden c.toNat

def quoteChar (c : Char) : List Char :=
  if c = '"' then ['\\', '"']
  else if c = '\\' then ['\\', '\\']
  else if c = '\n' then ['\\', 'n']
  else if c = '\r' then ['\\', 'r']
  else if c = '\t' then ['\\', 't']
  else if c.toNat = 0 then ['\\', '0']
  else if isHidden c then ['\\', 'u', '\x7b'] ++ hexChars c.toNat ++ ['\x7d']
  else [c]

def quoted (text : String) : String :=
  String.ofList ('"' :: text.toList.flatMap quoteChar ++ ['"'])

end Modforge.Text
