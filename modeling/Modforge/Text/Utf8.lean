/-! # Bytes as text -/

namespace Modforge.Text

/-- How many bytes follow a lead byte, and the bounds of the first that follows. -/
def utf8Lead (b : Nat) : Option (Nat × Nat × Nat) :=
  if 0xC2 ≤ b ∧ b ≤ 0xDF then some (1, 0x80, 0xBF)
  else if b = 0xE0 then some (2, 0xA0, 0xBF)
  else if b = 0xED then some (2, 0x80, 0x9F)
  else if 0xE1 ≤ b ∧ b ≤ 0xEF then some (2, 0x80, 0xBF)
  else if b = 0xF0 then some (3, 0x90, 0xBF)
  else if 0xF1 ≤ b ∧ b ≤ 0xF3 then some (3, 0x80, 0xBF)
  else if b = 0xF4 then some (3, 0x80, 0x8F)
  else none

/-- A sequence that is being read: its bits so far, the bytes still to come and the bounds of
the next one. -/
structure Utf8Open where
  bits : Nat
  missing : Nat
  low : Nat
  high : Nat

/-- Reads bytes into characters, `none` where bytes form no character. -/
def utf8Chars : Option Utf8Open → List UInt8 → List (Option Char)
  | none, [] => []
  | some _, [] => [none]
  | pending, byte :: rest =>
    let b := byte.toNat
    let fresh : Unit → List (Option Char) := fun _ =>
      if b < 0x80 then some (Char.ofNat b) :: utf8Chars none rest
      else match utf8Lead b with
        | some (missing, low, high) =>
          let bits := b % Nat.pow 2 (6 - missing)
          utf8Chars (some ⟨bits, missing, low, high⟩) rest
        | none => none :: utf8Chars none rest
    match pending with
    | none => fresh ()
    | some p =>
      if p.low ≤ b ∧ b ≤ p.high then
        let bits := p.bits * 64 + b % 64
        if p.missing = 1 then some (Char.ofNat bits) :: utf8Chars none rest
        else utf8Chars (some ⟨bits, p.missing - 1, 0x80, 0xBF⟩) rest
      else none :: fresh ()

def ofUtf8? (bytes : List UInt8) : Option String :=
  ((utf8Chars none bytes).mapM id).map String.ofList

def ofUtf8Lossy (bytes : List UInt8) : String :=
  String.ofList ((utf8Chars none bytes).map fun c => c.getD '\ufffd')

def byteCount (c : Char) : Nat :=
  if c.toNat < 0x80 then 1 else if c.toNat < 0x800 then 2 else if c.toNat < 0x10000 then 3 else 4

def byteLength (text : List Char) : Nat := text.foldl (fun n c => n + byteCount c) 0

end Modforge.Text
