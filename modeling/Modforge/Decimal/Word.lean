/-! # Words: whole numbers of a fixed count of bits -/

namespace Modforge.Decimal

def wordLimit (bits : Nat) : Nat := Nat.pow 2 bits

def fitsUnsigned (bits : Nat) (n : Int) : Bool := 0 ≤ n && n < wordLimit bits

def fitsSigned (bits : Nat) (n : Int) : Bool :=
  -(wordLimit (bits - 1) : Int) ≤ n && n < wordLimit (bits - 1)

end Modforge.Decimal
