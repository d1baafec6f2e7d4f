import Modforge.Text.Split

/-! # Paths, as they were written -/

namespace Modforge.Path

open Text

def isAbsolute (path : String) : Bool := path.toList.head? == some '/'

/-- `right` under `left`. An absolute right side stands alone. -/
def join (left right : String) : String :=
  if isAbsolute right then right
  else if left.toList.isEmpty || left.toList.getLast? == some '/' then left ++ right
  else left ++ "/" ++ right

def joinAll (names : List String) : String := names.foldl join ""

/-- What names nothing: an empty piece, and a dot for the folder itself. -/
def isIdle (piece : List Char) : Bool := piece == [] || piece == ['.']

/-- The root, or the dot a path begins with, and the pieces of the rest. -/
def lead : List Char → List Char × List (List Char)
  | '/' :: rest => (['/'], splitChars '/' rest)
  | ['.'] => (['.'], [])
  | '.' :: '/' :: rest => (['.'], [] :: splitChars '/' rest)
  | text => ([], splitChars '/' text)

/-- The pieces up to the last one that names something. -/
def trimPieces (pieces : List (List Char)) : List (List Char) :=
  (pieces.reverse.dropWhile isIdle).reverse

def parent? (path : String) : Option String :=
  let (start, pieces) := lead path.toList
  match (trimPieces pieces).reverse with
  | _ :: before =>
    some (String.ofList (start ++ joinChars ['/'] (trimPieces before.reverse)))
  | [] => if start == ['.'] then some "" else none

/-- What follows the last dot of the last name. A name that only begins with a dot has no
extension. -/
def extension? (path : String) : Option String :=
  match (trimPieces (lead path.toList).2).getLast? with
  | some name =>
    if name == ['.', '.'] then none
    else match splitLastChars '.' name with
      | some (stem, ending) => if stem.isEmpty then none else some (String.ofList ending)
      | none => none
  | none => none

end Modforge.Path
