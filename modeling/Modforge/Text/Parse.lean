/-! # Small parsers -/

namespace Modforge.Text

abbrev Parse := StateT (List Char) Option

namespace Parse

def anyChar : Parse Char := fun
  | [] => none
  | c :: rest => some (c, rest)

def charWhere (inClass : Char → Bool) : Parse Char := fun
  | [] => none
  | c :: rest => if inClass c then some (c, rest) else none

def char (c : Char) : Parse Unit := do
  let _ ← charWhere (· == c)

def exactly : List Char → Parse Unit
  | [] => pure ()
  | c :: more => do
    char c
    exactly more

def word (text : String) : Parse Unit := exactly text.toList

def takeWhile (inClass : Char → Bool) : Parse (List Char) := fun text =>
  some (text.takeWhile inClass, text.dropWhile inClass)

def takeWhile1 (inClass : Char → Bool) : Parse (List Char) := do
  let taken ← takeWhile inClass
  if taken.isEmpty then failure else pure taken

/-- The rest is taken up to the pattern, and so is the pattern. -/
def upTo (pattern : List Char) : List Char → Option (List Char × List Char)
  | [] => if pattern.isEmpty then some ([], []) else none
  | c :: rest =>
    if pattern.isPrefixOf (c :: rest) then some ([], (c :: rest).drop pattern.length)
    else (upTo pattern rest).map fun (taken, rest) => (c :: taken, rest)

def maybe {α : Type} (p : Parse α) : Parse (Option α) := some <$> p <|> pure none

/-- Whether the parser succeeds; it takes what it then takes. -/
def accepts {α : Type} (p : Parse α) : Parse Bool := (do let _ ← p; pure true) <|> pure false

def manyBelow {α : Type} : Nat → Parse α → Parse (List α)
  | 0, _ => pure []
  | fuel + 1, p => do
    match ← maybe p with
    | none => pure []
    | some a => (a :: ·) <$> manyBelow fuel p

/-- As many as there are, each of which takes a character or more. -/
def many {α : Type} (p : Parse α) : Parse (List α) := do
  let text ← get
  manyBelow (text.length + 1) p

def many1 {α : Type} (p : Parse α) : Parse (List α) := do
  let a ← p
  (a :: ·) <$> many p

def taken {α : Type} (p : Parse α) : Parse (List Char) := fun text =>
  (p text).map fun (_, rest) => (text.take (text.length - rest.length), rest)

def run {α : Type} (p : Parse α) (text : List Char) : Option α :=
  match p text with
  | some (a, []) => some a
  | _ => none

end Parse

end Modforge.Text
