import Modforge.Json.Fault
import Modforge.Text.Utf8

/-! # Reading a text step by step -/

namespace Modforge.Json

structure Cursor where
  rest : List Char
  place : Place
  deriving Repr

def Cursor.ofText (text : String) : Cursor := ⟨text.toList, ⟨1, 0⟩⟩

def Place.after (place : Place) (c : Char) : Place :=
  if c = '\n' then ⟨place.line + 1, 0⟩ else ⟨place.line, place.column + Text.byteCount c⟩

/-- The place after the first byte of a character. -/
def Place.inside (place : Place) (c : Char) : Place :=
  if c = '\n' then ⟨place.line + 1, 0⟩ else ⟨place.line, place.column + 1⟩

def Cursor.ahead (cursor : Cursor) : Place :=
  match cursor.rest with
  | [] => cursor.place
  | c :: _ => cursor.place.inside c

inductive Step (α : Type) where
  | done (value : α) (next : Cursor)
  | failed (fault : Fault) (next : Cursor)

abbrev Reading (α : Type) := Cursor → Step α

namespace Reading

def andThen {α β : Type} (first : Reading α) (second : α → Reading β) : Reading β := fun cursor =>
  match first cursor with
  | .done value next => second value next
  | .failed fault next => .failed fault next

instance : Monad Reading where
  pure value := fun cursor => .done value cursor
  bind := andThen

/-- Fails at the cursor. -/
def stop {α : Type} (fault : Malformed) : Reading α := fun cursor =>
  .failed ⟨.malformed fault, some cursor.place⟩ cursor

/-- Fails at the character the cursor looks at. -/
def stopAhead {α : Type} (fault : Malformed) : Reading α := fun cursor =>
  .failed ⟨.malformed fault, some cursor.ahead⟩ cursor

/-- Fails with a place that is still to be found. -/
def refuse {α : Type} (fault : Misfit) : Reading α := fun cursor =>
  .failed ⟨.misfit fault, none⟩ cursor

/-- A failure without a place gets the one the reading came to. -/
def located {α : Type} (reading : Reading α) : Reading α := fun cursor =>
  match reading cursor with
  | .failed ⟨cause, none⟩ next => .failed ⟨cause, some next.place⟩ next
  | step => step

def peek : Reading (Option Char) := fun cursor => .done cursor.rest.head? cursor

def skip : Reading Unit := fun cursor =>
  match cursor.rest with
  | [] => .done () cursor
  | c :: rest => .done () ⟨rest, cursor.place.after c⟩

def takeWhile (inClass : Char → Bool) : Reading (List Char) := fun cursor =>
  let taken := cursor.rest.takeWhile inClass
  .done taken ⟨cursor.rest.dropWhile inClass, taken.foldl Place.after cursor.place⟩

def isBlank (c : Char) : Bool := c == ' ' || c == '\n' || c == '\t' || c == '\r'

/-- What stands after blanks. -/
def peekToken : Reading (Option Char) := do
  let _ ← takeWhile isBlank
  peek

/-- Two steps for each character left, and two to see the end. -/
def fuel : Reading Nat := fun cursor => .done (2 * cursor.rest.length + 2) cursor

end Reading

end Modforge.Json
