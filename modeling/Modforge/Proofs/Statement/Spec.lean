import Modforge.Naming.Rule
import Modforge.Settings

/-! # What a statement may be -/

namespace Modforge

/-- Identifiers with dots between them, none of them reserved. -/
def IsName (text : String) : Prop := ∀ part ∈ Text.split '.' text, Naming.isIdentifier part = true

def IsMember (owner text : String) : Prop := IsName text ∧ ∃ member, text = owner ++ "." ++ member

section

variable (types : GameTypes) (owner space : String)

def IsKey (id text : String) : Prop :=
  IsName types.identifier ∧
    (∀ c ∈ space.toList, Naming.isIdChar c = true) ∧ (∀ c ∈ id.toList, Naming.isIdChar c = true) ∧
    text = "new " ++ types.identifier ++ "(\"" ++ space ++ "\", \"" ++ id ++ "\")"

/-- What is registered: a field, or the item that stands for a block, in a group or in none. -/
inductive IsValue : String → Prop
  | field {field : String} (hfield : IsMember owner field) : IsValue field
  | companion {field : String} (hfield : IsMember owner field)
    (hblockItem : IsName types.blockItem) (hitem : IsName types.item) :
    IsValue ("new " ++ types.blockItem ++ "(" ++ field ++ ", new " ++ types.item ++ ".Settings())")
  | grouped {field group : String} (hfield : IsMember owner field)
    (hblockItem : IsName types.blockItem) (hitem : IsName types.item) (hgroup : IsName group) :
    IsValue ("new " ++ types.blockItem ++ "(" ++ field ++ ", new " ++ types.item ++
      ".Settings().group(" ++ group ++ "))")

/-- A registration of an id, by a method of the container or by the registry of the game, or the
call after all of them. -/
inductive IsStatement : Option String → String → Prop
  | callback {method id key value : String} (hmethod : IsMember owner method)
    (hkey : IsKey types space id key) (hvalue : IsValue types owner value) :
    IsStatement (some id) (method ++ "(" ++ key ++ ", " ++ value ++ ")")
  | registry {kind id key value : String} (hregistry : IsName types.registry)
    (hkind : kind = "BLOCK" ∨ kind = "ITEM") (hkey : IsKey types space id key)
    (hvalue : IsValue types owner value) :
    IsStatement (some id) (types.registry ++ ".register(" ++ types.registry ++ "." ++ kind ++
      ", " ++ key ++ ", " ++ value ++ ")")
  | afterwards {method : String} (hmethod : IsMember owner method) :
    IsStatement none (method ++ "()")

end

/-- What stands outside the string literals of a text, and the texts that they stand for. -/
structure JavaReading where
  code : List Char
  literals : List String
  deriving DecidableEq, Repr

namespace JavaReading

def escape? : Char → Option Char
  | 'b' => some '\x08'
  | 't' => some '\t'
  | 'n' => some '\n'
  | 'f' => some '\x0c'
  | 'r' => some '\r'
  | '"' => some '"'
  | '\'' => some '\''
  | '\\' => some '\\'
  | _ => none

/-- Reads on, in the literal of which the given characters were read or outside of any. A literal
ends on its line. -/
def readFrom : Option (List Char) → List Char → Option JavaReading
  | none, [] => some ⟨[], []⟩
  | some _, [] => none
  | none, '"' :: rest => readFrom (some []) rest
  | none, c :: rest => (readFrom none rest).map fun r => { r with code := c :: r.code }
  | some seen, '"' :: rest =>
    (readFrom none rest).map fun r => { r with literals := String.ofList seen :: r.literals }
  | some seen, '\\' :: c :: rest =>
    (escape? c).bind fun meant => readFrom (some (seen ++ [meant])) rest
  | some seen, c :: rest =>
    if c = '\\' ∨ c = '\n' ∨ c = '\r' then none else readFrom (some (seen ++ [c])) rest

def read (text : String) : Option JavaReading := readFrom none text.toList

/-- How many parentheses are open after a character. One that is not open cannot be closed. -/
def pass (openBefore : Nat) (c : Char) : Option Nat :=
  if c = '(' then some (openBefore + 1)
  else if c = ')' then (if openBefore = 0 then none else some (openBefore - 1))
  else some openBefore

def depth (openBefore : Nat) (code : List Char) : Option Nat := code.foldlM pass openBefore

/-- Code that stays one expression: it ends nothing, opens no literal and no comment, and closes
what it opens. -/
def IsInert (r : JavaReading) : Prop :=
  (∀ c ∈ r.code, c ∉ [';', '"', '\'', '\\', '/', '\n', '\r']) ∧ depth 0 r.code = some 0

instance (r : JavaReading) : Decidable r.IsInert :=
  @instDecidableAnd _ _ (List.decidableBAll _ r.code) _

end JavaReading

/-- The literals of a registration are its namespace and its id. -/
def expectedLiterals (space : String) : Option String → List String
  | some id => [space, id]
  | none => []

end Modforge
