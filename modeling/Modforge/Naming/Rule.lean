import Modforge.Text.Snake

/-! # Rules for namespaces, ids and Java names -/

namespace Modforge.Naming

open Text

inductive Flaw where
  | emptyNamespace
  | namespaceCharacters (name : String)
  | emptyId
  | idCharacters (id : String)
  /-- The id breaks the rule and its snake case form does not. -/
  | idSpelling (id suggestion : String)
  | notIdentifier (name : String)
  | keyword (name : String)
  | notQualified (name : String)
  deriving DecidableEq, Repr

def Flaw.message : Flaw → String
  | .emptyNamespace => "namespace cannot be empty"
  | .namespaceCharacters name =>
    "namespace '" ++ name ++ "' must contain only lowercase letters, digits, '_' and '-'"
  | .emptyId => "id cannot be empty"
  | .idCharacters id =>
    "id '" ++ id ++ "' must contain only lowercase letters, digits, '_', '-', '.' and '/'"
  | .idSpelling id suggestion =>
    "id '" ++ id ++ "' is not a valid resource path; did you mean '" ++ suggestion ++ "'?"
  | .notIdentifier name => "'" ++ name ++ "' is not a valid Java identifier"
  | .keyword name => "'" ++ name ++ "' is a reserved Java keyword"
  | .notQualified name => "'" ++ name ++ "' is not a valid qualified Java name"

def isNamespaceChar (c : Char) : Bool :=
  isAsciiLower c || isDigit c || c == '_' || c == '-'

def isIdChar (c : Char) : Bool :=
  isNamespaceChar c || c == '.' || c == '/'

def isWordOf (inClass : Char → Bool) (text : String) : Bool :=
  !text.toList.isEmpty && text.toList.all inClass

/-- A namespace becomes one directory name, so it holds no dot and no slash. -/
def checkNamespace (name : String) : Except Flaw Unit :=
  if name.toList.isEmpty then .error .emptyNamespace
  else if name.toList.all isNamespaceChar then .ok ()
  else .error (.namespaceCharacters name)

def checkId (id : String) : Except Flaw Unit :=
  if id.toList.isEmpty then .error .emptyId
  else if id.toList.all isIdChar then .ok ()
  else if isWordOf isIdChar (toSnakeCase id) then .error (.idSpelling id (toSnakeCase id))
  else .error (.idCharacters id)

def isIdentifierStart (c : Char) : Bool :=
  isAsciiUpper c || isAsciiLower c || c == '_' || c == '$'

def isIdentifierChar (c : Char) : Bool := isIdentifierStart c || isDigit c

def keywords : List String :=
  ["abstract", "assert", "boolean", "break", "byte", "case", "catch", "char", "class", "const",
    "continue", "default", "do", "double", "else", "enum", "extends", "false", "final",
    "finally", "float", "for", "goto", "if", "implements", "import", "instanceof", "int",
    "interface", "long", "native", "new", "null", "package", "private", "protected", "public",
    "return", "short", "static", "strictfp", "super", "switch", "synchronized", "this",
    "throw", "throws", "transient", "true", "try", "void", "volatile", "while"]

def isIdentifierShape : List Char → Bool
  | [] => false
  | c :: rest => isIdentifierStart c && rest.all isIdentifierChar

def checkIdentifier (name : String) : Except Flaw Unit :=
  if !isIdentifierShape name.toList then .error (.notIdentifier name)
  else if keywords.contains name then .error (.keyword name)
  else .ok ()

/-- Whether `name` is an identifier that Java does not keep for itself. -/
def isIdentifier (name : String) : Bool :=
  isIdentifierShape name.toList && !keywords.contains name

def checkQualified (name : String) : Except Flaw Unit :=
  if (split '.' name).all isIdentifier then .ok () else .error (.notQualified name)

theorem checkIdentifier_eq_ok_iff {name : String} :
    checkIdentifier name = .ok () ↔ isIdentifier name = true := by
  unfold checkIdentifier isIdentifier
  by_cases h₁ : isIdentifierShape name.toList <;> by_cases h₂ : name ∈ keywords <;> simp [h₁, h₂]

theorem isIdentifierChar_of_isIdentifier {name : String} (h : isIdentifier name = true) :
    ∀ c ∈ name.toList, isIdentifierChar c = true := by
  intro c hc
  rw [isIdentifier, Bool.and_eq_true] at h
  cases hname : name.toList with
  | nil => simp [hname] at hc
  | cons first rest =>
    rw [hname, isIdentifierShape, Bool.and_eq_true] at h
    rw [hname] at hc
    rcases List.mem_cons.1 hc with rfl | hc
    · simp [isIdentifierChar, h.1.1]
    · exact List.all_eq_true.1 h.1.2 c hc

theorem checkQualified_eq_ok_iff {name : String} :
    checkQualified name = .ok () ↔ (split '.' name).all isIdentifier = true := by
  unfold checkQualified
  split <;> simp_all

end Modforge.Naming
