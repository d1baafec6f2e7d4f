import Modforge.Form.Loose
import Modforge.Naming.Rule
import Modforge.Text.Letter

/-! # What a declaration may leave to its container -/

namespace Modforge

/-- Stands where the setting of the container is to be taken. -/
def inheritMarker : String := "#$%INHERIT"

/-! ## Templates -/

inductive TemplateChoice where
  | inherit
  | none
  | named (name : String)
  deriving DecidableEq, Repr

namespace TemplateChoice

def ofText (text : String) : TemplateChoice :=
  if text = inheritMarker then .inherit
  else if text = "" then .none
  else .named text

def toText : TemplateChoice → String
  | .inherit => inheritMarker
  | .none => ""
  | .named name => name

def shown : TemplateChoice → String
  | .inherit => "<inherit>"
  | .none => "<none>"
  | .named name => name

end TemplateChoice

/-! ## Companion items -/

inductive CompanionChoice where
  | on
  | off
  | unset
  deriving DecidableEq, Repr

namespace CompanionChoice

def ofFlag (flag : Bool) : CompanionChoice := if flag then .on else .off

def above (choice : CompanionChoice) (default : Bool) : Bool :=
  match choice with
  | .on => true
  | .off => false
  | .unset => default

end CompanionChoice

/-! ## Item groups -/

structure StaticField where
  owner : String
  field : String
  deriving DecidableEq, Repr

namespace StaticField

def shown (f : StaticField) : String := f.owner ++ "." ++ f.field

def check (f : StaticField) : Except Naming.Flaw Unit :=
  match Naming.checkQualified f.owner with
  | .ok () => Naming.checkIdentifier f.field
  | .error flaw => .error flaw

end StaticField

inductive GroupChoice where
  | inherit
  | void
  | field (group : StaticField)
  deriving DecidableEq, Repr

def GroupChoice.ofParts (owner field : String) : GroupChoice :=
  if field = inheritMarker then .inherit
  else if field = "" ∨ owner = "" ∨ owner = "java.lang.Void" ∨ owner = "Void" then .void
  else .field ⟨owner, field⟩

/-! ## Judging loose values -/

inductive Unfit where
  | texts
  | companion
  | companionText (found : String)
  | group
  | groupText (found : String)
  | missingPart (key : String)
  | repeatedPart (key : String)
  | partKind (found : Loose) (expected : String)

def Unfit.message : Unfit → String
  | .texts => "Expected string or array of strings"
  | .companion => "Expected a boolean or 'unset' for auto_block_item"
  | .companionText found => "Expected true, false or unset, found '" ++ found ++ "'"
  | .group =>
    "Expected an Owner.FIELD string, a \x7bowner, field\x7d map or null for item_group"
  | .groupText found => "Item group '" ++ found ++ "' must be written as Owner.FIELD"
  | .missingPart key => "Missing field " ++ key
  | .repeatedPart key => "Duplicate field " ++ key
  | .partKind found expected => "Invalid type " ++ found.describe ++ ". Expected " ++ expected

/-- A list of texts, which a single text may stand for. -/
def textsOf : Loose → Except Unfit (List String)
  | .unit => .ok []
  | .text text => .ok [text]
  | .list items =>
    match items.mapM Loose.asText? with
    | some texts => .ok texts
    | none => .error .texts
  | _ => .error .texts

def CompanionChoice.ofLoose : Loose → Except Unfit CompanionChoice
  | .flag flag => .ok (ofFlag flag)
  | .unit => .ok .unset
  | .text text =>
    let lower := Text.toLower text
    if lower = "true" then .ok .on
    else if lower = "false" then .ok .off
    else if lower = "unset" ∨ lower = "none" ∨ lower = "" then .ok .unset
    else .error (.companionText lower)
  | _ => .error .companion

/-- Which part of a static field a key stands for, by name or by place. Any other name and any
other place stand for none. -/
def StaticField.part? : Loose → Except Unfit (Option Bool)
  | .text key =>
    .ok (if key = "owner" then some true else if key = "field" then some false else none)
  | .nat n => .ok (if n = 0 then some true else if n = 1 then some false else none)
  | key => .error (.partKind key "field identifier")

/-- Reads the entries in turn, over an owner and a field that were read before. -/
def StaticField.ofEntries :
    List (Loose × Loose) → Option String → Option String → Except Unfit StaticField
  | [], some ownerText, some fieldText => .ok ⟨ownerText, fieldText⟩
  | [], none, _ => .error (.missingPart "owner")
  | [], some _, none => .error (.missingPart "field")
  | (key, value) :: rest, ownerText, fieldText => do
    match ← part? key with
    | none => ofEntries rest ownerText fieldText
    | some isOwner =>
      if isOwner && ownerText.isSome then throw (.repeatedPart "owner")
      if !isOwner && fieldText.isSome then throw (.repeatedPart "field")
      match value with
      | .text text =>
        if isOwner then ofEntries rest (some text) fieldText
        else ofEntries rest ownerText (some text)
      | _ => throw (.partKind value "a string")

def GroupChoice.ofText (text : String) : Except Unfit GroupChoice :=
  if text = inheritMarker then .ok .inherit
  else if text = "" ∨ Text.agreesIgnoringAsciiCase text "none" then .ok .void
  else match Text.splitLast '.' text with
    | some (ownerText, fieldText) => .ok (ofParts ownerText fieldText)
    | none => .error (.groupText text)

def GroupChoice.ofLoose : Loose → Except Unfit GroupChoice
  | .unit => .ok .void
  | .text text => ofText text
  | .map entries => (StaticField.ofEntries entries none none).map fun f => ofParts f.owner f.field
  | _ => .error .group

end Modforge
