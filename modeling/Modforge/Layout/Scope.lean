import Modforge.Layout.Reference

/-! # Scopes: what the names in a layout stand for -/

namespace Modforge.Layout

/-- One round of a loop. Its value may be missing. -/
structure Round where
  name : String
  value : Option Json
  index : Nat
  isLast : Bool

/-- Variables that live as long as a round, or as the whole layout. -/
structure Frame where
  vars : List (String × Json)
  round : Option Round

/-- Innermost frames come first. The last one is that of the layout. -/
structure Scope where
  frames : List Frame
  given : List (String × Json)

def placeOf? (name : String) : Option Nat :=
  let digits := name.toList
  if digits.isEmpty || !digits.all Text.isDigit then none
  else if digits.head? == some '0' && digits.length ≠ 1 then none
  else some (digits.foldl (fun n c => n * 10 + (c.toNat - 48)) 0)

def valueAt? : Json → List String → Option Json
  | value, [] => some value
  | .object entries, key :: keys => (entries.lookup key).bind (valueAt? · keys)
  | .list items, key :: keys => (placeOf? key).bind fun n => (items[n]?).bind (valueAt? · keys)
  | _, _ :: _ => none

/-- What a round says about itself. Names that begin with `loop` are never those of its value. -/
def Round.about? (round : Round) (reference : List Char) : Option Json :=
  if ['l', 'o', 'o', 'p'].isPrefixOf reference then
    match String.ofList reference with
    | "loop.index" => some (.int (round.index + 1))
    | "loop.index0" => some (.int round.index)
    | "loop.first" => some (.flag (round.index == 0))
    | "loop.last" => some (.flag round.isLast)
    | _ => none
  else
    (Reference.keysAfter? round.name reference).bind fun keys =>
      round.value.bind (valueAt? · keys)

def namedIn? (vars : List (String × Json)) (reference : List Char) : Option Json :=
  let (name, keys) := Reference.parts reference
  (vars.lookup name).bind (valueAt? · keys)

def Frame.find? (frame : Frame) (reference : List Char) : Option Json :=
  (namedIn? frame.vars reference).or (frame.round.bind (·.about? reference))

def Scope.find? (scope : Scope) (reference : List Char) : Option Json :=
  (scope.frames.findSome? (·.find? reference)).or (namedIn? scope.given reference)

/-- What a reference stands for. One in brackets is shorter than the one it stands in, so as much
`fuel` as there are characters is enough. -/
def Scope.followBelow (scope : Scope) : Nat → List Char → Option Json
  | 0, _ => none
  | fuel + 1, reference =>
    if !reference.contains '[' then scope.find? reference
    else do
      let inner ← Reference.inner? reference
      let reference ← inner.foldlM (fun whole part => do
        let key ← Reference.keyOf? (← scope.followBelow fuel part)
        pure (Reference.putKey part key whole)) reference
      scope.find? (Reference.withoutBrackets reference)

def Scope.follow (scope : Scope) (reference : String) : Option Json :=
  let text := reference.toList
  scope.followBelow (text.length + 1) text

def setVar (name : String) (value : Json) (frame : Frame) : Frame :=
  { frame with vars := (name, value) :: frame.vars.filter (·.1 != name) }

def Scope.assign (scope : Scope) (everywhere : Bool) (name : String) (value : Json) : Scope :=
  let n := if everywhere then scope.frames.length - 1 else 0
  { scope with frames := scope.frames.modify n (setVar name value) }

def Scope.enter (scope : Scope) (round : Round) : Scope :=
  { scope with frames := ⟨[], some round⟩ :: scope.frames }

def Scope.leave (scope : Scope) : Scope := { scope with frames := scope.frames.tail }

def Scope.inLoop (scope : Scope) : Bool := scope.frames.any (·.round.isSome)

/-- An empty value, a zero and `false` do not hold. -/
def holds : Json → Bool
  | .null => false
  | .flag value => value
  | .int value => value != 0
  | .float value => !value.isZero && value != .undefined
  | .text value => !value.toList.isEmpty
  | .list items => !items.isEmpty
  | .object entries => !entries.isEmpty

mutual

def shown : Json → List Char
  | .null => []
  | .flag value => (if value then "true" else "false").toList
  | .int value => (toString value).toList
  | .float value => value.plainText.toList
  | .text value => value.toList
  | .list items => '[' :: shownItems items ++ [']']
  | .object _ => "[object]".toList

def shownItems : List Json → List Char
  | [] => []
  | [item] => shown item
  | item :: rest => shown item ++ ',' :: ' ' :: shownItems rest

end

mutual

/-- Whether two values are the same. Whole numbers and others never are. -/
def same : Json → Json → Bool
  | .null, .null => true
  | .flag a, .flag b => a == b
  | .int a, .int b => a == b
  | .float a, .float b => a.compare? b == some .eq
  | .text a, .text b => a == b
  | .list a, .list b => sameItems a b
  | .object a, .object b => sameEntries a b
  | _, _ => false

def sameItems : List Json → List Json → Bool
  | [], [] => true
  | a :: as, b :: bs => same a b && sameItems as bs
  | _, _ => false

def sameEntries : List (String × Json) → List (String × Json) → Bool
  | [], [] => true
  | (k, a) :: as, (l, b) :: bs => k == l && same a b && sameEntries as bs
  | _, _ => false

end

end Modforge.Layout
