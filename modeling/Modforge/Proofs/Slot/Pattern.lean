import Modforge.Proofs.Slot.Spec

/-!
# The pattern of slots

A pattern is tried at each place of a text from the left. It may match in several ways there: more
letters come before fewer, and an optional part that is there before one that is not. The first
way is taken, and the search goes on behind it.
-/

namespace Modforge

inductive Pattern where
  | one (isIn : Char → Bool)
  | many (isIn : Char → Bool)
  | next (first second : Pattern)
  | maybe (inner : Pattern)
  | group (inner : Pattern)

namespace Pattern

/-- One way to match: what is taken, what each group holds of it, and what comes behind. -/
structure Way where
  taken : List Char
  groups : List (Option (List Char))
  rest : List Char
  deriving DecidableEq

def groupCount : Pattern → Nat
  | one _ | many _ => 0
  | next first second => first.groupCount + second.groupCount
  | maybe inner => inner.groupCount
  | group inner => inner.groupCount + 1

def manyWays (isIn : Char → Bool) : List Char → List Way
  | [] => [⟨[], [], []⟩]
  | c :: rest =>
    (if isIn c then (manyWays isIn rest).map fun way => { way with taken := c :: way.taken }
      else []) ++ [⟨[], [], c :: rest⟩]

/-- All ways to match at the front of a text, the one to be taken first. -/
def ways : Pattern → List Char → List Way
  | one _, [] => []
  | one isIn, c :: rest => if isIn c then [⟨[c], [], rest⟩] else []
  | many isIn, text => manyWays isIn text
  | next first second, text =>
    (first.ways text).flatMap fun way => (second.ways way.rest).map fun more =>
      ⟨way.taken ++ more.taken, way.groups ++ more.groups, more.rest⟩
  | maybe inner, text => inner.ways text ++ [⟨[], List.replicate inner.groupCount none, text⟩]
  | group inner, text =>
    (inner.ways text).map fun way => { way with groups := some way.taken :: way.groups }

/-- Replaces every match in a text after its first `skip` characters. The texts that are put in
may depend on those before. -/
def replaceAll {σ : Type} (pattern : Pattern) (replace : Way → σ → List Char × σ) :
    Nat → List Char → σ → List Char × σ
  | _, [], state => ([], state)
  | skip + 1, _ :: rest, state => replaceAll pattern replace skip rest state
  | 0, c :: rest, state =>
    match (pattern.ways (c :: rest)).head? with
    | some way =>
      let (new, now) := replace way state
      let (text, last) := replaceAll pattern replace (way.taken.length - 1) rest now
      (new ++ text, last)
    | none =>
      let (text, last) := replaceAll pattern replace 0 rest state
      (c :: text, last)

end Pattern

def numberPattern : Pattern :=
  .next (.group (.next (.one fun c => Text.isDigit c && c != '0') (.many Text.isDigit)))
    (.one (· == '$'))

/-- A percent sign, perhaps a number and a dollar sign, and one of three letters. -/
def slotPattern : Pattern :=
  .next (.one (· == '%'))
    (.next (.maybe numberPattern) (.group (.one (['s', 'n', '%'].contains ·))))

/-- How far the filling of slots is: the arguments taken in turn, and the first one missing. -/
structure Filling where
  used : Nat
  missing : Option Nat

def Filling.start : Filling := ⟨0, none⟩

/-- A number too large for a word is as good as none. -/
def wordOf? (digits : List Char) : Option Nat :=
  (some (Text.valueOfDigits digits)).filter (· < Slot.numberLimit)

/-- A missing argument is remembered, and nothing is put in for it. -/
def fillArgument (args : List String) (number : Option Nat) (filling : Filling) :
    List Char × Filling :=
  let index := number.getD (filling.used + 1)
  let used := if number.isSome then filling.used else filling.used + 1
  match args[index - 1]? with
  | some arg => (arg.toList, ⟨used, filling.missing⟩)
  | none => ([], ⟨used, filling.missing.or (some index)⟩)

def fillMatch (args : List String) (way : Pattern.Way) (filling : Filling) :
    List Char × Filling :=
  match way.groups with
  | [number, some letter] =>
    if letter = ['%'] then (['%'], filling)
    else if letter = ['n'] then (['\n'], filling)
    else fillArgument args (number.bind wordOf?) filling
  | _ => ([], filling)

def Template.replaced (template : Template) (id : String) (args : List String) :
    Except MissingArgument String :=
  let (text, filling) := slotPattern.replaceAll (fillMatch args) 0
    (Text.replace idMark id template.body).toList Filling.start
  match filling.missing with
  | none => .ok (String.ofList text)
  | some index => .error ⟨template.name, index, args.length⟩

end Modforge
