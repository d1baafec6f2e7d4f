import Modforge.Layout.Scope
import Modforge.Text.Split

/-! # Filters, tests and functions -/

namespace Modforge.Layout

abbrev Args := List (String × Json)

def Args.text? (args : Args) (name : String) : Option String :=
  match args.lookup name with
  | some (.text text) => some text
  | _ => none

/-- A separator, in which a written-out line break or tab stands for the character. -/
def separator (text : String) : String :=
  Text.replace "\\t" "\t" (Text.replace "\\n" "\n" text)

def mapText (change : String → String) : Json → Option Json
  | .text text => some (.text (change text))
  | _ => none

def applyFilter (name : String) (value : Json) (args : Args) : Option Json :=
  match name with
  | "upper" => mapText Text.toUpper value
  | "lower" => mapText Text.toLower value
  | "trim" => mapText (fun text => String.ofList (Text.trimChars Text.isSpace text.toList)) value
  | "replace" => do
    let old ← args.text? "from"
    let new ← args.text? "to"
    mapText (Text.replace old new) value
  | "split" => do
    let pattern ← args.text? "pat"
    match value with
    | .text text => pure (.list ((Text.cut (separator pattern) text).map .text))
    | _ => none
  | "join" =>
    match value with
    | .list items => do
      let sep ← match args.lookup "sep" with
        | none => some ""
        | some (.text text) => some text
        | some _ => none
      let pieces := items.map fun item => String.ofList (shown item)
      pure (.text (Text.join (separator sep) pieces))
    | _ => none
  | "first" =>
    match value with
    | .list items => some (items.headD (.text ""))
    | _ => none
  | "last" =>
    match value with
    | .list items => some (items.getLastD (.text ""))
    | _ => none
  | "reverse" =>
    match value with
    | .list items => some (.list items.reverse)
    | .text text => some (.text (String.ofList text.toList.reverse))
    | _ => none
  | "length" =>
    match value with
    | .list items => some (.int items.length)
    | .object entries => some (.int entries.length)
    | .text text => some (.int text.toList.length)
    | _ => none
  | _ => none

def isEven? : Json → Option Bool
  | .int n => some (n % 2 == 0)
  | _ => none

def compareTexts (holdsIn : List Char → List Char → Bool) :
    Option Json → List Json → Option Bool
  | some (.text text), [.text part] => some (holdsIn part.toList text.toList)
  | _, _ => none

def applyTest (name : String) (value : Option Json) (args : List Json) : Option Bool :=
  match name with
  | "defined" => if args.isEmpty then some value.isSome else none
  | "undefined" => if args.isEmpty then some value.isNone else none
  | "odd" => do if args.isEmpty then (! ·) <$> isEven? (← value) else none
  | "even" => do if args.isEmpty then isEven? (← value) else none
  | "string" => do
    match ← value with
    | .text _ => if args.isEmpty then some true else none
    | _ => if args.isEmpty then some false else none
  | "number" => do
    match ← value with
    | .int _ | .float _ => if args.isEmpty then some true else none
    | _ => if args.isEmpty then some false else none
  | "iterable" => do
    match ← value with
    | .list _ | .object _ => if args.isEmpty then some true else none
    | _ => if args.isEmpty then some false else none
  | "starting_with" => compareTexts List.isPrefixOf value args
  | "ending_with" => compareTexts List.isSuffixOf value args
  | "containing" =>
    match value with
    | some (.list items) =>
      match args with
      | [item] => some (items.any (same item))
      | _ => none
    | _ => compareTexts Text.containsChars value args
  | _ => none

def Args.count? (args : Args) (name : String) (default : Option Nat) : Option Nat :=
  match args.lookup name with
  | some (.int n) => if 0 ≤ n then some n.toNat else none
  | some _ => none
  | none => default

def applyFunction (name : String) (args : Args) : Option Json :=
  match name with
  | "range" => do
    let first ← args.count? "start" (some 0)
    let step ← args.count? "step_by" (some 1)
    let limit ← args.count? "end" none
    if limit < first || step = 0 then none
    else
      let count := (limit - first + step - 1) / step
      pure (.list ((List.range count).map fun k => .int ((first + k * step : Nat) : Int)))
  | _ => none

end Modforge.Layout
