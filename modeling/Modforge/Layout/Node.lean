import Modforge.Layout.Token

/-! # Layouts as trees of branches and loops -/

namespace Modforge

namespace Layout

inductive Node where
  | text (text : List Char)
  | output (value : Expr)
  /-- The first case whose condition holds, or else the rest. -/
  | branch (cases : List (Expr × List Node)) (otherwise : List Node)
  | loop (key : Option String) (name : String) (range : Expr) (body : List Node)
    (whenEmpty : List Node)
  | leaveLoop
  | nextRound
  | assign (everywhere : Bool) (name : String) (value : Expr)
  | filtered (filter : Call) (body : List Node)
  | group (body : List Node)
  | unavailable

/-! ## Dashes -/

/-- A text, or what a tag stands for between the dashes at its ends. A comment stands for
nothing, and so does a layout that is put in only if it is there. -/
inductive Piece where
  | text (text : List Char)
  | tagged (left right : Bool) (node : Option Node)

def trimStart (text : List Char) : List Char := text.dropWhile Text.isSpace

def trimEnd (text : List Char) : List Char := (text.reverse.dropWhile Text.isSpace).reverse

def trimSides (left right : Bool) (text : List Char) : List Char :=
  let text := if left then trimStart text else text
  if right then trimEnd text else text

/-- Whether there is a dash before what follows a text, which is what ends the pieces if there is
no more. -/
def dashNext (last : Bool) : List Piece → Bool
  | .tagged left _ _ :: _ => left
  | .text _ :: _ => false
  | [] => last

/-- The nodes of pieces between two tags, `first` and `last` being the dashes of these. -/
def trimmedNodes (last : Bool) : Bool → List Piece → List Node
  | _, [] => []
  | first, .text text :: rest =>
    .text (trimSides first (dashNext last rest) text) :: trimmedNodes last false rest
  | _, .tagged _ right node :: rest => node.toList ++ trimmedNodes last right rest

def plainNodes : Piece → List Node
  | .text text => [.text text]
  | .tagged _ _ node => node.toList

/-! ## Reading -/

structure Place where
  inLoop : Bool
  /-- Whether dashes count. They do not in what is rendered for want of rounds. -/
  trims : Bool

namespace Place

def top : Place := ⟨false, true⟩

def body (place : Place) (first last : Bool) (pieces : List Piece) : List Node :=
  if place.trims then trimmedNodes last first pieces else pieces.flatMap plainNodes

end Place

inductive Stop where
  | finish
  | elseIf (condition : Expr)
  | otherwise
  | closeIf
  | closeLoop
  | closeFilter
  | closeBlock

structure Ending where
  left : Bool
  right : Bool
  stop : Stop

def stopOf? : Tag → Option Stop
  | .elseIf condition => some (.elseIf condition)
  | .otherwise => some .otherwise
  | .closeIf => some .closeIf
  | .closeLoop => some .closeLoop
  | .closeFilter => some .closeFilter
  | .closeBlock => some .closeBlock
  | _ => none

/-- A branch without its conditions: the cases, the rest and the last dash. -/
abbrev Cases := List (Expr × List Node) × List Node × Bool

mutual

/-- Pieces up to a tag that belongs to what encloses them. -/
def readPieces (place : Place) : Nat → List Token → Option (List Piece × Ending × List Token)
  | 0, _ => none
  | _, [] => some ([], ⟨false, false, .finish⟩, [])
  | fuel + 1, .text text :: rest => do
    let (more, ending, rest) ← readPieces place fuel rest
    pure (.text text :: more, ending, rest)
  | fuel + 1, .tag tagged :: rest =>
    match stopOf? tagged.tag with
    | some stop => some ([], ⟨tagged.left, tagged.right, stop⟩, rest)
    | none => do
      let (node, right, rest) ← readNode place fuel tagged rest
      let (more, ending, rest) ← readPieces place fuel rest
      pure (.tagged tagged.left right node :: more, ending, rest)

/-- What a tag opens, and the dash of the tag that closes it. -/
def readNode (place : Place) :
    Nat → Tagged → List Token → Option (Option Node × Bool × List Token)
  | 0, _, _ => none
  | fuel + 1, ⟨_, right, tag⟩, rest =>
    match tag with
    | .comment => some (none, right, rest)
    | .output value => some (some (.output value), right, rest)
    | .raw text innerLeft innerRight =>
      let text := if place.trims then trimSides innerLeft innerRight text else text
      some (some (.text text), right, rest)
    | .assign everywhere name value => some (some (.assign everywhere name value), right, rest)
    | .leaveLoop => if place.inLoop then some (some .leaveLoop, right, rest) else none
    | .nextRound => if place.inLoop then some (some .nextRound, right, rest) else none
    | .including ifThere => some (if ifThere then none else some .unavailable, right, rest)
    | .openIf condition => do
      let ((cases, otherwise, last), rest) ← readCases place fuel right condition rest
      pure (some (.branch cases otherwise), last, rest)
    | .openLoop key name range => do
      let (pieces, ending, rest) ← readPieces { place with inLoop := true } fuel rest
      let (whenEmpty, ending, rest) ← readWhenEmpty fuel [] ending rest
      pure (some (.loop key name range (place.body right ending.left pieces) whenEmpty),
        ending.right, rest)
    | .openFilter filter => do
      let (pieces, ending, rest) ← readPieces { place with inLoop := false } fuel rest
      match ending.stop with
      | .closeFilter =>
        pure (some (.filtered filter (place.body right ending.left pieces)), ending.right, rest)
      | _ => none
    | .openBlock _ => do
      let (pieces, ending, rest) ← readPieces { place with inLoop := false } fuel rest
      match ending.stop with
      | .closeBlock =>
        pure (some (.group (place.body right ending.left pieces)), ending.right, rest)
      | _ => none
    | _ => none

/-- What is rendered for want of rounds, up to the end of the loop. Of several such parts the last
one counts. -/
def readWhenEmpty :
    Nat → List Node → Ending → List Token → Option (List Node × Ending × List Token)
  | 0, _, _, _ => none
  | fuel + 1, found, ending, rest =>
    match ending.stop with
    | .closeLoop => some (found, ending, rest)
    | .otherwise => do
      let (pieces, ending, rest) ← readPieces ⟨true, false⟩ fuel rest
      readWhenEmpty fuel (pieces.flatMap plainNodes) ending rest
    | _ => none

/-- The cases of a branch from a condition on; `first` is the dash behind the condition. -/
def readCases (place : Place) :
    Nat → Bool → Expr → List Token → Option (Cases × List Token)
  | 0, _, _, _ => none
  | fuel + 1, first, condition, rest => do
    let (pieces, ending, rest) ← readPieces place fuel rest
    let body := place.body first ending.left pieces
    match ending.stop with
    | .closeIf => pure (([(condition, body)], [], ending.right), rest)
    | .elseIf next =>
      let ((cases, otherwise, last), rest) ← readCases place fuel ending.right next rest
      pure (((condition, body) :: cases, otherwise, last), rest)
    | .otherwise =>
      let (pieces, close, rest) ← readPieces place fuel rest
      match close.stop with
      | .closeIf =>
        pure (([(condition, body)], place.body ending.right close.left pieces, close.right), rest)
      | _ => none
    | _ => none

end

def ownName : String := "registrar.java"

inductive Flaw where
  | unreadable
  | noParent (parent : String)
  | ownParent
  | unrenderable
  deriving DecidableEq, Repr

def Flaw.message : Flaw → String
  | .unreadable => "Failed to parse '" ++ ownName ++ "'"
  | .noParent parent =>
    "Template '" ++ ownName ++ "' is inheriting from '" ++ parent ++
      "', which doesn't exist or isn't loaded."
  | .ownParent =>
    "Circular extend detected for template '" ++ ownName ++ "'. Inheritance chain: `[\"" ++
      ownName ++ "\"]`"
  | .unrenderable => "Failed to render '" ++ ownName ++ "'"

/-- What follows the comments at the start. The dashes of these do not count. -/
def afterComments : List Token → List Token
  | .tag ⟨_, _, .comment⟩ :: rest => afterComments rest
  | list => list

/-- The name of the layout that this one builds on, with blanks before it or none. -/
def parent? : List Token → Option (String × List Token)
  | .tag ⟨_, _, .extending parent⟩ :: rest => some (parent, rest)
  | .text text :: .tag ⟨_, _, .extending parent⟩ :: rest =>
    if text.all isBlank then some (parent, rest) else none
  | _ => none

def allNodes (tokens : List Token) : Option (List Node) :=
  match readPieces .top (3 * tokens.length + 3) tokens with
  | some (pieces, ⟨_, _, .finish⟩, _) => some (Place.top.body false false pieces)
  | _ => none

end Layout

structure Layout where
  nodes : List Layout.Node
  /-- No expression nests deeper. -/
  depth : Nat

namespace Layout

def parse (text : String) : Except Flaw Layout :=
  match tokens text with
  | none => .error .unreadable
  | some list =>
    let list := afterComments list
    match parent? list with
    | some (parent, rest) =>
      match allNodes rest with
      | none => .error .unreadable
      | some _ => .error (if parent = ownName then .ownParent else .noParent parent)
    | none =>
      match allNodes list with
      | none => .error .unreadable
      | some nodes => .ok ⟨nodes, 8 * text.toList.length + 40⟩

end Layout

end Modforge
