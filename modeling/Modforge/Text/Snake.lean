import Modforge.Text.Letter
import Modforge.Text.Split

/-! # Snake case -/

namespace Modforge.Text

def isWordGap (c : Char) : Bool := c == '-' || c == '_' || c == ' '

/-- What one character does to the text so far and to whether a capital now starts a word. -/
def snakeStep (state : List Char × Bool) (c : Char) : List Char × Bool :=
  let (done, afterLower) := state
  if isUpper c then
    ((if afterLower then done ++ ['_'] else done) ++ lowerForm c, false)
  else if isAlphanumeric c then
    (done ++ [c], isLower c || isDigit c)
  else if isWordGap c then
    (if done.isEmpty || done.getLast? == some '_' then done else done ++ ['_'], false)
  else
    state

def snakeChars (text : List Char) : List Char :=
  trimChars (· == '_') (text.foldl snakeStep ([], false)).1

def toSnakeCase (text : String) : String := String.ofList (snakeChars text.toList)

end Modforge.Text
