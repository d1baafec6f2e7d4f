import Modforge.Yaml.Scalar.Block
import Modforge.Yaml.Scalar.Plain
import Modforge.Yaml.Scalar.Quoted

/-! # Tokens -/

namespace Modforge.Yaml

inductive Style where
  | plain
  | quoted
  | literal
  | folded
  deriving DecidableEq, Repr

inductive Token where
  /-- States a version, which is one that is known or not. -/
  | version (known : Bool)
  /-- Lets a handle stand for the start of tags. -/
  | handle (name : String) (start : List UInt8)
  | documentStart
  | documentEnd
  | blockList
  | blockMap
  | blockEnd
  | listOpen
  | listClose
  | mapOpen
  | mapClose
  | comma
  | entry
  | key
  | value
  | alias (name : String)
  | anchor (name : String)
  | tag (handle : String) (rest : List UInt8)
  | scalar (style : Style) (text : String)
  deriving DecidableEq, Repr

end Modforge.Yaml
