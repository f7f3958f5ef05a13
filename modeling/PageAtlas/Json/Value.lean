import PageAtlas.Decimal.Shortest
import PageAtlas.Ordered

namespace PageAtlas

/-!
# JSON values

Integers are exact and kept apart from doubles; the members of an object stay
in the order in which they are given.
-/

inductive Json where
  | null
  | bool (b : Bool)
  | int (i : Int)
  | real (x : Decimal.Binary64)
  | str (s : String)
  | arr (items : List Json)
  | obj (members : List (String × Json))
  deriving Repr

namespace Json

def field? : Json → String → Option Json
  | obj members, name => Ordered.find? name members
  | _, _ => none

def text? : Json → Option String
  | str s => some s
  | _ => none

def members : Json → List (String × Json)
  | obj ms => ms
  | _ => []

def items : Json → List Json
  | arr xs => xs
  | _ => []

def ofOption : Option String → Json
  | none => null
  | some s => str s

end Json

end PageAtlas
