import PageAtlas.Graph.Selector
import PageAtlas.Ordered
import PageAtlas.Text.Quoted

namespace PageAtlas

/-!
# Component graphs

A component maps aliases to nodes: elements, collections of elements, and
further components. A graph gives the component behind each reference, so one
component may be mounted at several places, and inside itself.
-/

/-- A registered element, or a collection of elements. -/
structure Leaf where
  name : String
  selector : String
  selectorType : String := "css"
  text : Option String := none
  repeated : Bool := false
  deriving DecidableEq, Repr

/-- A child of a component; other components are given by reference. -/
inductive Node (ν : Type) where
  | leaf (l : Leaf)
  | component (ref : ν)
  deriving DecidableEq, Repr

/-- A component with its children. A selector scopes the children; without one
the component only groups them. A repeated component matches many elements. -/
structure Component (ν : Type) where
  name : Option String := none
  selector : Option String := none
  selectorType : String := "css"
  text : Option String := none
  repeated : Bool := false
  children : Ordered String (Node ν) := []
  deriving DecidableEq, Repr

structure Graph (ν : Type) where
  component : ν → Component ν

inductive BuildFault where
  /-- A repeated component has no selector. -/
  | repeatedWithoutSelector (name : Option String)
  /-- Neither an alias was given nor does the component have one. -/
  | noAlias
  deriving DecidableEq, Repr

def BuildFault.message : BuildFault → String
  | repeatedWithoutSelector name =>
      "repeated component '" ++ Failure.shown name ++ "' needs a selector"
  | noAlias => "component needs an alias to be registered"

/-- A value that is present and not empty. -/
def nonEmpty? : Option String → Option String
  | some s => if s = "" then none else some s
  | none => none

namespace Component

variable {ν : Type}

def hasSelector (c : Component ν) : Bool := (nonEmpty? c.selector).isSome

def summary (title : String) (c : Component ν) : String :=
  let shown (s : Option String) : String := (s.map Text.quoted).getD "None"
  title ++ "(alias=" ++ shown c.name ++ ", selector=" ++ shown c.selector ++ ", children=" ++
    Text.Numeral.ofNat c.children.length ++ ")"

def make (name selector : Option String) (selectorType : String) (text : Option String)
    (repeated : Bool) : Except BuildFault (Component ν) :=
  if repeated && (nonEmpty? selector).isNone then .error (.repeatedWithoutSelector name)
  else .ok { name, selector, selectorType, text, repeated }

def defineLeaf (c : Component ν) (l : Leaf) : Component ν :=
  { c with children := c.children.insert l.name (.leaf l) }

/-- The key of a child component: the given alias, or its own. -/
def mountKey? (given own : Option String) : Option String :=
  match nonEmpty? given with
  | some a => some a
  | none => nonEmpty? own

def mount (c : Component ν) (child : ν) (own given : Option String) :
    Except BuildFault (Component ν) :=
  match mountKey? given own with
  | none => .error .noAlias
  | some key => .ok { c with children := c.children.insert key (.component child) }

def lookup (c : Component ν) (name : String) : Except Failure (Node ν) :=
  match c.children.find? name with
  | some n => .ok n
  | none => .error (.aliasNotFound name c.name)

end Component

namespace Graph

variable {ν : Type} (g : Graph ν)

/-- The alias a node has by itself, wherever it is mounted. -/
def aliasOf : Node ν → Option String
  | .leaf l => some l.name
  | .component r => (g.component r).name

def isCollection : Node ν → Bool
  | .leaf l => l.repeated
  | .component r => (g.component r).repeated

def hasSelector : Node ν → Bool
  | .leaf _ => true
  | .component r => (g.component r).hasSelector

def query : Node ν → Except Failure Query
  | .leaf l => Query.of (some l.name) l.selectorType l.selector l.text
  | .component r =>
      let c := g.component r
      Query.of c.name c.selectorType (c.selector.getD "") c.text

/-- The child of a node under an alias. Leaves have no children. -/
def lookup : Node ν → String → Except Failure (Node ν)
  | .leaf l, name => .error (.aliasNotFound name (some l.name))
  | .component r, name => (g.component r).lookup name

end Graph

end PageAtlas
