import PageAtlas.Graph.Check

namespace PageAtlas

/-!
# Page definitions

A page as it is written in a definition file: a tree of elements, collections
and components. Its graph refers to a component by the definition itself.
-/

structure Header where
  name : String
  selectorType : String := "css"
  text : Option String := none
  selector : Option String := none
  repeated : Bool := false
  deriving DecidableEq, Repr

inductive NodeDef where
  | leaf (l : Leaf)
  | component (header : Header) (nodes : List NodeDef)
  deriving Repr

namespace NodeDef

def name : NodeDef → String
  | leaf l => l.name
  | component h _ => h.name

mutual

def decEq : (a b : NodeDef) → Decidable (a = b)
  | leaf l, leaf l' => decidable_of_iff (l = l') (by simp)
  | component h nodes, component h' nodes' =>
      have := decEqAll nodes nodes'
      decidable_of_iff (h = h' ∧ nodes = nodes') (by simp)
  | leaf _, component .. => isFalse (by simp)
  | component .., leaf _ => isFalse (by simp)

def decEqAll : (as bs : List NodeDef) → Decidable (as = bs)
  | [], [] => isTrue rfl
  | a :: as, b :: bs =>
      have := decEq a b
      have := decEqAll as bs
      decidable_of_iff (a = b ∧ as = bs) (by simp)
  | [], _ :: _ => isFalse (by simp)
  | _ :: _, [] => isFalse (by simp)

end

instance : DecidableEq NodeDef := decEq

end NodeDef

/-- A component together with what is declared in it. -/
structure Block where
  header : Header
  nodes : List NodeDef
  deriving DecidableEq, Repr

structure PageDef where
  version : String := "1"
  page : String
  description : Option String := none
  nodes : List NodeDef := []
  deriving DecidableEq, Repr

namespace Block

def bare (b : Block) : Component Block where
  name := some b.header.name
  selector := b.header.selector
  selectorType := b.header.selectorType
  text := b.header.text
  repeated := b.header.repeated

def register (c : Component Block) : NodeDef → Component Block
  | .leaf l => c.defineLeaf l
  | .component h nodes =>
      match c.mount ⟨h, nodes⟩ (some h.name) none with
      | .ok c' => c'
      | .error _ => c

/-- The component of a block, with its nodes registered in order. -/
def component (b : Block) : Component Block := b.nodes.foldl register b.bare

end Block

def definitionGraph : Graph Block := ⟨Block.component⟩

namespace NodeDef

mutual

def depth : NodeDef → Nat
  | leaf _ => 0
  | component _ nodes => depthAll nodes + 1

def depthAll : List NodeDef → Nat
  | [] => 0
  | n :: ns => max (depth n) (depthAll ns)

end

mutual

/-- The first reason why a node cannot be built: a repeated component without
a selector, or a component without an alias. -/
def buildFault? : NodeDef → Option BuildFault
  | leaf _ => none
  | component h nodes =>
      if h.repeated && (nonEmpty? h.selector).isNone then
        some (.repeatedWithoutSelector (some h.name))
      else
        match buildFaultAll? nodes with
        | some e => some e
        | none => if h.name = "" then some .noAlias else none

def buildFaultAll? : List NodeDef → Option BuildFault
  | [] => none
  | n :: ns =>
      match buildFault? n with
      | some e => some e
      | none => buildFaultAll? ns

end

end NodeDef

namespace PageDef

/-- The root component of a page: it carries the name and has no selector. -/
def root (p : PageDef) : Block := ⟨{ name := p.page }, p.nodes⟩

/-- Builds the page, unless a component in it is refused. -/
def build (p : PageDef) : Except BuildFault Block :=
  match NodeDef.buildFaultAll? p.nodes with
  | some e => .error e
  | none => .ok p.root

def problems (p : PageDef) : List Problem :=
  definitionGraph.problemsWithin (NodeDef.depthAll p.nodes + 1) p.root

end PageDef

end PageAtlas
