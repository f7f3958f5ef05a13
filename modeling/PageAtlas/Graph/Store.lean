import PageAtlas.Graph.Check

namespace PageAtlas

/-!
# Stores of components

Components built step by step. A component is referred to by its place in the
store, so what is registered on it later is seen wherever it is mounted.
-/

structure Store where
  components : List (Component Nat) := []
  deriving Repr

namespace Store

def graph (s : Store) : Graph Nat := ⟨fun r => s.components.getD r {}⟩

def add (s : Store) (c : Component Nat) : Store × Nat :=
  (⟨s.components ++ [c]⟩, s.components.length)

def set (s : Store) (r : Nat) (c : Component Nat) : Store := ⟨s.components.set r c⟩

def defineLeaf (s : Store) (on : Nat) (l : Leaf) : Store :=
  s.set on ((s.graph.component on).defineLeaf l)

def mount (s : Store) (on child : Nat) (given : Option String) : Except BuildFault Store :=
  match (s.graph.component on).mount child (s.graph.component child).name given with
  | .error e => .error e
  | .ok c => .ok (s.set on c)

/-- The problems below a component. In a store whose components do not contain
themselves no path is longer than the number of components. -/
def problems (s : Store) (r : Nat) : List Problem :=
  s.graph.problemsWithin s.components.length r

end Store

end PageAtlas
