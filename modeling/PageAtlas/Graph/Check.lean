import PageAtlas.Graph.Component
import PageAtlas.Path.Hop

namespace PageAtlas

/-!
# Checking a graph

Resolution looks at the selectors on its way only. A check looks at every
selector below a component, in the order of registration and each component
before its children, and labels each problem with the path that leads to it.
-/

/-- A selector that resolution would reject, and the aliases that lead to it. -/
structure Problem where
  keys : List String
  failure : Failure
  deriving DecidableEq, Repr

namespace Problem

def path (p : Problem) : String := Path.join p.keys

def under (key : String) (p : Problem) : Problem := { p with keys := key :: p.keys }

end Problem

namespace Graph

variable {ν : Type} (g : Graph ν)

def ownProblem (key : String) (n : Node ν) : List Problem :=
  if g.hasSelector n then
    match g.query n with
    | .ok _ => []
    | .error e => [⟨[key], e⟩]
  else []

def problemsWithin : Nat → ν → List Problem
  | 0, _ => []
  | depth + 1, r =>
      (g.component r).children.flatMap fun (key, n) =>
        g.ownProblem key n ++
          match n with
          | .leaf _ => []
          | .component r' => (problemsWithin depth r').map (Problem.under key)

end Graph

end PageAtlas
