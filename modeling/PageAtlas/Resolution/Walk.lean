import PageAtlas.Graph.Component
import PageAtlas.Path.Hop
import PageAtlas.Resolution.TextMatch

namespace PageAtlas

/-!
# Walking a path

A path is followed hop by hop. The frame holds the node reached, its locator
(none as long as only groupings were met) and whether that locator addresses
several elements at once. Tokens are read one at a time, so a hop that fails
stops the walk before later tokens are looked at.
-/

/-- How a walk behaves where the graph leaves a choice. -/
structure Options where
  /-- Combine collections by css with a text into one query. -/
  combine : Bool := true
  /-- Refuse a single node under several elements. -/
  strict : Bool := false
  deriving DecidableEq, Repr

structure Frame (ν L : Type) where
  locator : Option L
  node : Node ν
  multiple : Bool := false

namespace Walk

variable {ν L : Type} (g : Graph ν) (d : Driver L) (o : Options)

/-- The scope of the next hop: the locator so far, or the document root. -/
def scope (f : Frame ν L) : Run L :=
  match f.locator with
  | some l => pure l
  | none => Run.called d.root

def locate (f : Frame ν L) (n : Node ν) (multiple : Bool) : Run L := do
  let under ← scope d f
  let q ← Run.ofExcept (g.query n)
  Run.called (d.locate under q multiple)

def plain (f : Frame ν L) (n : Node ν) : Run (Frame ν L) :=
  if !g.hasSelector n then do
    Run.log (.grouping (g.aliasOf n))
    pure { f with node := n }
  else if f.multiple && !g.isCollection n && o.strict then
    Run.fail (.ambiguousScope (g.aliasOf n) (g.aliasOf f.node))
  else do
    let multiple := g.isCollection n || f.multiple
    let l ← locate g d f n multiple
    Run.log (.matched (g.aliasOf n) multiple)
    pure ⟨some l, n, multiple⟩

/-- An index is written wherever it is shown, which may be impossible. -/
def write (i : Int) : Run Unit :=
  if Text.Numeral.isOversized i then Run.fail .unwritableIndex else pure ()

/-- Picks one element of a collection. The index is shown in the log, and the position
in the locator. -/
def pick (name : String) (collection : L) : Path.Pick → Run L
  | .index n => do
      write n
      Run.log (.picking name n)
      write (Path.Hop.zeroBased n)
      pure (d.elementAt collection (Path.Hop.zeroBased n))
  | .text value => do
      Run.log (.containing name value)
      TextMatch.find d o.combine collection value

def picked (f : Frame ν L) (n : Node ν) (name : String) (p : Path.Pick) : Run (Frame ν L) :=
  if !g.isCollection n then Run.fail (.notACollection name)
  else do
    let collection ← locate g d f n true
    let l ← pick d o name collection p
    pure ⟨some l, n, false⟩

def lookup (n : Node ν) (name : String) : Run (Node ν) :=
  ⟨g.lookup n name, [.lookup name]⟩

def step (f : Frame ν L) (hop : Path.Hop) : Run (Frame ν L) := do
  let n ← lookup g f.node hop.name
  match hop with
  | .plain _ => plain g d o f n
  | .picked name p => picked g d o f n name p

def hops (f : Frame ν L) : List Path.Hop → Run (Frame ν L)
  | [] => pure f
  | h :: hs => do
      let f' ← step g d o f h
      hops f' hs

/-- The tokens one after another, each read when its turn comes. -/
def tokens (f : Frame ν L) : List String → Run (Frame ν L)
  | [] => pure f
  | t :: ts => do
      let h ← Run.ofExcept (Path.Hop.parse t)
      let f' ← step g d o f h
      tokens f' ts

def start (root : ν) : Frame ν L := ⟨none, .component root, false⟩

def finish (root : ν) (count : Nat) (f : Frame ν L) : Run (Option L) :=
  if count = 0 then Run.fail .noHops
  else do
    Run.log (.resolved count (g.component root).name)
    pure f.locator

end Walk

section Resolve

variable {ν L : Type} (g : Graph ν) (d : Driver L) (o : Options)

/-- Resolves hops from a root component. There is no locator if every hop led
to a component without a selector. -/
def resolve (root : ν) (hs : List Path.Hop) : Run (Option L) := do
  let f ← Walk.hops g d o (Walk.start root) hs
  Walk.finish g root hs.length f

def resolvePath (root : ν) (path : String) : Run (Option L) := do
  let ts := Path.tokens path
  let f ← Walk.tokens g d o (Walk.start root) ts
  Walk.finish g root ts.length f

end Resolve

end PageAtlas
