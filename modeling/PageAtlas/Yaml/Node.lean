import PageAtlas.Ordered
import PageAtlas.Yaml.Tag
import PageAtlas.Yaml.Tokens

namespace PageAtlas.Yaml

/-!
# Nodes

The nodes of a document by their places. The place of a node is that of its
beginning, so an alias leads to a node that began before it, be it still open.
Where no node is written stands an empty plain scalar.
-/

abbrev Place := Nat

inductive Node where
  | scalar (tag : Tag) (text : String)
  | sequence (tag : Tag) (items : List Place)
  | mapping (tag : Tag) (entries : List (Place × Place))
  deriving Repr

abbrev Nodes := Array Node

namespace Node

def tag : Node → Tag
  | scalar t _ => t
  | sequence t _ => t
  | mapping t _ => t

def withTag (t : Tag) : Node → Node
  | scalar _ s => scalar t s
  | sequence _ items => sequence t items
  | mapping _ entries => mapping t entries

def empty : Node := scalar .null ""

end Node

/-- What is left of a token stream while the nodes of a document are read. -/
structure Reader where
  items : List Token
  /-- The fault at which the tokens end. -/
  fault : Fault
  handles : Ordered String String := []
  nodes : Nodes := #[]
  /-- The places of nodes by the names of their anchors. -/
  anchors : Ordered String Place := []

abbrev Reading (α : Type) := StateT Reader (Except Fault) α

namespace Reading

def fail {α : Type} (e : Fault) : Reading α := fun _ => .error e

/-- The next token. -/
def peek : Reading Token := fun r =>
  match r.items with
  | [] => .error r.fault
  | t :: _ => .ok (t, r)

def skip : Reading Unit := modify fun r => { r with items := r.items.drop 1 }

def accept (t : Token) : Reading Bool := do
  if (← peek) = t then skip; return true else return false

def expect (t : Token) : Reading Unit := do
  if (← peek) = t then skip else fail .malformed

def isNext (ts : List Token) : Reading Bool := return ts.contains (← peek)

def defaultHandles : List (String × String) := [("!", "!"), ("!!", Tag.core)]

def tagName (handle : Option String) (suffix : String) : Reading String := do
  match handle with
  | none => return suffix
  | some h =>
      match (← get).handles.find? h with
      | none => fail .malformed
      | some start => return start ++ suffix

structure Properties where
  anchor : Option String := none
  /-- The name of the tag. -/
  tag : Option String := none

/-- An anchor and a tag, in either order. -/
def properties : Reading Properties := do
  match ← peek with
  | .anchor a =>
      skip
      match ← peek with
      | .tag h s =>
          skip
          return ⟨some a, some (← tagName h s)⟩
      | _ => return ⟨some a, none⟩
  | .tag h s =>
      skip
      match ← peek with
      | .anchor a =>
          skip
          return ⟨some a, some (← tagName h s)⟩
      | _ => return ⟨none, some (← tagName h s)⟩
  | _ => return {}

/-- No two nodes have an anchor of one name. -/
def checkAnchor (name : Option String) : Reading Unit := do
  match name with
  | none => return
  | some a => if ((← get).anchors.find? a).isSome then fail .malformed

def add (n : Node) (anchor : Option String) : Reading Place := do
  let r ← get
  let place := r.nodes.size
  let anchors :=
    match anchor with
    | some a => r.anchors.insert a place
    | none => r.anchors
  set { r with nodes := r.nodes.push n, anchors }
  return place

def addEmpty : Reading Place := add .empty none

def complete (place : Place) (n : Node) : Reading Place := do
  modify fun r => { r with nodes := r.nodes.setIfInBounds place n }
  return place

def aliased (name : String) : Reading Place := do
  match (← get).anchors.find? name with
  | some place => return place
  | none => fail .malformed

/-- The tag that is written, unless it leaves the choice to the form. -/
def Properties.explicit? (p : Properties) : Option Tag :=
  match p.tag with
  | none => none
  | some name => if name = "!" then none else some (Tag.ofName name)

/-- The tag of a scalar. A lone mark makes any scalar be taken by its form. -/
def Properties.scalarTag (p : Properties) (text : String) (plain : Bool) : Tag :=
  match p.explicit? with
  | some t => t
  | none => if plain || p.tag.isSome then Tag.ofForm text.toList else .str

def addScalar (p : Properties) (text : String) (plain : Bool) : Reading Place :=
  add (.scalar (p.scalarTag text plain) text) p.anchor

def addSequence (p : Properties) (items : Reading (List Place)) : Reading Place := do
  let tag := p.explicit?.getD .seq
  let place ← add (.sequence tag []) p.anchor
  complete place (.sequence tag (← items))

def addMapping (p : Properties) (entries : Reading (List (Place × Place))) : Reading Place := do
  let tag := p.explicit?.getD .map
  let place ← add (.mapping tag []) p.anchor
  complete place (.mapping tag (← entries))

mutual

/-- A node. Blocks are read where `block` allows them, and a sequence without
indentation of its own where `flat` does. -/
def node (block flat : Bool) : Nat → Reading Place
  | 0 => fail .malformed
  | fuel + 1 => do
      match ← peek with
      | .reference name =>
          skip
          aliased name
      | _ =>
          let p ← properties
          let t ← peek
          checkAnchor p.anchor
          if flat && t = .blockEntry then addSequence p (flatEntries fuel)
          else
            match t with
            | .scalar text plain =>
                skip
                addScalar p text plain
            | .flowSequenceStart =>
                skip
                addSequence p (flowEntries true fuel)
            | .flowMappingStart =>
                skip
                addMapping p (flowPairs true fuel)
            | _ =>
                if block && t = .blockSequenceStart then
                  skip
                  addSequence p (blockEntries fuel)
                else if block && t = .blockMappingStart then
                  skip
                  addMapping p (blockPairs fuel)
                else if p.anchor.isSome || p.tag.isSome then addScalar p "" true
                else fail .malformed

def nodeUnless (ends : List Token) (block flat : Bool) : Nat → Reading Place
  | 0 => fail .malformed
  | fuel + 1 => do
      if ← isNext ends then addEmpty else node block flat fuel

def blockEntries : Nat → Reading (List Place)
  | 0 => fail .malformed
  | fuel + 1 => do
      if ← accept .blockEntry then
        let n ← nodeUnless [.blockEntry, .blockEnd] true false fuel
        return n :: (← blockEntries fuel)
      else
        expect .blockEnd
        return []

/-- The entries of a sequence that stands at the margin of its mapping. -/
def flatEntries : Nat → Reading (List Place)
  | 0 => fail .malformed
  | fuel + 1 => do
      if ← accept .blockEntry then
        let n ← nodeUnless [.blockEntry, .key, .value, .blockEnd] true false fuel
        return n :: (← flatEntries fuel)
      else return []

def blockPairs : Nat → Reading (List (Place × Place))
  | 0 => fail .malformed
  | fuel + 1 => do
      if ← accept .key then
        let k ← nodeUnless [.key, .value, .blockEnd] true true fuel
        let v ← blockValue fuel
        return (k, v) :: (← blockPairs fuel)
      else
        expect .blockEnd
        return []

def blockValue : Nat → Reading Place
  | 0 => fail .malformed
  | fuel + 1 => do
      if ← accept .value then nodeUnless [.key, .value, .blockEnd] true true fuel
      else addEmpty

def flowEntries (first : Bool) : Nat → Reading (List Place)
  | 0 => fail .malformed
  | fuel + 1 => do
      if ← accept .flowSequenceEnd then return []
      else
        if !first then expect .flowEntry
        if ← accept .key then
          let pair ← addMapping {} (flowPair fuel)
          return pair :: (← flowEntries false fuel)
        else if ← accept .flowSequenceEnd then return []
        else
          let n ← node false false fuel
          return n :: (← flowEntries false fuel)

/-- A pair that stands in brackets, as a mapping of its own. -/
def flowPair : Nat → Reading (List (Place × Place))
  | 0 => fail .malformed
  | fuel + 1 => do
      let k ← nodeUnless [.value, .flowEntry, .flowSequenceEnd] false false fuel
      let v ← flowValue [.flowEntry, .flowSequenceEnd] fuel
      return [(k, v)]

def flowPairs (first : Bool) : Nat → Reading (List (Place × Place))
  | 0 => fail .malformed
  | fuel + 1 => do
      if ← accept .flowMappingEnd then return []
      else
        if !first then expect .flowEntry
        if ← accept .key then
          let k ← nodeUnless [.value, .flowEntry, .flowMappingEnd] false false fuel
          let v ← flowValue [.flowEntry, .flowMappingEnd] fuel
          return (k, v) :: (← flowPairs false fuel)
        else if ← accept .flowMappingEnd then return []
        else
          let k ← node false false fuel
          let v ← addEmpty
          return (k, v) :: (← flowPairs false fuel)

def flowValue (ends : List Token) : Nat → Reading Place
  | 0 => fail .malformed
  | fuel + 1 => do
      if ← accept .value then nodeUnless ends false false fuel
      else addEmpty

end

end Reading

end PageAtlas.Yaml
