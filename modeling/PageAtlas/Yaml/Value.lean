import PageAtlas.Definition.Data
import PageAtlas.Yaml.Node
import PageAtlas.Yaml.Number

namespace PageAtlas.Yaml

/-!
# The values of nodes

A scalar is read as its tag says, and a node has one value however often it is
referred to. A collection begins empty, and is filled after those that began
before it; a mapping then takes over the entries that it merges, behind which
its own entries win. The first fault that is met on this way is reported.
-/

namespace Scalar

def stampValue (s : Form.Stamp) : Except Fault Data :=
  let n := Text.Numeral.value
  let year := n s.year
  let month := n s.month
  let day := n s.day
  let date : Date := ⟨year, month, day⟩
  if s.hour.isEmpty then
    match Date.fault? year month day with
    | some reason => .error (.calendar reason)
    | none => .ok (.date date)
  else
    let micro := n ((s.fraction ++ List.replicate 6 '0').take 6)
    let span : Int := n s.offsetHour * 60 + n s.offsetMinute
    let offset : Option Int :=
      match s.offsetSign with
      | some sign => some (if sign = '-' then -span else span)
      | none => if s.universal then some 0 else none
    let moment : Moment := ⟨date, n s.hour, n s.minute, n s.second, micro, offset⟩
    if 1440 ≤ span then .error (.calendar (tooFar (offset.getD 0)))
    else
      match Date.fault? year month day, Moment.fault? moment.hour moment.minute moment.second with
      | some reason, _ => .error (.calendar reason)
      | none, some reason => .error (.calendar reason)
      | none, none => .ok (.moment moment)
where
  tooFar (minutes : Int) : String :=
    "offset must be a timedelta strictly between -timedelta(hours=24) and " ++
      "timedelta(hours=24), not " ++
      Data.spanShown minutes ++ "."

def sextet? (c : Char) : Option Nat :=
  if 'A' ≤ c && c ≤ 'Z' then some (c.toNat - 65)
  else if 'a' ≤ c && c ≤ 'z' then some (c.toNat - 71)
  else if '0' ≤ c && c ≤ '9' then some (c.toNat + 4)
  else if c = '+' then some 62
  else if c = '/' then some 63
  else none

/-- The bytes that base 64 writes, other characters being left out. Inside a
group of four there are `held` characters, whose last bits are `bits`, and
`pads` signs of its end. -/
def bytes (held bits pads : Nat) : List Char → Except Fault (List UInt8)
  | [] => if held = 0 then .ok [] else .error .malformed
  | c :: cs =>
      if c = '=' then
        if 2 ≤ held && 4 ≤ held + pads + 1 then .ok []
        else bytes held bits (if 2 ≤ held then pads + 1 else pads) cs
      else
        match sextet? c with
        | none => bytes held bits pads cs
        | some n =>
            let out (b : Nat) (rest : Except Fault (List UInt8)) : Except Fault (List UInt8) := do
              return UInt8.ofNat b :: (← rest)
            if held = 0 then bytes 1 n 0 cs
            else if held = 1 then out (bits * 4 + n / 16) (bytes 2 (n % 16) 0 cs)
            else if held = 2 then out (bits * 16 + n / 4) (bytes 3 (n % 4) 0 cs)
            else out (bits * 64 + n) (bytes 0 0 0 cs)

def value (t : Tag) (text : String) : Except Fault Data :=
  match t with
  | .null => .ok .null
  | .str => .ok (.text text)
  | .bool =>
      let word := Text.lower text
      match Form.truthWords.find? fun (w, _) => w == word with
      | some (_, b) => .ok (.bool b)
      | none => .error (.notTruth word)
  | .int => do return .int (← Number.integer text)
  | .float => do return .real (← Number.real text)
  | .timestamp =>
      match Form.Stamp.read? (Form.unended text.toList) with
      | none => .error .notTimestamp
      | some s => stampValue s
  | .binary =>
      if text.toList.all (fun c => c.toNat < 0x80) then do return .bytes (← bytes 0 0 0 text.toList)
      else .error .malformed
  | _ => .error .malformed

end Scalar

/-- What a node is worth while collections are being filled: a value, or the
collection that begins at a place. -/
inductive Part where
  | value (d : Data)
  | collection (place : Place)
  deriving Repr

/-- A key of a table. A number that turns out to be none is the same key as
itself only, so its place is kept. -/
structure Key where
  value : Data
  place : Option Place := none
  deriving Repr

namespace Key

def ofScalar (d : Data) (place : Place) (text : Option String) : Key :=
  match d, text with
  | .real .nan, some s => if Number.isNanSign s then ⟨d, none⟩ else ⟨d, some place⟩
  | .real .nan, none => ⟨d, some place⟩
  | _, _ => ⟨d, none⟩

def isSame (k l : Key) : Bool :=
  match k.value, l.value with
  | .real .nan, .real .nan => k.place == l.place
  | a, b => Data.sameKey a b

/-- Binds a key: the first of the same keys stays with its place, the last value
wins. -/
def bind {α : Type} (k : Key) (a : α) : List (Key × α) → List (Key × α)
  | [] => [(k, a)]
  | (k', a') :: es => if k'.isSame k then (k', a) :: es else (k', a') :: bind k a es

end Key

inductive Filling where
  | list (items : List Part)
  | pairs (items : List (Part × Part))
  | set (items : List Key)
  | table (entries : List (Key × Part))
  deriving Repr

structure Builder where
  nodes : Nodes
  /-- What the nodes are worth, as far as that is known. -/
  parts : Array (Option Part)
  fillings : Array (Option Filling)
  /-- The collections, in the order in which they began. -/
  waiting : Array Place := #[]

abbrev Building (α : Type) := StateT Builder (Except Fault) α

namespace Building

def fail {α : Type} (e : Fault) : Building α := fun _ => .error e

def node (p : Place) : Building Node := do
  match (← get).nodes[p]? with
  | some n => return n
  | none => fail .malformed

def replace (p : Place) (n : Node) : Building Unit :=
  modify fun b => { b with nodes := b.nodes.setIfInBounds p n }

/-- The entries of a mapping. -/
def entries (p : Place) : Building (List (Place × Place)) := do
  match ← node p with
  | .mapping _ es => return es
  | _ => fail .malformed

def setEntries (p : Place) (es : List (Place × Place)) : Building Unit := do
  replace p (.mapping (← node p).tag es)

/-- A key that stands for a default value is an ordinary text from now on. -/
def unmark (e : Place × Place) : Building Unit := do
  let k ← node e.1
  if k.tag = .value then replace e.1 (k.withTag .str)

def mergeIndex? : List (Place × Place) → Building (Option Nat)
  | [] => return none
  | (k, _) :: es => do
      if (← node k).tag = .merge then return some 0
      else return (← mergeIndex? es).map (· + 1)

/-- Puts the entries of merged mappings in front of those of a mapping, of which
some are known already. A mapping merges another one or a list of them; the
later in the list stand in front. A key that merges is left out before what it
merges is looked at, so a mapping may merge itself. -/
def merge : Nat → Place → List (Place × Place) → Building Unit
  | 0, _, _ => fail .malformed
  | fuel + 1, p, known => do
      let es ← entries p
      match ← mergeIndex? es with
      | none =>
          es.forM unmark
          setEntries p (known ++ es)
      | some i =>
          (es.take i).forM unmark
          setEntries p (es.eraseIdx i)
          let merged (q : Place) : Building (List (Place × Place)) := do
            let _ ← entries q
            merge fuel q []
            entries q
          let more ←
            match es[i]? with
            | none => pure []
            | some (_, v) =>
                match ← node v with
                | .sequence _ items =>
                    let lists ← items.mapM merged
                    pure lists.reverse.flatten
                | _ => merged v
          merge fuel p (known ++ more)

def mergeCount (nodes : Nodes) : Nat :=
  let isMerge (e : Place × Place) : Bool :=
    match nodes[e.1]? with
    | some k => k.tag == .merge
    | none => false
  nodes.foldl (fun n node =>
    match node with
    | .mapping _ es => n + es.countP isMerge
    | _ => n) 0

def mergedEntries (p : Place) : Building (List (Place × Place)) := do
  merge (mergeCount (← get).nodes + 1) p []
  entries p

def text : Nat → Place → Building String
  | 0, _ => fail .endless
  | fuel + 1, p => do
      match ← node p with
      | .scalar _ s => return s
      | .sequence .. => fail .malformed
      | .mapping _ es =>
          match ← es.findM? fun (k, _) => do return (← node k).tag == .value with
          | some (_, v) => text fuel v
          | none => fail .malformed

def isScalarTag (t : Tag) : Bool :=
  [Tag.null, .bool, .int, .float, .timestamp, .binary, .str].contains t

def isCollectionTag (t : Tag) : Bool := [Tag.seq, .map, .set, .omap, .pairs].contains t

/-- The value of a node whose tag is one of scalars. A moment is read from a
scalar only. -/
def scalar (p : Place) (n : Node) : Building Data := do
  if !isScalarTag n.tag then fail .malformed
  else
    let s ← text ((← get).nodes.size + 1) p
    match n.tag, n with
    | .timestamp, .mapping .. => fail .notScalar
    | t, _ =>
        match Scalar.value t s with
        | .ok d => return d
        | .error e => fail e

def part (p : Place) : Building Part := do
  match ((← get).parts[p]?).join with
  | some x => return x
  | none =>
      let n ← node p
      if isCollectionTag n.tag then
        modify fun b => { b with waiting := b.waiting.push p }
      let x ← if isCollectionTag n.tag then pure (.collection p) else .value <$> scalar p n
      modify fun b => { b with parts := b.parts.setIfInBounds p (some x) }
      return x

def entry (known : List (Key × Part)) (e : Place × Place) : Building (List (Key × Part)) := do
  match ← part e.1 with
  | .collection _ => fail .malformed
  | .value d =>
      let written :=
        match ← node e.1 with
        | .scalar _ s => some s
        | _ => none
      let v ← part e.2
      return (Key.ofScalar d e.1 written).bind v known

def pair (p : Place) : Building (Part × Part) := do
  match ← entries p with
  | [(k, v)] =>
      let k ← part k
      let v ← part v
      return (k, v)
  | _ => fail .malformed

/-- What a collection holds. The form of a node has to be that of its tag. -/
def filling (p : Place) : Building Filling := do
  match ← node p with
  | .sequence .seq items => return .list (← items.mapM part)
  | .sequence .omap items => return .pairs (← items.mapM pair)
  | .sequence .pairs items => return .pairs (← items.mapM pair)
  | .mapping .map _ => return .table (← (← mergedEntries p).foldlM entry [])
  | .mapping .set _ => return .set ((← (← mergedEntries p).foldlM entry []).map Prod.fst)
  | _ => fail .malformed

def fill : Nat → Nat → Building Unit
  | 0, _ => return
  | fuel + 1, i => do
      match (← get).waiting[i]? with
      | none => return
      | some p =>
          let f ← filling p
          modify fun b => { b with fillings := b.fillings.setIfInBounds p (some f) }
          fill fuel (i + 1)

/-- What the root of a document is worth, once all collections are filled. -/
def root (p : Place) : Building Part := do
  let x ← part p
  fill ((← get).nodes.size + 1) 0
  return x

end Building

/-- A collection, or one of the pairs in it. -/
abbrev Spot := Place × Option Nat

namespace Filling

def mark : Filling → String
  | table _ => "\x7b...\x7d"
  | _ => "[...]"

def pairMark : String := "(...)"

/-- The data of a part, inside the given spots; there is none if a collection
contains itself. It may do so only behind a pair, where a mark stands in for it. -/
def data? (fillings : Array (Option Filling)) :
    Nat → Bool → List Spot → Part → Option Data
  | 0, _, _, _ => none
  | _ + 1, _, _, .value d => some d
  | fuel + 1, paired, spots, .collection p => do
      let f ← (fillings[p]?).join
      if spots.contains (p, none) then if paired then some (.again f.mark) else none
      else
        let inside := (p, none) :: spots
        match f with
        | .list items => return .list (← items.mapM (data? fillings fuel paired inside))
        | .set keys => return Data.setOf (keys.map Key.value)
        | .table es =>
            return .table (← es.mapM fun (k, v) => do
              return (k.value, ← data? fillings fuel paired inside v))
        | .pairs ps =>
            return .list (← ps.zipIdx.mapM fun ((a, b), i) => do
              let spot : Spot := (p, some i)
              if inside.contains spot then return .again pairMark
              else
                let inside := if paired then spot :: inside else [spot]
                let a ← data? fillings fuel true inside a
                let b ← data? fillings fuel true inside b
                return .pair a b)

end Filling

inductive Document where
  | data (d : Data)
  /-- A collection that contains itself; the root may be a table. -/
  | endless (isTable : Bool)
  deriving Repr

namespace Document

/-- The data of documents up to the first one that contains itself, and whether
the root of that one is a table. -/
def finite : List Document → List Data × Option Bool
  | [] => ([], none)
  | data d :: docs =>
      let (ds, rest) := finite docs
      (d :: ds, rest)
  | endless isTable :: _ => ([], some isTable)

end Document

/-- What a document with a root holds, or the first fault in it. -/
def Nodes.document (nodes : Nodes) (root : Place) : Except Fault Document := do
  let builder : Builder :=
    { nodes
      parts := Array.replicate nodes.size none
      fillings := Array.replicate nodes.size none }
  let (x, builder) ← (Building.root root).run builder
  match Filling.data? builder.fillings (2 * nodes.size + 2) false [] x with
  | some d => return .data d
  | none =>
      match (builder.fillings[root]?).join with
      | some (.table _) => return .endless true
      | _ => return .endless false

end PageAtlas.Yaml
