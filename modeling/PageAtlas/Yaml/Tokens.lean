import PageAtlas.Ordered
import PageAtlas.Yaml.Token

namespace PageAtlas.Yaml

/-!
# Cutting a text into tokens

The layout of blocks is made explicit: a token opens and a token closes each
of them. Whether a scalar is the key of a mapping shows only at the colon
after it. Until then the place of the scalar is kept as a pending key, one for
each level of brackets, and the tokens that mark the key are put in front of
it once the colon is found. A key lies on one line and is at most 1024
characters long; at the margin of a block nothing else than a key may stand.

`Tokens.ofText` gives the tokens up to the first fault. A fault also withholds
the tokens from a pending key on, because their meaning is still open.
-/

/-- A token that a colon may turn into a key. -/
structure PendingKey where
  /-- How many tokens there were before it. -/
  place : Nat
  required : Bool
  index : Nat
  line : Nat
  column : Nat
  deriving Repr

/-- The tokens of a text, and the fault at which they end, if any. -/
structure Tokens where
  items : List Token
  fault : Option Fault
  deriving Repr

structure Scanner where
  cursor : Cursor
  /-- The tokens so far, the last one first, and their number. -/
  reversed : List Token := []
  count : Nat := 0
  /-- One more than the column of each open block, the innermost first. -/
  margins : List Nat := []
  /-- How many brackets are open. -/
  flow : Nat := 0
  keyAllowed : Bool := true
  /-- The pending key of each level of brackets. -/
  keys : Ordered Nat PendingKey := []
  done : Bool := false
  deriving Repr

namespace Scanner

def margin (s : Scanner) : Nat := s.margins.headD 0

def inBrackets (s : Scanner) : Bool := s.flow != 0

def push (t : Token) (s : Scanner) : Scanner :=
  { s with reversed := t :: s.reversed, count := s.count + 1 }

/-- Puts a token in front of those from a place on. -/
def insertAt (place : Nat) (t : Token) (s : Scanner) : Scanner :=
  let later := s.count - place
  { s with
    reversed := s.reversed.take later ++ t :: s.reversed.drop later
    count := s.count + 1 }

/-- Leaves out blanks, comments and line breaks. Outside brackets a key may
begin on each new line. -/
def skipBlanks : Nat → Scanner → Scanner
  | 0, s => s
  | fuel + 1, s =>
      let c := s.cursor.skip (· == ' ')
      let c := if c.isAt '#' then c.skip (fun x => !isBreak x) else c
      match c.lineBreak? with
      | none => { s with cursor := c }
      | some (_, c) =>
          skipBlanks fuel { s with cursor := c, keyAllowed := s.keyAllowed || !s.inBrackets }

def skipMark (s : Scanner) : Scanner :=
  if s.cursor.index = 0 && s.cursor.isAt Text.byteOrderMark then { s with cursor := s.cursor.step }
  else s

/-- Whether a pending key can no longer become a key. -/
def isStale (c : Cursor) (k : PendingKey) : Bool := k.line != c.line || k.index + 1024 < c.index

/-- Drops the pending keys that are stale; a required one is a fault. -/
def dropStale (s : Scanner) : Except Fault Scanner :=
  if s.keys.any fun (_, k) => isStale s.cursor k && k.required then .error .malformed
  else .ok { s with keys := s.keys.filter fun (_, k) => !isStale s.cursor k }

/-- Drops the pending key of this level; a required one is a fault. -/
def dropKey (s : Scanner) : Except Fault Scanner :=
  match s.keys.find? s.flow with
  | none => .ok s
  | some k => if k.required then .error .malformed else .ok { s with keys := s.keys.erase s.flow }

def saveKey (s : Scanner) : Except Fault Scanner :=
  if s.keyAllowed then do
    let required := !s.inBrackets && s.margin == s.cursor.column + 1
    let s ← s.dropKey
    let c := s.cursor
    return { s with keys := s.keys.insert s.flow ⟨s.count, required, c.index, c.line, c.column⟩ }
  else .ok s

def closeTo (margin : Nat) (s : Scanner) : Scanner :=
  if s.inBrackets then s
  else
    let closed := s.margins.takeWhile (fun m => margin < m)
    let s := { s with margins := s.margins.drop closed.length }
    closed.foldl (fun s _ => s.push .blockEnd) s

def opens (column : Nat) (s : Scanner) : Bool := s.margin < column + 1

def openBlock (column : Nat) (s : Scanner) : Scanner :=
  { s with margins := (column + 1) :: s.margins }

def openHere (t : Token) (s : Scanner) : Scanner :=
  if s.opens s.cursor.column then (s.openBlock s.cursor.column).push t else s

def mark (length : Nat) (t : Token) (s : Scanner) : Scanner :=
  { s with cursor := s.cursor.forward length }.push t

/-- Ends everything that is open, in front of a line that belongs to no block. -/
def leaveBlocks (s : Scanner) : Except Fault Scanner := do
  let s ← (s.closeTo 0).dropKey
  return { s with keyAllowed := false }

def streamEnd (s : Scanner) : Except Fault Scanner := do
  let s ← s.leaveBlocks
  return { s.push .streamEnd with keys := [], done := true }

def directive (s : Scanner) : Except Fault Scanner := do
  let s ← s.leaveBlocks
  let (t, c) ← Directive.token s.cursor.step
  return { s with cursor := c }.push t

def separator (t : Token) (s : Scanner) : Except Fault Scanner := do
  let s ← s.leaveBlocks
  return s.mark 3 t

def openBracket (t : Token) (s : Scanner) : Except Fault Scanner := do
  let s ← s.saveKey
  return { s with flow := s.flow + 1, keyAllowed := true }.mark 1 t

def closeBracket (t : Token) (s : Scanner) : Except Fault Scanner := do
  let s ← s.dropKey
  return { s with flow := s.flow - 1, keyAllowed := false }.mark 1 t

def flowEntry (s : Scanner) : Except Fault Scanner := do
  let s ← s.dropKey
  return { s with keyAllowed := true }.mark 1 .flowEntry

def blockEntry (s : Scanner) : Except Fault Scanner := do
  if !s.inBrackets && !s.keyAllowed then throw .malformed
  else
    let s := if s.inBrackets then s else s.openHere .blockSequenceStart
    let s ← s.dropKey
    return { s with keyAllowed := true }.mark 1 .blockEntry

def explicitKey (s : Scanner) : Except Fault Scanner := do
  if !s.inBrackets && !s.keyAllowed then throw .malformed
  else
    let s := if s.inBrackets then s else s.openHere .blockMappingStart
    let s ← s.dropKey
    return { s with keyAllowed := !s.inBrackets }.mark 1 .key

/-- A colon. The pending key of this level becomes a key, and may open a block. -/
def value (s : Scanner) : Except Fault Scanner :=
  match s.keys.find? s.flow with
  | some k =>
      let s := { s with keys := s.keys.erase s.flow, keyAllowed := false }.insertAt k.place .key
      let s :=
        if !s.inBrackets && s.opens k.column then
          (s.openBlock k.column).insertAt k.place .blockMappingStart
        else s
      .ok (s.mark 1 .value)
  | none => do
      if !s.inBrackets && !s.keyAllowed then throw .malformed
      else
        let s := if s.inBrackets then s else s.openHere .blockMappingStart
        let s ← s.dropKey
        return { s with keyAllowed := !s.inBrackets }.mark 1 .value

def word (read : Cursor → Except Fault (Token × Cursor)) (s : Scanner) : Except Fault Scanner := do
  let s ← s.saveKey
  let (t, c) ← read s.cursor
  return { s with cursor := c, keyAllowed := false }.push t

def anchor (make : String → Token) (c : Cursor) : Except Fault (Token × Cursor) := do
  let (name, c) ← Anchor.name c.step
  return (make name, c)

def quotes (double : Bool) (fuel : Nat) (c : Cursor) : Except Fault (Token × Cursor) := do
  let (text, c) ← Quotes.text double fuel c.step
  return (.scalar (Text.Spelling.ofPoints text) false, c)

def spelled (cs : List Char) : String := Text.Spelling.ofText (String.ofList cs)

def block (folded : Bool) (fuel : Nat) (s : Scanner) : Except Fault Scanner := do
  let s ← s.dropKey
  let (text, c) ← Block.text folded s.margin fuel s.cursor.step
  return { s with cursor := c, keyAllowed := true }.push (.scalar (spelled text) false)

def plain (fuel : Nat) (s : Scanner) : Except Fault Scanner := do
  let s ← s.saveKey
  let (text, c, crossed) := Plain.text s.inBrackets s.margin fuel [] s.cursor false
  return { s with cursor := c, keyAllowed := crossed }.push (.scalar (spelled text) true)

def startsPlain (inBrackets : Bool) : List Char → Bool
  | [] => false
  | x :: xs =>
      !(isGap x || isBreak x || "-?:,[]\x7b\x7d#&*!|>'\"%@`".toList.contains x) ||
        (!Cursor.endsWord xs && (x == '-' || (!inBrackets && (x == '?' || x == ':'))))

def token (fuel : Nat) (s : Scanner) : Except Fault Scanner :=
  match s.cursor.rest with
  | [] => s.streamEnd
  | x :: xs =>
      let lineStart := s.cursor.column == 0
      let alone := Cursor.endsWord xs
      if lineStart && x == '%' then s.directive
      else if lineStart && s.cursor.isMarker '-' then s.separator .documentStart
      else if lineStart && s.cursor.isMarker '.' then s.separator .documentEnd
      else if x == '[' then s.openBracket .flowSequenceStart
      else if x == '\x7b' then s.openBracket .flowMappingStart
      else if x == ']' then s.closeBracket .flowSequenceEnd
      else if x == '\x7d' then s.closeBracket .flowMappingEnd
      else if x == ',' then s.flowEntry
      else if x == '-' && alone then s.blockEntry
      else if x == '?' && (s.inBrackets || alone) then s.explicitKey
      else if x == ':' && (s.inBrackets || alone) then s.value
      else if x == '*' then s.word (anchor .reference)
      else if x == '&' then s.word (anchor .anchor)
      else if x == '!' then s.word Tag.token
      else if x == '|' && !s.inBrackets then s.block false fuel
      else if x == '>' && !s.inBrackets then s.block true fuel
      else if x == '\'' then s.word (quotes false fuel)
      else if x == '"' then s.word (quotes true fuel)
      else if startsPlain s.inBrackets (x :: xs) then s.plain fuel
      else .error .malformed

def advance (fuel : Nat) (s : Scanner) : Except Fault Scanner := do
  let s ← (s.skipMark.skipBlanks fuel).dropStale
  token fuel (s.closeTo (s.cursor.column + 1))

def settled (s : Scanner) : List Token :=
  let places := s.keys.map fun (_, k) => k.place
  s.reversed.reverse.take (places.foldl min s.count)

def run (fuel : Nat) : Nat → Scanner → Tokens
  | 0, s => ⟨s.settled, some .malformed⟩
  | steps + 1, s =>
      if s.done then ⟨s.reversed.reverse, none⟩
      else
        match s.dropStale with
        | .error e => ⟨s.settled, some e⟩
        | .ok s =>
            match s.advance fuel with
            | .error e => ⟨s.settled, some e⟩
            | .ok s' => run fuel steps s'

end Scanner

def Tokens.ofText (cs : List Char) : Tokens :=
  Scanner.run (cs.length + 1) (cs.length + 2) { cursor := Cursor.ofText cs }

end PageAtlas.Yaml
