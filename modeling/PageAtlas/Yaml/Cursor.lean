import PageAtlas.Text.Bytes

namespace PageAtlas.Yaml

/-!
# Cursors

A place in a text: what is still to come, and the line and column reached.
Lines end at any of the line break characters; a carriage return and a line
feed together are one break. A byte order mark takes no column.
-/

structure Cursor where
  rest : List Char
  index : Nat := 0
  line : Nat := 0
  column : Nat := 0
  deriving Repr

def isBreak (c : Char) : Bool :=
  c == '\n' || c == '\r' || c == '\x85' || c == '\u2028' || c == '\u2029'

def isGap (c : Char) : Bool := c == ' ' || c == '\t'

/-- A text may hold tabs, line breaks and printable characters only. -/
def isAllowed (c : Char) : Bool :=
  let n := c.toNat
  n == 0x9 || n == 0xA || n == 0xD || n == 0x85 || (0x20 ≤ n && n ≤ 0x7E) ||
    (0xA0 ≤ n && n ≤ 0xD7FF) || (0xE000 ≤ n && n ≤ 0xFFFD) || 0x10000 ≤ n

namespace Cursor

def ofText (cs : List Char) : Cursor := { rest := cs }

def step (c : Cursor) : Cursor :=
  match c.rest with
  | [] => c
  | x :: xs =>
      let ends := isBreak x && !(x == '\r' && xs.head? == some '\n')
      if ends then ⟨xs, c.index + 1, c.line + 1, 0⟩
      else ⟨xs, c.index + 1, c.line, if x = Text.byteOrderMark then c.column else c.column + 1⟩

def forward : Nat → Cursor → Cursor
  | 0, c => c
  | n + 1, c => forward n c.step

def atEnd (c : Cursor) : Bool := c.rest.isEmpty

def isAt (c : Cursor) (x : Char) : Bool := c.rest.head? == some x

def endsLine : List Char → Bool
  | [] => true
  | x :: _ => isBreak x

def endsWord : List Char → Bool
  | [] => true
  | x :: _ => isBreak x || isGap x

def take (p : Char → Bool) (c : Cursor) : List Char × Cursor :=
  let run := c.rest.takeWhile p
  (run, c.forward run.length)

def skip (p : Char → Bool) (c : Cursor) : Cursor := (c.take p).2

def skipTo (column : Nat) (c : Cursor) : Cursor :=
  c.forward (min (c.rest.takeWhile (· == ' ')).length (column - c.column))

def lineBreak? (c : Cursor) : Option (Char × Cursor) :=
  match c.rest with
  | '\r' :: '\n' :: _ => some ('\n', c.forward 2)
  | x :: _ =>
      if x == '\u2028' || x == '\u2029' then some (x, c.step)
      else if isBreak x then some ('\n', c.step)
      else none
  | [] => none

/-- Leaves out the rest of a line, which may hold nothing but a comment, and
its break. -/
def skipLineEnd? (c : Cursor) : Option Cursor :=
  let c := c.skip (· == ' ')
  let c := if c.isAt '#' then c.skip (fun x => !isBreak x) else c
  if c.atEnd then some c else c.lineBreak?.map Prod.snd

def isMarker (x : Char) (c : Cursor) : Bool :=
  match c.rest with
  | a :: b :: d :: rest => a == x && b == x && d == x && endsWord rest
  | _ => false

def isSeparator (c : Cursor) : Bool := c.isMarker '-' || c.isMarker '.'

end Cursor

end PageAtlas.Yaml
