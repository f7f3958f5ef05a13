import PageAtlas.Text.Spelling
import PageAtlas.Yaml.Cursor
import PageAtlas.Yaml.Fault

namespace PageAtlas.Yaml

/-!
# Scalars

The three ways to write a scalar: between quotes, plainly, and as an indented
block. Line breaks inside are folded: a single one is a space, of several the
first is left out. Escapes between double quotes can give surrogates, so a text in
quotes consists of points. Fuel bounds the number of lines and characters read.
-/

def hexDigit? (c : Char) : Option Nat :=
  if '0' ≤ c && c ≤ '9' then some (c.toNat - 48)
  else if 'a' ≤ c && c ≤ 'f' then some (c.toNat - 87)
  else if 'A' ≤ c && c ≤ 'F' then some (c.toNat - 55)
  else none

def hexNumber? (width : Nat) (cs : List Char) : Option Nat :=
  let ds := cs.take width
  if ds.length = width then
    ds.foldl (fun n c => do return (← n) * 16 + (← hexDigit? c)) (some 0)
  else none

def fold (first : Char) (others : List Char) : List Char :=
  if first ≠ '\n' then first :: others
  else if others.isEmpty then [' '] else others

namespace Quotes

open PageAtlas.Text (Point)

def escape? (c : Char) : Option Char :=
  match c with
  | '0' => some '\x00'
  | 'a' => some '\x07'
  | 'b' => some '\x08'
  | 't' => some '\t'
  | '\t' => some '\t'
  | 'n' => some '\n'
  | 'v' => some '\x0b'
  | 'f' => some '\x0c'
  | 'r' => some '\r'
  | 'e' => some '\x1b'
  | ' ' => some ' '
  | '"' => some '"'
  | '\\' => some '\\'
  | '/' => some '/'
  | 'N' => some '\x85'
  | '_' => some '\xa0'
  | 'L' => some '\u2028'
  | 'P' => some '\u2029'
  | _ => none

def width? (c : Char) : Option Nat :=
  match c with
  | 'x' => some 2
  | 'u' => some 4
  | 'U' => some 8
  | _ => none

def point (code : Nat) : Except Fault Point :=
  if code < 0x110000 then .ok (Point.ofNat code)
  else if code < 0x80000000 then .error .noCharacter
  else .error .hugeCharacter

/-- The line breaks after the first, with the blanks around them. -/
def breaks : Nat → Cursor → Except Fault (List Char × Cursor)
  | 0, _ => .error .malformed
  | fuel + 1, c =>
      if c.isSeparator then .error .malformed
      else
        let c := c.skip isGap
        match c.lineBreak? with
        | none => .ok ([], c)
        | some (b, c) => do
            let (bs, c) ← breaks fuel c
            return (b :: bs, c)

/-- A backslash and what it escapes; the cursor stands after the backslash. -/
def escaped (fuel : Nat) (c : Cursor) : Except Fault (List Point × Cursor) :=
  match c.rest with
  | [] => .error .malformed
  | x :: xs =>
      match escape? x, width? x with
      | some y, _ => .ok ([.char y], c.step)
      | none, some width =>
          match hexNumber? width xs with
          | none => .error .malformed
          | some code => do
              let y ← point code
              return ([y], c.forward (width + 1))
      | none, none =>
          match c.lineBreak? with
          | none => .error .malformed
          | some (_, c) => do
              let (bs, c) ← breaks fuel c
              return (bs.map .char, c)

/-- Blanks inside quotes: kept within a line, folded around line breaks. -/
def blanks (fuel : Nat) (c : Cursor) : Except Fault (List Char × Cursor) :=
  let (gap, c) := c.take isGap
  match c.lineBreak? with
  | none => if c.atEnd then .error .malformed else .ok (gap, c)
  | some (b, c) => do
      let (bs, c) ← breaks fuel c
      return (fold b bs, c)

def text (double : Bool) : Nat → Cursor → Except Fault (List Point × Cursor)
  | 0, _ => .error .malformed
  | fuel + 1, c =>
      match c.rest with
      | [] => .error .malformed
      | x :: xs =>
          if isGap x || isBreak x then do
            let (here, c) ← blanks fuel c
            let (rest, c) ← text double fuel c
            return (here.map .char ++ rest, c)
          else if double && x == '"' then .ok ([], c.step)
          else if double && x == '\\' then do
            let (here, c) ← escaped fuel c.step
            let (rest, c) ← text double fuel c
            return (here ++ rest, c)
          else if !double && x == '\'' then
            if xs.head? == some '\'' then do
              let (rest, c) ← text double fuel (c.forward 2)
              return (.char '\'' :: rest, c)
            else .ok ([], c.step)
          else do
            let (rest, c) ← text double fuel c.step
            return (.char x :: rest, c)

end Quotes

namespace Plain

def isFlowIndicator (c : Char) : Bool := ",?[]\x7b\x7d".toList.contains c

/-- Whether a colon before this text ends a plain scalar. -/
def colonEnds (flow : Bool) (cs : List Char) : Bool :=
  Cursor.endsWord cs ||
    (flow && (match cs with
      | [] => true
      | x :: _ => ",[]\x7b\x7d".toList.contains x))

def run (flow : Bool) : List Char → List Char
  | [] => []
  | x :: xs =>
      if isGap x || isBreak x || (x == ':' && colonEnds flow xs) ||
          (flow && isFlowIndicator x) then []
      else x :: run flow xs

/-- The line breaks after the first, with the spaces around them; nothing if
they lead to a line that separates documents. -/
def breaks : Nat → Cursor → Option (List Char) × Cursor
  | 0, c => (none, c)
  | fuel + 1, c =>
      if c.isSeparator then (none, c)
      else
        let c := c.skip (· == ' ')
        match c.lineBreak? with
        | none => (some [], c)
        | some (b, c) =>
            let (bs, c) := breaks fuel c
            (bs.map (b :: ·), c)

def between (fuel : Nat) (c : Cursor) : List Char × Cursor × Bool :=
  let (spaces, c) := c.take (· == ' ')
  match c.lineBreak? with
  | none => (spaces, c, false)
  | some (b, c) =>
      match breaks fuel c with
      | (none, c) => ([], c, true)
      | (some bs, c) => (fold b bs, c, true)

/-- A plain scalar, which has to stay right of a margin outside brackets. The
last part of the result tells whether it ends with a line break. -/
def text (flow : Bool) (margin : Nat) : Nat → List Char → Cursor → Bool → List Char × Cursor × Bool
  | 0, _, c, crossed => ([], c, crossed)
  | fuel + 1, gap, c, crossed =>
      let here := if c.isAt '#' then [] else run flow c.rest
      if here.isEmpty then ([], c, crossed)
      else
        let (next, c, crossed) := between fuel (c.forward here.length)
        if next.isEmpty || c.isAt '#' || (!flow && c.column < margin) then
          (gap ++ here, c, crossed)
        else
          let (rest, c, crossed) := text flow margin fuel next c crossed
          (gap ++ here ++ rest, c, crossed)

end Plain

namespace Block

/-- What becomes of the line breaks at the end of a block. -/
inductive Chomping where
  | strip
  | clip
  | keep
  deriving DecidableEq, Repr

/-- The sign and the digit after the mark of a block, in either order. -/
structure Indicators where
  chomping : Chomping := .clip
  increment : Option Nat := none
  deriving Repr

def chomping? (c : Char) : Option Chomping :=
  if c = '+' then some .keep else if c = '-' then some .strip else none

def increment? (c : Char) : Option Nat :=
  if '1' ≤ c && c ≤ '9' then some (c.toNat - 48) else none

/-- Reads the indicators; a blank or the end of the line has to follow. -/
def indicators (c : Cursor) : Except Fault (Indicators × Cursor) :=
  let (found, c) : Indicators × Cursor :=
    match c.rest with
    | [] => (⟨.clip, none⟩, c)
    | x :: xs =>
        match chomping? x, increment? x with
        | some k, _ =>
            match xs.head?.bind increment? with
            | some n => (⟨k, some n⟩, c.forward 2)
            | none => (⟨k, none⟩, c.step)
        | none, some n =>
            match xs.head?.bind chomping? with
            | some k => (⟨k, some n⟩, c.forward 2)
            | none => (⟨.clip, some n⟩, c.step)
        | none, none => (⟨.clip, none⟩, c)
  if Cursor.endsLine c.rest || c.isAt ' ' then .ok (found, c) else .error .malformed

/-- Empty lines, of which at most `column` spaces are left out each. -/
def breaks (column : Nat) : Nat → Cursor → List Char × Cursor
  | 0, c => ([], c)
  | fuel + 1, c =>
      let c := c.skipTo column
      match c.lineBreak? with
      | none => ([], c)
      | some (b, c) =>
          let (bs, c) := breaks column fuel c
          (b :: bs, c)

/-- Empty lines before the first line of a block, and the greatest column that
spaces reach in them or in the first line. -/
def leading : Nat → Cursor → List Char × Nat × Cursor
  | 0, c => ([], 0, c)
  | fuel + 1, c =>
      let c := c.skip (· == ' ')
      match c.lineBreak? with
      | none => ([], c.column, c)
      | some (b, c') =>
          let (bs, column, c'') := leading fuel c'
          (b :: bs, max c.column column, c'')

def startsBlank (c : Cursor) : Bool := c.isAt ' ' || c.isAt '\t'

/-- The lines of a block, given the breaks before the first one: their text,
the last break, the empty lines after it and the cursor. -/
def lines (folded : Bool) (column : Nat) :
    Nat → List Char → Cursor → List Char × List Char × List Char × Cursor
  | 0, before, c => ([], [], before, c)
  | fuel + 1, before, c =>
      if c.column == column && !c.atEnd then
        let flush := !startsBlank c
        let (line, c) := c.take (fun x => !isBreak x)
        let (last, c) : List Char × Cursor :=
          match c.lineBreak? with
          | none => ([], c)
          | some (b, c) => ([b], c)
        let (after, c) := breaks column fuel c
        if c.column == column && !c.atEnd then
          let joint :=
            if folded && last == ['\n'] && flush && !startsBlank c then
              (if after.isEmpty then [' '] else [])
            else last
          let (rest, last, after, c) := lines folded column fuel after c
          (before ++ line ++ joint ++ rest, last, after, c)
        else (before ++ line, last, after, c)
      else ([], [], before, c)

def text (folded : Bool) (margin fuel : Nat) (c : Cursor) : Except Fault (List Char × Cursor) := do
  let (found, c) ← indicators c
  match c.skipLineEnd? with
  | none => .error .malformed
  | some c =>
      let least := max margin 1
      let (column, before, c) : Nat × List Char × Cursor :=
        match found.increment with
        | some n =>
            let column := least + n - 1
            let (bs, c) := breaks column fuel c
            (column, bs, c)
        | none =>
            let (bs, widest, c) := leading fuel c
            (max least widest, bs, c)
      let (body, last, after, c) := lines folded column fuel before c
      let ending :=
        match found.chomping with
        | .strip => []
        | .clip => last
        | .keep => last ++ after
      return (body ++ ending, c)

end Block

end PageAtlas.Yaml
