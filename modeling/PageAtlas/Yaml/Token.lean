import PageAtlas.Text.Bytes
import PageAtlas.Yaml.Scalar

namespace PageAtlas.Yaml

/-!
# Tokens

The words of a document stream, and the reading of those that are more than
one mark: directives, anchors, aliases and tags.
-/

inductive Directive where
  | version (major : Nat)
  | tag (handle start : String)
  | other
  deriving DecidableEq, Repr

inductive Token where
  | directive (d : Directive)
  | documentStart
  | documentEnd
  | streamEnd
  | blockSequenceStart
  | blockMappingStart
  | blockEnd
  | flowSequenceStart
  | flowSequenceEnd
  | flowMappingStart
  | flowMappingEnd
  | flowEntry
  | blockEntry
  | key
  | value
  | reference (name : String)
  | anchor (name : String)
  /-- A tag: its handle, unless it is given in full, and its suffix. -/
  | tag (handle : Option String) (suffix : String)
  /-- A scalar: the spelling of its text. -/
  | scalar (text : String) (plain : Bool)
  deriving DecidableEq, Repr

/-- The characters of names. -/
def isNameChar (c : Char) : Bool := c.isAlphanum || c == '-' || c == '_'

def isTagChar (c : Char) : Bool :=
  c.isAlphanum || "-;/?:@&=+$,_.!~*'()[]%".toList.contains c

namespace Anchor

def mayFollow : List Char → Bool
  | [] => true
  | x :: _ => isBreak x || isGap x || "?:,]\x7d%@`".toList.contains x

def name (c : Cursor) : Except Fault (String × Cursor) :=
  let (name, c) := c.take isNameChar
  if name.isEmpty || !mayFollow c.rest then .error .malformed
  else .ok (String.ofList name, c)

end Anchor

namespace Tag

def escapedBytes : List Char → Option (List UInt8)
  | '%' :: a :: b :: rest => do
      let high ← hexDigit? a
      let low ← hexDigit? b
      let bytes ← escapedBytes rest
      return UInt8.ofNat (high * 16 + low) :: bytes
  | '%' :: _ => none
  | _ => some []

/-- The text of a tag, in which runs of escaped bytes are replaced by the text
they spell. -/
def unescape : Nat → List Char → Except Fault (List Char)
  | 0, _ => .error .malformed
  | _ + 1, [] => .ok []
  | fuel + 1, '%' :: rest => do
      match escapedBytes ('%' :: rest) with
      | none => throw .malformed
      | some bytes =>
          match Text.decode bytes with
          | .error _ => throw .malformed
          | .ok cs =>
              let more ← unescape fuel (rest.drop (3 * bytes.length - 1))
              return cs ++ more
  | fuel + 1, c :: rest => do
      let more ← unescape fuel rest
      return c :: more

def uri (c : Cursor) : Except Fault (String × Cursor) := do
  let (run, c) := c.take isTagChar
  if run.isEmpty then throw .malformed
  else
    let text ← unescape (run.length + 1) run
    return (String.ofList text, c)

def handle (c : Cursor) : Except Fault (String × Cursor) :=
  if !c.isAt '!' then .error .malformed
  else
    let (name, after) := c.step.take isNameChar
    if name.isEmpty && after.isAt ' ' then .ok ("!", after)
    else if after.isAt '!' then .ok ("!" ++ String.ofList name ++ "!", after.step)
    else .error .malformed

/-- Whether a second mark comes before the end of the word. -/
def hasHandle (cs : List Char) : Bool :=
  (cs.takeWhile fun c => !(isBreak c || c == ' ')).contains '!'

/-- A tag, from its mark on; a blank or the end of the line has to follow. -/
def token (c : Cursor) : Except Fault (Token × Cursor) := do
  let (tag, c) ←
    match c.rest.drop 1 with
    | '<' :: _ => do
        let (suffix, c) ← uri (c.forward 2)
        if c.isAt '>' then pure (Token.tag none suffix, c.step) else throw .malformed
    | rest =>
        if Cursor.endsWord rest then pure (Token.tag none "!", c.step)
        else if hasHandle rest then do
          let (h, c) ← handle c
          let (suffix, c) ← uri c
          pure (Token.tag (some h) suffix, c)
        else do
          let (suffix, c) ← uri c.step
          pure (Token.tag (some "!") suffix, c)
  if Cursor.endsLine c.rest || c.isAt ' ' then return (tag, c) else throw .malformed

end Tag

namespace Directive

def number (c : Cursor) : Except Fault (Nat × Cursor) :=
  let (ds, c) := c.take Text.Numeral.isDigit
  if ds.isEmpty then .error .malformed
  else if Text.Numeral.maxDigits < ds.length then .error (.oversizedInteger ds.length)
  else .ok (Text.Numeral.value ds, c)

def endsPart (c : Cursor) : Bool := Cursor.endsLine c.rest || c.isAt ' '

def readVersion (c : Cursor) : Except Fault (Directive × Cursor) := do
  let (major, c) ← number c
  if !c.isAt '.' then throw .malformed
  else
    let (_, c) ← number c.step
    if endsPart c then return (.version major, c) else throw .malformed

def readTag (c : Cursor) : Except Fault (Directive × Cursor) := do
  let (handle, c) ← Tag.handle c
  if !c.isAt ' ' then throw .malformed
  else
    let (start, c) ← Tag.uri (c.skip (· == ' '))
    if endsPart c then return (.tag handle start, c) else throw .malformed

def token (c : Cursor) : Except Fault (Token × Cursor) := do
  let (name, c) := c.take isNameChar
  if name.isEmpty || !endsPart c then throw .malformed
  else
    let (d, c) ←
      if String.ofList name = "YAML" then readVersion (c.skip (· == ' '))
      else if String.ofList name = "TAG" then readTag (c.skip (· == ' '))
      else pure (Directive.other, c.skip fun x => !isBreak x)
    match c.skipLineEnd? with
    | none => throw .malformed
    | some c => return (.directive d, c)

end Directive

end PageAtlas.Yaml
