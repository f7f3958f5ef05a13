import PageAtlas.Text.Numeral
import PageAtlas.Text.Quoted

namespace PageAtlas.Text

/-!
# Spelling

A text that was read from escapes may hold surrogates, which are no characters and
cannot be printed. It is spelled in characters: a mark stands in front of a letter
that means a surrogate, and in front of a mark that means itself. Any other text is
its own spelling. The texts of a definition are kept in this form, and so is what is
said of them; what comes from elsewhere is brought into it first.
-/

/-- What texts that are read from escapes consist of. -/
inductive Point where
  | char (c : Char)
  /-- A surrogate, counted from U+D800. -/
  | surrogate (k : Fin 2048)
  deriving DecidableEq, Repr

namespace Point

/-- The point of a number. -/
def ofNat (code : Nat) : Point :=
  if h : 0xD800 ≤ code ∧ code < 0xE000 then .surrogate ⟨code - 0xD800, by omega⟩
  else .char (Char.ofNat code)

def char? : Point → Option Char
  | char c => some c
  | surrogate _ => none

def isSurrogate (p : Point) : Bool := p.char?.isNone

def escaped (k : Fin 2048) : List Char := '\\' :: 'u' :: hexDigits 4 (0xD800 + k)

end Point

/-- Why a text cannot be printed: the first surrogate in it, its position, and how many
more follow it at once. -/
structure EncodeFault where
  surrogate : Fin 2048
  position : Nat
  more : Nat := 0
  deriving DecidableEq, Repr

def EncodeFault.message (e : EncodeFault) : String :=
  let start := Numeral.ofNat e.position
  let place :=
    if e.more = 0 then
      "character '" ++ String.ofList (Point.escaped e.surrogate) ++ "' in position " ++ start
    else "characters in position " ++ start ++ "-" ++ Numeral.ofNat (e.position + e.more)
  "'utf-8' codec can't encode " ++ place ++ ": surrogates not allowed"

namespace Spelling

def mark : Char := Char.ofNat 0x10FFFF

/-- The character that means a surrogate after a mark. -/
def letter (k : Fin 2048) : Char := Char.ofNat (0xE000 + k)

def ofPoint : Point → List Char
  | .char c => if c = mark then [mark, mark] else [c]
  | .surrogate k => [mark, letter k]

def ofPoints (ps : List Point) : String := String.ofList (ps.flatMap ofPoint)

/-- The spelling of a text without surrogates. -/
def ofText (s : String) : String := ofPoints (s.toList.map .char)

def marked (c : Char) : Point :=
  if h : 0xE000 ≤ c.toNat ∧ c.toNat < 0xE800 then .surrogate ⟨c.toNat - 0xE000, by omega⟩
  else .char c

def points : List Char → List Point
  | [] => []
  | [c] => [.char c]
  | c :: d :: cs => if c = mark then marked d :: points cs else .char c :: points (d :: cs)

def hasSurrogate (s : String) : Bool := (points s.toList).any Point.isSurrogate

/-- Prints points, of which the first has a position. -/
def printFrom (position : Nat) : List Point → Except EncodeFault (List Char)
  | [] => .ok []
  | .surrogate k :: ps => .error ⟨k, position, (ps.takeWhile Point.isSurrogate).length⟩
  | .char c :: ps => do
      let cs ← printFrom (position + 1) ps
      return c :: cs

/-- The text that is spelled, if it can be printed. -/
def print (s : String) : Except EncodeFault String :=
  match printFrom 0 (points s.toList) with
  | .ok cs => .ok (String.ofList cs)
  | .error e => .error e

def quotedPoint (quote : Char) : Point → List Char
  | .char c => quotedChar quote c
  | .surrogate k => Point.escaped k

/-- Prints spelled lines, up to the first that cannot be printed. -/
def printLines : List String → String × Option EncodeFault
  | [] => ("", none)
  | line :: lines =>
      match print line with
      | .error e => ("", some e)
      | .ok text =>
          let (rest, e) := printLines lines
          (text ++ "\n" ++ rest, e)

/-- A spelled text with its quotes. Surrogates are written by their number, so this can be
printed. -/
def quoted (s : String) : String :=
  let ps := points s.toList
  let q := quoteFor (ps.filterMap Point.char?)
  String.ofList (q :: ps.flatMap (quotedPoint q) ++ [q])

/-- A point whose surrogate is given up, together with the bytes it would have. -/
def replaced : Point → List Point
  | .char c => [.char c]
  | .surrogate _ => List.replicate 3 (.char '\ufffd')

/-- A spelled text without its surrogates, again spelled. -/
def lossy (s : String) : String := ofPoints ((points s.toList).flatMap replaced)

end Spelling

end PageAtlas.Text
