import PageAtlas.Text.Numeral

namespace PageAtlas.Text

/-!
# Bytes that spell a text

Decoding UTF-8. The first offence is described by its place and kind: a byte
that begins no character, a byte that does not continue one, or an end in the
middle of a character.
-/

/-- Why bytes are no UTF-8, and where. -/
inductive DecodeFault where
  | invalidStart (byte : UInt8) (position : Nat)
  | invalidContinuation (byte : UInt8) (position count : Nat)
  | unexpectedEnd (byte : UInt8) (position count : Nat)
  deriving DecidableEq, Repr

namespace DecodeFault

def hexByte (b : UInt8) : String :=
  let digit (n : Nat) : Char := if n < 10 then Char.ofNat (48 + n) else Char.ofNat (87 + n)
  String.ofList ['0', 'x', digit (b.toNat / 16), digit (b.toNat % 16)]

/-- The bytes concerned: one by its value, several by their places. -/
def concerned (byte : UInt8) (position count : Nat) : String :=
  if count = 1 then
    "byte " ++ hexByte byte ++ " in position " ++ Numeral.ofNat position
  else
    "bytes in position " ++ Numeral.ofNat position ++ "-" ++ Numeral.ofNat (position + count - 1)

def message : DecodeFault → String
  | invalidStart byte position =>
      "'utf-8' codec can't decode " ++ concerned byte position 1 ++ ": invalid start byte"
  | invalidContinuation byte position count =>
      "'utf-8' codec can't decode " ++ concerned byte position count ++
        ": invalid continuation byte"
  | unexpectedEnd byte position count =>
      "'utf-8' codec can't decode " ++ concerned byte position count ++ ": unexpected end of data"

end DecodeFault

/-- How many bytes follow a first byte, and the bounds of the second. -/
def leadOf? (b : Nat) : Option (Nat × Nat × Nat) :=
  if b < 0xC2 then none
  else if b < 0xE0 then some (1, 0x80, 0xBF)
  else if b = 0xE0 then some (2, 0xA0, 0xBF)
  else if b = 0xED then some (2, 0x80, 0x9F)
  else if b < 0xF0 then some (2, 0x80, 0xBF)
  else if b = 0xF0 then some (3, 0x90, 0xBF)
  else if b < 0xF4 then some (3, 0x80, 0xBF)
  else if b = 0xF4 then some (3, 0x80, 0x8F)
  else none

/-- The state inside a character: its first byte and place, the bytes read, the
bytes left, the bounds of the next one and the value so far. -/
structure Partial where
  first : UInt8
  position : Nat
  seen : Nat
  left : Nat
  low : Nat
  high : Nat
  value : Nat

def decodeFrom (position : Nat) (inside : Option Partial) :
    List UInt8 → Except DecodeFault (List Char)
  | [] =>
      match inside with
      | none => .ok []
      | some p => .error (.unexpectedEnd p.first p.position p.seen)
  | b :: bs =>
      match inside with
      | none =>
          if b.toNat < 0x80 then
            match decodeFrom (position + 1) none bs with
            | .ok cs => .ok (Char.ofNat b.toNat :: cs)
            | .error e => .error e
          else
            match leadOf? b.toNat with
            | none => .error (.invalidStart b position)
            | some (left, low, high) =>
                let value := b.toNat - (if left = 1 then 0xC0 else if left = 2 then 0xE0 else 0xF0)
                decodeFrom (position + 1) (some ⟨b, position, 1, left, low, high, value⟩) bs
      | some p =>
          if p.low ≤ b.toNat && b.toNat ≤ p.high then
            let value := p.value * 64 + (b.toNat - 0x80)
            if p.left = 1 then
              match decodeFrom (position + 1) none bs with
              | .ok cs => .ok (Char.ofNat value :: cs)
              | .error e => .error e
            else
              decodeFrom (position + 1)
                (some { p with
                  seen := p.seen + 1, left := p.left - 1, low := 0x80, high := 0xBF, value })
                bs
          else .error (.invalidContinuation p.first p.position p.seen)

def decode (bs : List UInt8) : Except DecodeFault (List Char) := decodeFrom 0 none bs

def decodeBytes? (bs : List UInt8) : Option String :=
  match decode bs with
  | .ok cs => some (String.ofList cs)
  | .error _ => none

def encode (s : String) : List UInt8 := s.toUTF8.toList

/-- The mark of byte order, which may stand in front of a text. -/
def byteOrderMark : Char := '\ufeff'

/-- A text without the mark of byte order in front of it. -/
def unmarked : List Char → List Char
  | [] => []
  | c :: cs => if c = byteOrderMark then cs else c :: cs

/-- Every line break as a line feed: a carriage return counts as one, also
together with a line feed after it. -/
def normalizeBreaks : List Char → List Char
  | [] => []
  | '\r' :: '\n' :: cs => '\n' :: normalizeBreaks cs
  | c :: cs => (if c = '\r' then '\n' else c) :: normalizeBreaks cs

end PageAtlas.Text
