import PageAtlas.Json.Value

namespace PageAtlas.Json

/-!
# Reading JSON

Members keep their order; of two members of one name the last one wins. A
number with a fraction or an exponent is a double, any other an integer.
-/

def isGap (c : Char) : Bool := c == ' ' || c == '\t' || c == '\n' || c == '\r'

def skipGaps (cs : List Char) : List Char := cs.dropWhile isGap

def hexValue? (c : Char) : Option Nat :=
  if '0' ≤ c && c ≤ '9' then some (c.toNat - 48)
  else if 'a' ≤ c && c ≤ 'f' then some (c.toNat - 87)
  else if 'A' ≤ c && c ≤ 'F' then some (c.toNat - 55)
  else none

def hex4? (a b c d : Char) : Option Nat := do
  let a ← hexValue? a
  let b ← hexValue? b
  let c ← hexValue? c
  let d ← hexValue? d
  some (((a * 16 + b) * 16 + c) * 16 + d)

def unescape? (c : Char) : Option Char :=
  if c = '"' then some '"'
  else if c = '\\' then some '\\'
  else if c = '/' then some '/'
  else if c = 'b' then some '\x08'
  else if c = 'f' then some '\x0c'
  else if c = 'n' then some '\n'
  else if c = 'r' then some '\r'
  else if c = 't' then some '\t'
  else none

def joinSurrogates (high low : Nat) : Char :=
  Char.ofNat (0x10000 + (high - 0xD800) * 0x400 + (low - 0xDC00))

def readString : List Char → Option (List Char × List Char)
  | [] => none
  | '"' :: rest => some ([], rest)
  | '\\' :: 'u' :: a :: b :: c :: d :: '\\' :: 'u' :: e :: f :: g :: h :: rest =>
      match hex4? a b c d with
      | none => none
      | some high =>
          match hex4? e f g h with
          | none => none
          | some low =>
              if 0xD800 ≤ high && high < 0xDC00 && 0xDC00 ≤ low && low < 0xE000 then
                (readString rest).map fun (s, r) => (joinSurrogates high low :: s, r)
              else
                (readString ('\\' :: 'u' :: e :: f :: g :: h :: rest)).map fun (s, r) =>
                  (Char.ofNat high :: s, r)
  | '\\' :: 'u' :: a :: b :: c :: d :: rest =>
      match hex4? a b c d with
      | none => none
      | some n => (readString rest).map fun (s, r) => (Char.ofNat n :: s, r)
  | '\\' :: c :: rest =>
      match unescape? c with
      | none => none
      | some x => (readString rest).map fun (s, r) => (x :: s, r)
  | c :: rest =>
      if c = '\\' || c.toNat < 0x20 then none
      else (readString rest).map fun (s, r) => (c :: s, r)
  termination_by cs => cs.length

def isNumberChar (c : Char) : Bool :=
  Text.Numeral.isDigit c || c == '-' || c == '+' || c == '.' || c == 'e' || c == 'E'

def digits (cs : List Char) : List Char × List Char :=
  (cs.takeWhile Text.Numeral.isDigit, cs.dropWhile Text.Numeral.isDigit)

def readExponent : List Char → Option Int
  | '+' :: ds => if Text.Numeral.isNumeral ds then some (Text.Numeral.value ds) else none
  | '-' :: ds => if Text.Numeral.isNumeral ds then some (-(Text.Numeral.value ds : Int)) else none
  | ds => if Text.Numeral.isNumeral ds then some (Text.Numeral.value ds) else none

def readUnsigned (negative : Bool) (cs : List Char) : Option Json :=
  let (whole, rest) := digits cs
  if whole.isEmpty then none
  else
    match rest with
    | [] =>
        let n : Int := Text.Numeral.value whole
        some (int (if negative then -n else n))
    | '.' :: rest =>
        let (fraction, rest) := digits rest
        let all := Text.Numeral.value (whole ++ fraction)
        if fraction.isEmpty then none
        else
          match rest with
          | [] => some (real (Decimal.Binary64.ofDecimal negative all (-(fraction.length : Int))))
          | e :: rest =>
              if e = 'e' || e = 'E' then
                (readExponent rest).map fun k =>
                  real (Decimal.Binary64.ofDecimal negative all (k - fraction.length))
              else none
    | e :: rest =>
        if e = 'e' || e = 'E' then
          (readExponent rest).map fun k =>
            real (Decimal.Binary64.ofDecimal negative (Text.Numeral.value whole) k)
        else none

def readNumber : List Char → Option Json
  | '-' :: cs => readUnsigned true cs
  | cs => readUnsigned false cs

def readBare (cs : List Char) : Option (Json × List Char) :=
  match cs with
  | 'n' :: 'u' :: 'l' :: 'l' :: rest => some (null, rest)
  | 't' :: 'r' :: 'u' :: 'e' :: rest => some (bool true, rest)
  | 'f' :: 'a' :: 'l' :: 's' :: 'e' :: rest => some (bool false, rest)
  | 'N' :: 'a' :: 'N' :: rest => some (real .nan, rest)
  | 'I' :: 'n' :: 'f' :: 'i' :: 'n' :: 'i' :: 't' :: 'y' :: rest =>
      some (real (.infinite false), rest)
  | '-' :: 'I' :: 'n' :: 'f' :: 'i' :: 'n' :: 'i' :: 't' :: 'y' :: rest =>
      some (real (.infinite true), rest)
  | _ => (readNumber (cs.takeWhile isNumberChar)).map fun v => (v, cs.dropWhile isNumberChar)

mutual

/-- Reads one value. The fuel bounds the number of values and brackets read. -/
def readValue : Nat → List Char → Option (Json × List Char)
  | 0, _ => none
  | fuel + 1, cs =>
      match skipGaps cs with
      | '"' :: rest => (readString rest).map fun (s, r) => (str (String.ofList s), r)
      | '[' :: rest =>
          match skipGaps rest with
          | ']' :: rest => some (arr [], rest)
          | rest => (readItems fuel rest).map fun (xs, r) => (arr xs, r)
      | '\x7b' :: rest =>
          match skipGaps rest with
          | '\x7d' :: rest => some (obj [], rest)
          | rest => (readMembers fuel rest).map fun (ms, r) => (obj (Ordered.ofList ms), r)
      | rest => readBare rest

def readItems : Nat → List Char → Option (List Json × List Char)
  | 0, _ => none
  | fuel + 1, cs =>
      match readValue fuel cs with
      | none => none
      | some (v, rest) =>
          match skipGaps rest with
          | ']' :: rest => some ([v], rest)
          | ',' :: rest => (readItems fuel rest).map fun (vs, r) => (v :: vs, r)
          | _ => none

def readMembers : Nat → List Char → Option (List (String × Json) × List Char)
  | 0, _ => none
  | fuel + 1, cs =>
      match skipGaps cs with
      | '"' :: rest =>
          match readString rest with
          | none => none
          | some (k, rest) =>
              match skipGaps rest with
              | ':' :: rest =>
                  match readValue fuel rest with
                  | none => none
                  | some (v, rest) =>
                      match skipGaps rest with
                      | '\x7d' :: rest => some ([(String.ofList k, v)], rest)
                      | ',' :: rest =>
                          (readMembers fuel rest).map fun (ms, r) => ((String.ofList k, v) :: ms, r)
                      | _ => none
              | _ => none
      | _ => none

end

def parse? (text : String) : Option Json :=
  let cs := text.toList
  match readValue (2 * cs.length + 2) cs with
  | some (v, rest) => if (skipGaps rest).isEmpty then some v else none
  | none => none

end PageAtlas.Json
