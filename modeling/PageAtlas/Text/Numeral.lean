namespace PageAtlas.Text.Numeral

/-!
# Decimal numerals

Reading and writing natural numbers in base ten, digit by digit.
-/

def isDigit (c : Char) : Bool := '0' ≤ c && c ≤ '9'

def digitValue (c : Char) : Nat := c.toNat - '0'.toNat

def digit (n : Nat) : Char := Char.ofNat ('0'.toNat + n)

def value (cs : List Char) : Nat := cs.foldl (fun n c => 10 * n + digitValue c) 0

def isNumeral (cs : List Char) : Bool := !cs.isEmpty && cs.all isDigit

def ofNat (n : Nat) : String := String.ofList (Nat.toDigits 10 n)

def ofInt : Int → String
  | .ofNat n => ofNat n
  | .negSucc n => "-" ++ ofNat (n + 1)

/-- The most digits that an integer may have to be read or written. -/
def maxDigits : Nat := 4300

/-- The fault of a numeral with more than `maxDigits` digits. -/
def oversized (digits : Nat) : String :=
  "Exceeds the limit (" ++ ofNat maxDigits ++
    " digits) for integer string conversion: value has " ++
    ofNat digits ++ " digits; use sys.set_int_max_str_digits() to increase the limit"

def isOversized (i : Int) : Bool := maxDigits < (Nat.toDigits 10 i.natAbs).length

/-- The fault of an integer with more than `maxDigits` digits, which is not written. -/
def unwritable : String :=
  "Exceeds the limit (" ++ ofNat maxDigits ++
    " digits) for integer string conversion; use sys.set_int_max_str_digits() to increase the limit"

def padded (width n : Nat) : String :=
  let ds := Nat.toDigits 10 n
  String.ofList (List.replicate (width - ds.length) '0' ++ ds)

def stripZeros (ds : List Char) : List Char := (ds.reverse.dropWhile (· == '0')).reverse

end PageAtlas.Text.Numeral

/-!
## Digits of all scripts

The characters of the Unicode category `Nd`. They come in runs of ten, from
zero to nine.
-/

namespace PageAtlas.Text

def zeros : List Nat := [
  0x660, 0x6F0, 0x7C0, 0x966, 0x9E6, 0xA66, 0xAE6, 0xB66, 0xBE6, 0xC66, 0xCE6, 0xD66, 0xDE6, 0xE50,
  0xED0, 0xF20, 0x1040, 0x1090, 0x17E0, 0x1810, 0x1946, 0x19D0, 0x1A80, 0x1A90, 0x1B50, 0x1BB0,
  0x1C40, 0x1C50, 0xA620, 0xA8D0, 0xA900, 0xA9D0, 0xA9F0, 0xAA50, 0xABF0, 0xFF10, 0x104A0, 0x10D30,
  0x11066, 0x110F0, 0x11136, 0x111D0, 0x112F0, 0x11450, 0x114D0, 0x11650, 0x116C0, 0x11730, 0x118E0,
  0x11950, 0x11C50, 0x11D50, 0x11DA0, 0x16A60, 0x16AC0, 0x16B50, 0x1D7CE, 0x1D7D8, 0x1D7E2, 0x1D7EC,
  0x1D7F6, 0x1E140, 0x1E2F0, 0x1E950, 0x1FBF0]

def decimal? (c : Char) : Option Nat :=
  if Numeral.isDigit c then some (Numeral.digitValue c)
  else (zeros.find? fun z => z ≤ c.toNat && c.toNat < z + 10).map fun z => c.toNat - z

/-- A digit of any script as an ASCII digit; other characters stand for themselves. -/
def asciiDigit (c : Char) : Char := ((decimal? c).map Numeral.digit).getD c

end PageAtlas.Text
