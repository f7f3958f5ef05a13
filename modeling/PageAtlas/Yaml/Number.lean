import PageAtlas.Decimal.Binary64
import PageAtlas.Text.Blank
import PageAtlas.Text.Lower
import PageAtlas.Text.Numeral
import PageAtlas.Yaml.Fault
import PageAtlas.Yaml.Tag

namespace PageAtlas.Yaml

/-!
# The values of numbers

Underscores between digits mean nothing. A leading zero makes an integer octal,
and parts between colons are digits in base sixty. A number that is tagged as
one may also have a form that is not recognised by itself, so its reading can
fail in more ways, and its digits may be those of any script.
-/

namespace Number

def ungrouped (s : String) : List Char := s.toList.filter (· != '_')

def digit? (base : Nat) (c : Char) : Option Nat := do
  let n ← hexDigit c
  if n < base then some n else none
where
  hexDigit (c : Char) : Option Nat :=
    if '0' ≤ c && c ≤ '9' then some (c.toNat - 48)
    else if 'a' ≤ c && c ≤ 'f' then some (c.toNat - 87)
    else if 'A' ≤ c && c ≤ 'F' then some (c.toNat - 55)
    else none

/-- The value of digits, of which there has to be one at least. -/
def digits? (base : Nat) (cs : List Char) : Option Nat :=
  if cs.isEmpty then none
  else cs.foldl (fun n c => do return (← n) * base + (← digit? base c)) (some 0)

def unmarked (base : Nat) (cs : List Char) : List Char :=
  match cs with
  | '0' :: mark :: ds =>
      let m := mark.toLower
      if (base = 2 && m = 'b') || (base = 8 && m = 'o') || (base = 16 && m = 'x') then ds else cs
  | _ => cs

def plain (cs : List Char) : List Char :=
  (Text.dropTrailing Text.isSpace (cs.dropWhile Text.isSpace)).map Text.asciiDigit

/-- Reads an integer in a base. Blanks around it do not count. -/
def readInteger (base : Nat) (cs : List Char) : Except Fault Int :=
  let body := plain cs
  let negative := body.head? == some '-'
  let ds := unmarked base (Form.unsigned body)
  let length := (ds.takeWhile Text.Numeral.isDigit).length
  if base = 10 && Text.Numeral.maxDigits < length then .error (.oversizedInteger length)
  else
    match digits? base ds with
    | none => .error (.notInteger base (String.ofList cs))
    | some n => .ok (if negative then -(n : Int) else n)

def sexagesimal (parts : List Int) : Int := parts.foldl (fun n p => n * 60 + p) 0

def integerParts : List (List Char) → Except Fault (List Int)
  | [] => .ok []
  | p :: ps => do
      let n ← readInteger 10 p
      let ns ← integerParts ps
      return n :: ns

def magnitude (cs : List Char) : Except Fault Int :=
  match cs with
  | [] => .error .noDigits
  | '0' :: 'b' :: ds => readInteger 2 ds
  | '0' :: 'x' :: ds => readInteger 16 ds
  | '0' :: _ => readInteger 8 cs
  | _ =>
      if cs.contains ':' then do
        let parts ← integerParts (Form.colonParts cs)
        return sexagesimal parts
      else readInteger 10 cs

def integer (s : String) : Except Fault Int :=
  match ungrouped s with
  | [] => .error .noDigits
  | '-' :: cs => do return -(← magnitude cs)
  | '+' :: cs => magnitude cs
  | cs => magnitude cs

/-- The value of a decimal fraction without sign, if the text is one. -/
def decimal? (negative : Bool) (cs : List Char) : Option Decimal.Binary64 :=
  let whole := cs.takeWhile Text.Numeral.isDigit
  let rest := cs.dropWhile Text.Numeral.isDigit
  let (fraction, rest) : List Char × List Char :=
    match rest with
    | '.' :: rest => (rest.takeWhile Text.Numeral.isDigit, rest.dropWhile Text.Numeral.isDigit)
    | _ => ([], rest)
  let value (exponent : Int) :=
    Decimal.Binary64.ofDecimal negative (Text.Numeral.value (whole ++ fraction))
      (exponent - fraction.length)
  if whole.isEmpty && fraction.isEmpty then none
  else
    match rest with
    | [] => some (value 0)
    | e :: rest =>
        let ds := Form.unsigned rest
        if e = 'e' && Text.Numeral.isNumeral ds then
          let n : Int := Text.Numeral.value ds
          some (value (if rest.head? == some '-' then -n else n))
        else none

/-- Reads a number in small letters. Blanks around it do not count. -/
def readReal (cs : List Char) : Except Fault Decimal.Binary64 :=
  let body := plain cs
  let negative := body.head? == some '-'
  let bare := Form.unsigned body
  if bare == "inf".toList || bare == "infinity".toList then .ok (.infinite negative)
  else if bare == "nan".toList then .ok .nan
  else
    match decimal? negative bare with
    | some x => .ok x
    | none => .error (.notReal (String.ofList cs))

/-- The rounded sum of parts in base sixty, beginning with the ones. Each part
counts as often as its place says, which a double has to hold. -/
def sumParts (place : Nat) (sum : Decimal.Binary64) :
    List Decimal.Binary64 → Except Fault Decimal.Binary64
  | [] => .ok sum
  | x :: xs =>
      match Decimal.Binary64.ofNat place with
      | .infinite _ => .error .hugePlace
      | weight => sumParts (place * 60) (sum.add (x.mul weight)) xs

def realParts : List (List Char) → Except Fault (List Decimal.Binary64)
  | [] => .ok []
  | p :: ps => do
      let x ← readReal p
      let xs ← realParts ps
      return x :: xs

def realMagnitude (cs : List Char) : Except Fault Decimal.Binary64 :=
  if cs == ".inf".toList then .ok (.infinite false)
  else if cs == ".nan".toList then .ok .nan
  else if cs.contains ':' then do
    let parts ← realParts (Form.colonParts cs)
    sumParts 1 (.zero false) parts.reverse
  else readReal cs

/-- A number with a fraction, in small letters and without underscores. -/
def realText (s : String) : List Char := (Text.lower (String.ofList (ungrouped s))).toList

/-- Whether a text is the sign for what is no number, as opposed to a number
that turns out to be none. -/
def isNanSign (s : String) : Bool := Form.unsigned (realText s) == ".nan".toList

def real (s : String) : Except Fault Decimal.Binary64 :=
  match realText s with
  | [] => .error .noDigits
  | '-' :: cs => do return (← realMagnitude cs).negate
  | '+' :: cs => realMagnitude cs
  | cs => realMagnitude cs

end Number

end PageAtlas.Yaml
