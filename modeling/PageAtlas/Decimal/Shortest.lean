import PageAtlas.Decimal.Binary64
import PageAtlas.Text.Numeral

namespace PageAtlas.Decimal

/-!
# Shortest decimals

The fewest digits that read back as a given double, and among those the
nearest. `Format` says how such digits are laid out.
-/

/-- `digits * 10 ^ exponent`. -/
structure Digits where
  digits : Nat
  exponent : Int
  deriving DecidableEq, Repr

namespace Digits

def apart (a b c d : Nat) : Nat := (a * d - c * b) + (c * b - a * d)

/-- The decimals with the given exponent next to `num / den`, the nearer first. -/
def neighbours (num den : Nat) (exponent : Int) : List Digits :=
  let (n, d) :=
    match exponent with
    | .ofNat k => (num, den * tenTo k)
    | .negSucc k => (num * tenTo (k + 1), den)
  let low := n / d
  let below : Digits := ⟨low, exponent⟩
  let above : Digits := ⟨low + 1, exponent⟩
  let down := apart n d low 1
  let up := apart n d (low + 1) 1
  if down < up then [below, above]
  else if up < down then [above, below]
  else if low % 2 = 0 then [below, above] else [above, below]

/-- The number of digits before the decimal point of a positive quotient; zero
or less when the first digit comes after it. -/
def leading (num den : Nat) : Int :=
  let guess : Int := (Nat.toDigits 10 num).length - (Nat.toDigits 10 den).length
  -- the quotient lies strictly between 10 ^ (guess - 1) and 10 ^ (guess + 1)
  let reaches : Bool :=
    match guess with
    | .ofNat k => decide (den * tenTo k ≤ num)
    | .negSucc k => decide (den ≤ num * tenTo (k + 1))
  if reaches then guess + 1 else guess

/-- Tries ever more digits until one reads back as `target`. -/
def search (target : Binary64) (num den : Nat) (top : Int) : Nat → Nat → Digits
  | 0, count => ((neighbours num den (top - count)).head?).getD ⟨0, 0⟩
  | fuel + 1, count =>
      let found := (neighbours num den (top - count)).find? fun c =>
        decide (Binary64.ofDecimal false c.digits c.exponent = target)
      match found with
      | some c => c
      | none => search target num den top fuel (count + 1)

/-- The shortest decimal of `m * 2 ^ q`; seventeen digits always suffice. -/
def shortest (m : Nat) (q : Int) : Digits :=
  match Binary64.ratio? (.finite false m q) with
  | none => ⟨0, 0⟩
  | some (num, den) =>
      if num = 0 then ⟨0, 0⟩
      else search (.finite false m q) num.natAbs den (leading num.natAbs den) 16 1

end Digits

structure Format where
  /-- Positional notation is used when the point stands after more than
  `-positionalFrom` and at most `positionalTo` digits. -/
  positionalFrom : Int
  positionalTo : Int
  /-- Fewest digits of an exponent. -/
  exponentWidth : Nat
  nan : String
  infinity : String

/-- Positional from `1e-4` up to below `1e16`, a decimal point always, and an
exponent with a sign and at least two digits. -/
def Format.plain : Format := ⟨-4, 16, 2, "nan", "inf"⟩

def Format.structured : Format := ⟨-4, 16, 2, "NaN", "Infinity"⟩

namespace Format

def exponentText (f : Format) (e : Int) : String :=
  (if e < 0 then "e-" else "e+") ++ Text.Numeral.padded f.exponentWidth e.natAbs

/-- Lays out digits without trailing zeros, with `point` of them before the
decimal point. -/
def layout (f : Format) (ds : List Char) (point : Int) : String :=
  if f.positionalFrom < point && point ≤ f.positionalTo then
    if point ≤ 0 then
      "0." ++ String.ofList (List.replicate point.natAbs '0' ++ ds)
    else
      let k := point.toNat
      let whole := ds.take k ++ List.replicate (k - ds.length) '0'
      let rest := ds.drop k
      String.ofList whole ++ "." ++ (if rest.isEmpty then "0" else String.ofList rest)
  else
    match ds with
    | [] => "0"
    | d :: rest =>
        String.ofList (d :: (if rest.isEmpty then [] else '.' :: rest)) ++
          f.exponentText (point - 1)

def write (f : Format) : Binary64 → String
  | .nan => f.nan
  | .infinite negative => (if negative then "-" else "") ++ f.infinity
  | .finite negative m q =>
      let sign := if negative then "-" else ""
      if m = 0 then sign ++ "0.0"
      else
        let short := Digits.shortest m q
        let all := Nat.toDigits 10 short.digits
        let ds := Text.Numeral.stripZeros all
        sign ++ f.layout ds (all.length + short.exponent)

end Format

/-- `num / den` with exactly `places` digits after the point; a half goes to
the even neighbour. -/
def fixed (places num den : Nat) : String :=
  let scaled := roundDiv (num * tenTo places) den
  let whole := scaled / tenTo places
  Text.Numeral.ofNat whole ++ "." ++ Text.Numeral.padded places (scaled % tenTo places)

/-- A finite double with exactly `places` digits after the point. -/
def Binary64.fixed (places : Nat) : Binary64 → String
  | .nan => "nan"
  | .infinite negative => (if negative then "-" else "") ++ "inf"
  | .finite negative m q =>
      (if negative then "-" else "") ++
        match q with
        | .ofNat k => Decimal.fixed places (m * twoTo k) 1
        | .negSucc k => Decimal.fixed places m (twoTo (k + 1))

end PageAtlas.Decimal
