namespace PageAtlas.Decimal

/-!
# Double precision numbers

A finite number is `m * 2 ^ q` with `m < 2 ^ 53` and `-1074 ≤ q`; it is
canonical when `m` has its top bit set or `q` is least. `ofRatio` rounds an
exact quotient to the nearest such number, a tie to the even one, and every
operation here is an exact quotient rounded once.
-/

inductive Binary64 where
  | nan
  | infinite (negative : Bool)
  | finite (negative : Bool) (m : Nat) (q : Int)
  deriving DecidableEq, Repr

def twoTo (k : Nat) : Nat := Nat.pow 2 k

def tenTo (k : Nat) : Nat := Nat.pow 10 k

/-- The quotient rounded to the nearest integer, a tie to the even one. -/
def roundDiv (num den : Nat) : Nat :=
  let floor := num / den
  let twice := 2 * (num % den)
  if twice < den then floor
  else if den < twice then floor + 1
  else if floor % 2 = 0 then floor else floor + 1

namespace Binary64

def leastExponent : Int := -1074

def greatestExponent : Int := 971

def zero (negative : Bool) : Binary64 := finite negative 0 leastExponent

def scaled (num den : Nat) (q : Int) : Nat × Nat :=
  match q with
  | .ofNat k => (num, den * twoTo k)
  | .negSucc k => (num * twoTo (k + 1), den)

/-- The exponent at which a positive quotient has a significand of 53 bits. -/
def exponentOf (num den : Nat) : Int :=
  let guess : Int := (Nat.log2 num : Int) - (Nat.log2 den : Int) - 52
  let (n, d) := scaled num den guess
  let q := if n < d * twoTo 52 then guess - 1 else guess
  max q leastExponent

def ofRatio (negative : Bool) (num den : Nat) : Binary64 :=
  if num = 0 || den = 0 then zero negative
  else
    let q := exponentOf num den
    let (n, d) := scaled num den q
    let m := roundDiv n d
    let (m, q) := if m = twoTo 53 then (twoTo 52, q + 1) else (m, q)
    if greatestExponent < q then infinite negative else finite negative m q

/-- The double nearest to `digits * 10 ^ exponent`. Beyond four hundred places
the result is infinite or zero whatever the digits are. -/
def ofDecimal (negative : Bool) (digits : Nat) (exponent : Int) : Binary64 :=
  if digits = 0 then zero negative
  else
    let magnitude : Int := exponent + (Nat.toDigits 10 digits).length
    if 400 < magnitude then infinite negative
    else if magnitude < -400 then zero negative
    else
      match exponent with
      | .ofNat k => ofRatio negative (digits * tenTo k) 1
      | .negSucc k => ofRatio negative digits (tenTo (k + 1))

def ofNat (n : Nat) : Binary64 := ofRatio false n 1

def ratio? : Binary64 → Option (Int × Nat)
  | finite negative m q =>
      let sign : Int := if negative then -1 else 1
      match q with
      | .ofNat k => some (sign * (m * twoTo k : Nat), 1)
      | .negSucc k => some (sign * (m : Int), twoTo (k + 1))
  | _ => none

def negate : Binary64 → Binary64
  | nan => nan
  | infinite negative => infinite (!negative)
  | finite negative m q => finite (!negative) m q

def ofSigned (num : Int) (den : Nat) : Binary64 :=
  if num < 0 then ofRatio true num.natAbs den else ofRatio false num.natAbs den

/-- The rounded sum. An infinite operand gives an infinite sum. -/
def add (x y : Binary64) : Binary64 :=
  match x, y with
  | nan, _ => nan
  | _, nan => nan
  | infinite a, infinite b => if a = b then infinite a else nan
  | infinite a, _ => infinite a
  | _, infinite b => infinite b
  | _, _ =>
      match ratio? x, ratio? y with
      | some (a, b), some (c, d) => ofSigned (a * d + c * b) (b * d)
      | _, _ => nan

def isNegative : Binary64 → Bool
  | nan => false
  | infinite negative => negative
  | finite negative _ _ => negative

/-- The rounded product. There is none of zero and an infinite number. -/
def mul (x y : Binary64) : Binary64 :=
  let negative := x.isNegative != y.isNegative
  match x, y with
  | nan, _ => nan
  | _, nan => nan
  | infinite _, infinite _ => infinite negative
  | infinite _, finite _ m _ => if m = 0 then nan else infinite negative
  | finite _ m _, infinite _ => if m = 0 then nan else infinite negative
  | finite .., finite .. =>
      match ratio? x, ratio? y with
      | some (a, b), some (c, d) => ofRatio negative (a.natAbs * c.natAbs) (b * d)
      | _, _ => nan

/-- The integer that the number equals, if it equals one. -/
def toInt? (x : Binary64) : Option Int :=
  match ratio? x with
  | some (a, b) => if a % b = 0 then some (a / b) else none
  | none => none

end Binary64

end PageAtlas.Decimal
