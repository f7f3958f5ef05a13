import PageAtlas.Calendar
import PageAtlas.Json.Value
import PageAtlas.Text.Spelling

namespace PageAtlas

/-!
# Document data

The values that a definition file is made of, before anything is known about
their meaning. Texts are spelled, and tables keep the order of their keys.
-/

inductive Data where
  | null
  | bool (b : Bool)
  | int (i : Int)
  | real (x : Decimal.Binary64)
  | text (s : String)
  | bytes (b : List UInt8)
  | date (d : Date)
  | moment (m : Moment)
  | list (items : List Data)
  | pair (first second : Data)
  | set (items : List Data)
  | table (entries : List (Data × Data))
  /-- A value that stands inside itself: the mark that is shown for it. -/
  | again (mark : String)
  deriving Repr

namespace Data

/-- Whether two values are the same key. Numbers are compared by value, so a
truth value is the same key as zero or one, and moments by the time they mean. -/
def sameKey : Data → Data → Bool
  | null, null => true
  | text a, text b => a == b
  | bytes a, bytes b => a == b
  | date a, date b => a == b
  | moment a, moment b => a.isSame b
  | a, b =>
      match number? a, number? b with
      | some x, some y => x == y
      | _, _ => false
where
  /-- A number as a quotient, or as a sign for the infinite ones. -/
  number? : Data → Option (Int × Nat)
    | bool b => some (if b then 1 else 0, 1)
    | int i => some (i, 1)
    | real (.infinite negative) => some (if negative then -1 else 1, 0)
    | real x =>
        (x.ratio?).map fun (a, b) =>
          let d := Nat.gcd a.natAbs b
          (a / d, b / d)
    | _ => none

/-- A whole number that is not negative. -/
def natural? : Data → Option Nat
  | bool b => some b.toNat
  | int i => i.toNat?
  | _ => none

/-- A set of items: whole numbers in ascending order, others as they come. -/
def setOf (items : List Data) : Data :=
  if items.all fun d => d.natural?.isSome then
    set (items.mergeSort fun a b => a.natural?.getD 0 ≤ b.natural?.getD 0)
  else set items

def entry? (name : String) : List (Data × Data) → Option Data
  | [] => none
  | (text k, v) :: es => if k = name then some v else entry? name es
  | _ :: es => entry? name es

def byteChars (quote : Char) (b : UInt8) : List Char :=
  let c := Char.ofNat b.toNat
  if c = quote || c = '\\' then ['\\', c]
  else if c = '\t' then ['\\', 't']
  else if c = '\n' then ['\\', 'n']
  else if c = '\r' then ['\\', 'r']
  else if 0x20 ≤ b.toNat && b.toNat < 0x7F then [c]
  else '\\' :: 'x' :: Text.hexDigits 2 b.toNat

def bytesShown (bs : List UInt8) : String :=
  let q := Text.quoteFor (bs.map fun b => Char.ofNat b.toNat)
  String.ofList ('b' :: q :: bs.flatMap (byteChars q) ++ [q])

def arguments (ns : List Nat) : String := String.intercalate ", " (ns.map Text.Numeral.ofNat)

def spanShown (minutes : Int) : String :=
  let days := minutes.fdiv 1440
  let seconds := (minutes - days * 1440) * 60
  let parts :=
    (if days = 0 then [] else ["days=" ++ Text.Numeral.ofInt days]) ++
      (if seconds = 0 then [] else ["seconds=" ++ Text.Numeral.ofInt seconds])
  "datetime.timedelta(" ++ String.intercalate ", " parts ++ ")"

def offsetShown (minutes : Int) : String :=
  if minutes = 0 then "datetime.timezone.utc"
  else "datetime.timezone(" ++ spanShown minutes ++ ")"

def momentShown (m : Moment) : String :=
  let base := [m.date.year, m.date.month, m.date.day, m.hour, m.minute]
  let tail :=
    if m.micro ≠ 0 then [m.second, m.micro] else if m.second ≠ 0 then [m.second] else []
  "datetime.datetime(" ++ arguments (base ++ tail) ++
    (match m.offset with
     | none => ""
     | some minutes => ", tzinfo=" ++ offsetShown minutes) ++ ")"

mutual

def shown : Data → String
  | null => "None"
  | bool b => if b then "True" else "False"
  | int i => Text.Numeral.ofInt i
  | real x => Decimal.Format.plain.write x
  | text s => Text.Spelling.quoted s
  | bytes b => bytesShown b
  | date d => "datetime.date(" ++ arguments [d.year, d.month, d.day] ++ ")"
  | moment m => momentShown m
  | list items => "[" ++ String.intercalate ", " (shownAll items) ++ "]"
  | pair a b => "(" ++ shown a ++ ", " ++ shown b ++ ")"
  | set [] => "set()"
  | set (x :: xs) => "\x7b" ++ String.intercalate ", " (shown x :: shownAll xs) ++ "\x7d"
  | table entries => "\x7b" ++ String.intercalate ", " (shownEntries entries) ++ "\x7d"
  | again mark => mark

def shownAll : List Data → List String
  | [] => []
  | d :: ds => shown d :: shownAll ds

def shownEntries : List (Data × Data) → List String
  | [] => []
  | (k, v) :: es => (shown k ++ ": " ++ shown v) :: shownEntries es

end

mutual

/-- Whether a value can be shown: all integers in it can be written. -/
def isShowable : Data → Bool
  | int i => !Text.Numeral.isOversized i
  | list items => areShowable items
  | pair a b => isShowable a && isShowable b
  | set items => areShowable items
  | table entries => haveShowable entries
  | _ => true

def areShowable : List Data → Bool
  | [] => true
  | d :: ds => isShowable d && areShowable ds

def haveShowable : List (Data × Data) → Bool
  | [] => true
  | (k, v) :: es => isShowable k && isShowable v && haveShowable es

end

def kindName : Data → String
  | list _ => "list"
  | pair .. => "tuple"
  | set _ => "set"
  | table _ => "dict"
  | _ => "int"

/-- A value as it is shown by itself: a text without quotes, a date in the
usual form, anything else as inside another value. Of one that cannot be shown
the kind is told, and surrogates in a text are given up. -/
def display (d : Data) : String :=
  if d.isShowable then
    match d with
    | text s => Text.Spelling.lossy s
    | date d => d.shown
    | moment m => m.shown " "
    | d => shown d
  else "<unprintable " ++ d.kindName ++ " object>"

/-- What several values say together: a single one is shown by itself, others
stand in parentheses. -/
def displayAll : List Data → String
  | [] => ""
  | [d] => d.display
  | ds => "(" ++ String.intercalate ", " (shownAll ds) ++ ")"

mutual

/-- The data of a JSON value whose texts are spelled. -/
def ofJson : Json → Data
  | .null => null
  | .bool b => bool b
  | .int i => int i
  | .real x => real x
  | .str s => text s
  | .arr items => list (ofJsonAll items)
  | .obj members => table (ofJsonMembers members)

def ofJsonAll : List Json → List Data
  | [] => []
  | v :: vs => ofJson v :: ofJsonAll vs

def ofJsonMembers : List (String × Json) → List (Data × Data)
  | [] => []
  | (k, v) :: ms => (text k, ofJson v) :: ofJsonMembers ms

end

end Data

end PageAtlas
