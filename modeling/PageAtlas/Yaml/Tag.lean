import PageAtlas.Text.Numeral
import PageAtlas.Text.Split

namespace PageAtlas.Yaml

/-!
# Tags

What a node is. A plain scalar without a tag of its own is recognised by its
form, and so is any scalar with a lone mark as its tag: words for truth values
and for nothing, integers in four bases and in minutes and seconds, decimal
fractions, and dates.
-/

inductive Tag where
  | null
  | bool
  | int
  | float
  | timestamp
  | binary
  | str
  | seq
  | map
  | set
  | omap
  | pairs
  /-- The key under which other mappings are merged into one. -/
  | merge
  /-- The key of a default value. -/
  | value
  | other (name : String)
  deriving DecidableEq, Repr

namespace Tag

/-- What the names of the known tags begin with. -/
def core : String := "tag:yaml.org,2002:"

def known : List (String × Tag) :=
  [("null", null), ("bool", bool), ("int", int), ("float", float), ("timestamp", timestamp),
    ("binary", binary), ("str", str), ("seq", seq), ("map", map), ("set", set), ("omap", omap),
    ("pairs", pairs), ("merge", merge), ("value", value)]

def ofName (name : String) : Tag :=
  match known.find? fun (word, _) => core ++ word == name with
  | some (_, t) => t
  | none => other name

end Tag

namespace Form

/-!
## Forms of plain scalars
-/

def isDigit (c : Char) : Bool := Text.Numeral.isDigit c

def isDigitOrGroup (c : Char) : Bool := isDigit c || c == '_'

def isHexOrGroup (c : Char) : Bool :=
  isDigitOrGroup c || ('a' ≤ c && c ≤ 'f') || ('A' ≤ c && c ≤ 'F')

def some? (p : Char → Bool) (cs : List Char) : Bool := !cs.isEmpty && cs.all p

def unsigned : List Char → List Char
  | '+' :: cs => cs
  | '-' :: cs => cs
  | cs => cs

def isSixty : List Char → Bool
  | [a] => isDigit a
  | [a, b] => '0' ≤ a && a ≤ '5' && isDigit b
  | _ => false

def colonParts (cs : List Char) : List (List Char) := Text.split ':' cs

/-- A number, and after colons at least one more of at most 59. -/
def isSexagesimal (first : List Char → Bool) (cs : List Char) : Bool :=
  match colonParts cs with
  | p :: q :: ps => first p && (q :: ps).all isSixty
  | _ => false

def isPositive : List Char → Bool
  | c :: cs => '1' ≤ c && c ≤ '9' && cs.all isDigitOrGroup
  | [] => false

def isWhole : List Char → Bool
  | c :: cs => isDigit c && cs.all isDigitOrGroup
  | [] => false

def isInteger (cs : List Char) : Bool :=
  match unsigned cs with
  | '0' :: 'b' :: ds => some? (fun c => c == '0' || c == '1' || c == '_') ds
  | '0' :: 'x' :: ds => some? isHexOrGroup ds
  | ['0'] => true
  | '0' :: ds => ds.all fun c => ('0' ≤ c && c ≤ '7') || c == '_'
  | ds => isPositive ds || isSexagesimal isPositive ds

def isExponent : List Char → Bool
  | [] => true
  | e :: sign :: ds =>
      (e == 'e' || e == 'E') && (sign == '+' || sign == '-') && some? isDigit ds
  | _ => false

def isFraction (cs : List Char) : Bool := isExponent (cs.dropWhile isDigitOrGroup)

def isReal (cs : List Char) : Bool :=
  match cs with
  | ['.', 'n', 'a', 'n'] => true
  | ['.', 'N', 'a', 'N'] => true
  | ['.', 'N', 'A', 'N'] => true
  | '.' :: c :: ds => (isDigit c && isFraction ds) || isInfinite cs
  | _ => isInfinite cs || isPointed (unsigned cs)
where
  isInfinite (cs : List Char) : Bool :=
    let word := unsigned cs
    word == ['.', 'i', 'n', 'f'] || word == ['.', 'I', 'n', 'f'] || word == ['.', 'I', 'N', 'F']
  /-- A number before a point. -/
  isPointed (cs : List Char) : Bool :=
    let whole := cs.takeWhile (· != '.')
    match cs.dropWhile (· != '.') with
    | '.' :: rest =>
        (isWhole whole && isFraction rest) ||
          (isSexagesimal isWhole whole && rest.all isDigitOrGroup)
    | _ => false

/-- A date or a moment as it is written: the numerals of its parts. The numeral
of an hour is empty in a date, and the sign of an offset is absent without one. -/
structure Stamp where
  year : List Char
  month : List Char
  day : List Char
  hour : List Char := []
  minute : List Char := []
  second : List Char := []
  fraction : List Char := []
  /-- The moment is given in universal time. -/
  universal : Bool := false
  offsetSign : Option Char := none
  offsetHour : List Char := []
  offsetMinute : List Char := []
  deriving Repr

namespace Stamp

/-- Between `low` and `high` digits, as many as there are. -/
def digits? (low high : Nat) (cs : List Char) : Option (List Char × List Char) :=
  let ds := (cs.takeWhile isDigit).take high
  if low ≤ ds.length then some (ds, cs.drop ds.length) else none

def after? (x : Char) : List Char → Option (List Char)
  | c :: cs => if c = x then some cs else none
  | [] => none

def isGap (c : Char) : Bool := c == ' ' || c == '\t'

/-- The end of a moment: nothing, or its place in the day of the earth. -/
def zone? (s : Stamp) (cs : List Char) : Option Stamp :=
  if cs.isEmpty then some s
  else
    match cs.dropWhile isGap with
    | ['Z'] => some { s with universal := true }
    | sign :: cs =>
        if sign = '+' || sign = '-' then do
          let (hour, cs) ← digits? 1 2 cs
          let s := { s with offsetSign := some sign, offsetHour := hour }
          if cs.isEmpty then some s
          else
            let cs ← after? ':' cs
            let (minute, cs) ← digits? 2 2 cs
            if cs.isEmpty then some { s with offsetMinute := minute } else none
        else none
    | [] => none

def clock? (s : Stamp) (cs : List Char) : Option Stamp := do
  let (hour, cs) ← digits? 1 2 cs
  let cs ← after? ':' cs
  let (minute, cs) ← digits? 2 2 cs
  let cs ← after? ':' cs
  let (second, cs) ← digits? 2 2 cs
  let s := { s with hour, minute, second }
  match cs with
  | '.' :: cs => zone? { s with fraction := cs.takeWhile isDigit } (cs.dropWhile isDigit)
  | cs => zone? s cs

/-- What follows the mark between date and time: a letter, or blanks. -/
def afterDivider? : List Char → Option (List Char)
  | c :: cs =>
      if c = 'T' || c = 't' then some cs
      else if isGap c then some (cs.dropWhile isGap)
      else none
  | [] => none

def read? (cs : List Char) : Option Stamp := do
  let (year, cs) ← digits? 4 4 cs
  let cs ← after? '-' cs
  let (month, cs) ← digits? 1 2 cs
  let cs ← after? '-' cs
  let (day, cs) ← digits? 1 2 cs
  let s : Stamp := { year, month, day }
  if cs.isEmpty then some s
  else
    let cs ← afterDivider? cs
    clock? s cs

/-- Whether a plain scalar is a stamp: a date has two digits for month and day. -/
def isStamp (cs : List Char) : Bool :=
  match read? cs with
  | none => false
  | some s => !s.hour.isEmpty || (s.month.length == 2 && s.day.length == 2)

end Stamp

def truthWords : List (String × Bool) :=
  [("yes", true), ("no", false), ("true", true), ("false", false), ("on", true), ("off", false)]

def isCased (word : String) (cs : List Char) : Bool :=
  let small := word.toList
  let capital := small.map Char.toUpper
  cs == small || cs == capital || cs == capital.take 1 ++ small.drop 1

def isTruth (cs : List Char) : Bool := truthWords.any fun (word, _) => isCased word cs

def isNull (cs : List Char) : Bool := cs.isEmpty || cs == ['~'] || isCased "null" cs

end Form

/-- A text without the line feed that it may end with. A form is recognised in
front of such an end; a line feed alone has no form. -/
def Form.unended (cs : List Char) : List Char :=
  match cs.getLast? with
  | some '\n' => if cs.length = 1 then cs else cs.dropLast
  | _ => cs

/-- The tag of a scalar that is recognised by its form. The marks of anchors,
aliases and tags are a form of their own, which has no value. -/
def Tag.ofForm (text : List Char) : Tag :=
  let cs := Form.unended text
  if Form.isTruth cs then .bool
  else if Form.isReal cs then .float
  else if Form.isInteger cs then .int
  else if cs == ['<', '<'] then .merge
  else if Form.isNull cs then .null
  else if Form.Stamp.isStamp cs then .timestamp
  else if cs == ['='] then .value
  else if [['!'], ['&'], ['*']].contains cs then .other (core ++ "yaml")
  else .str

end PageAtlas.Yaml
