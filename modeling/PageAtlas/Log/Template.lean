import PageAtlas.Definition.Data

namespace PageAtlas

/-!
# Message templates

A message may have places to be filled in: a percent sign, an optional name in
parentheses, flags, a width, a precision and a letter that says how the value
is written. Places are filled in order, or by name from a table.
-/

inductive TemplateFault where
  | tooFew
  | tooMany
  | noTable
  | noEntry (name : String)
  | incomplete
  | incompleteName
  | noInteger
  | unsupported (c : Char) (place : Nat)
  | notNumber (letter : Char) (kind : String)
  | notInteger (letter : Char) (kind : String)
  | notReal (kind : String)
  | notCharacter
  | outOfRange
  | infinite
  | nan
  | tooLarge
  | hugeWidth
  | hugePrecision
  | hugeStar (word : String)
  deriving DecidableEq, Repr

namespace TemplateFault

def message : TemplateFault → String
  | tooFew => "not enough arguments for format string"
  | tooMany => "not all arguments converted during string formatting"
  | noTable => "format requires a mapping"
  | noEntry name => Text.quoted name
  | incomplete => "incomplete format"
  | incompleteName => "incomplete format key"
  | noInteger => "* wants int"
  | unsupported c place =>
      let shown := if c.toNat < 0x1F || 0x7E < c.toNat then "?" else c.toString
      "unsupported format character '" ++ shown ++ "' (0x" ++
        String.ofList (Nat.toDigits 16 c.toNat) ++ ") at index " ++ Text.Numeral.ofNat place
  | notNumber letter kind =>
      "%" ++ letter.toString ++ " format: a real number is required, not " ++ kind
  | notInteger letter kind =>
      "%" ++ letter.toString ++ " format: an integer is required, not " ++ kind
  | notReal kind => "must be real number, not " ++ kind
  | notCharacter => "%c requires int or char"
  | outOfRange => "%c arg not in range(0x110000)"
  | infinite => "cannot convert float infinity to integer"
  | nan => "cannot convert float NaN to integer"
  | tooLarge => "int too large to convert to float"
  | hugeWidth => "width too big"
  | hugePrecision => "precision too big"
  | hugeStar word => "Python int too large to convert to C " ++ word

end TemplateFault

namespace Template

def kind : Json → String
  | .null => "NoneType"
  | .bool _ => "bool"
  | .int _ => "int"
  | .real _ => "float"
  | .str _ => "str"
  | .arr _ => "list"
  | .obj _ => "dict"

structure Layout where
  left : Bool := false
  plus : Bool := false
  blank : Bool := false
  alternate : Bool := false
  zero : Bool := false
  width : Nat := 0
  precision : Option Nat := none

def readFlag? (c : Char) (l : Layout) : Option Layout :=
  match c with
  | '-' => some { l with left := true }
  | '+' => some { l with plus := true }
  | ' ' => some { l with blank := true }
  | '#' => some { l with alternate := true }
  | '0' => some { l with zero := true }
  | _ => none

def readFlags (l : Layout) : List Char → Layout × List Char
  | [] => (l, [])
  | c :: cs =>
      match readFlag? c l with
      | some l => readFlags l cs
      | none => (l, c :: cs)

def pad (l : Layout) (s : String) : String :=
  let gap := String.ofList (List.replicate (l.width - s.length) ' ')
  if l.left then s ++ gap else gap ++ s

/-- Fills a number up to the width, with zeros after its sign if wanted. -/
def padNumber (l : Layout) (negative : Bool) (mark digits : String) : String :=
  let sign := if negative then "-" else if l.plus then "+" else if l.blank then " " else ""
  let body := sign ++ mark ++ digits
  if l.zero && !l.left then
    sign ++ mark ++ String.ofList (List.replicate (l.width - body.length) '0') ++ digits
  else pad l body

def asciiOnly (s : String) : String :=
  String.ofList (s.toList.flatMap fun c =>
    let n := c.toNat
    if n < 0x80 then [c]
    else if n < 0x100 then '\\' :: 'x' :: Text.hexDigits 2 n
    else if n < 0x10000 then '\\' :: 'u' :: Text.hexDigits 4 n
    else '\\' :: 'U' :: Text.hexDigits 8 n)

def cut (l : Layout) (s : String) : String :=
  match l.precision with
  | some p => String.ofList (s.toList.take p)
  | none => s

def integer (letter : Char) : Json → Except TemplateFault Int
  | .int i => .ok i
  | .bool b => .ok (if b then 1 else 0)
  | .real (.infinite _) => .error .infinite
  | .real x =>
      match x.ratio? with
      | some (a, b) => .ok (a.tdiv b)
      | none => .error .nan
  | v => .error (.notNumber letter (kind v))

def exactInteger (letter : Char) : Json → Except TemplateFault Int
  | .int i => .ok i
  | .bool b => .ok (if b then 1 else 0)
  | v => .error (.notInteger letter (kind v))

def real : Json → Except TemplateFault Decimal.Binary64
  | .real x => .ok x
  | .int i =>
      match Decimal.Binary64.ofSigned i 1 with
      | .infinite _ => .error .tooLarge
      | x => .ok x
  | .bool b => .ok (.ofNat (if b then 1 else 0))
  | v => .error (.notReal (kind v))

def writeInteger (l : Layout) (base : Nat) (mark : String) (capital : Bool) (i : Int) : String :=
  let ds := Nat.toDigits base i.natAbs
  let ds := List.replicate (l.precision.getD 0 - ds.length) '0' ++ ds
  let ds := if capital then ds.map Char.toUpper else ds
  padNumber l (i < 0) (if l.alternate then mark else "") (String.ofList ds)

/-- The digits of a positive quotient rounded to so many, and the exponent of
the first of them. -/
def leadingDigits (count num den : Nat) : List Char × Int :=
  let top := Decimal.Digits.leading num den
  let rounded (top : Int) : Nat :=
    match (count : Int) - top with
    | .ofNat k => Decimal.roundDiv (num * Decimal.tenTo k) den
    | .negSucc k => Decimal.roundDiv num (den * Decimal.tenTo (k + 1))
  let n := rounded top
  if Decimal.tenTo count ≤ n then (Nat.toDigits 10 (n / 10), top) else (Nat.toDigits 10 n, top - 1)

def exponentText (e : Int) : String :=
  (if e < 0 then "e-" else "e+") ++ Text.Numeral.padded 2 e.natAbs

def pointed (alternate : Bool) (whole fraction : List Char) : String :=
  String.ofList whole ++
    (if fraction.isEmpty && !alternate then "" else "." ++ String.ofList fraction)

/-- A positive quotient in the notation of a letter: with an exponent, with a
fixed number of places, or whichever is shorter. -/
def writeQuotient (l : Layout) (letter : Char) (num den : Nat) : String :=
  let places := l.precision.getD 6
  let scientific (count : Nat) (strip : Bool) : String :=
    let (ds, e) := if num = 0 then (List.replicate count '0', 0) else leadingDigits count num den
    let fraction := if strip then Text.Numeral.stripZeros (ds.drop 1) else ds.drop 1
    pointed l.alternate (ds.take 1) fraction ++ exponentText e
  let fixed (places : Nat) (strip : Bool) : String :=
    let text := (Decimal.fixed places num den).toList
    let whole := text.takeWhile (· != '.')
    let fraction := (text.drop (whole.length + 1)).take places
    pointed l.alternate whole (if strip then Text.Numeral.stripZeros fraction else fraction)
  if letter = 'f' then fixed places false
  else if letter = 'e' then scientific (places + 1) false
  else
    let count := max places 1
    let e := if num = 0 then 0 else (leadingDigits count num den).2
    let strip := !l.alternate
    if -4 ≤ e && e < count then fixed ((count : Int) - 1 - e).toNat strip
    else scientific count strip

def writeReal (l : Layout) (letter : Char) (x : Decimal.Binary64) : String :=
  let capital := letter.isUpper
  let spell (s : String) : String :=
    if capital then String.ofList (s.toList.map Char.toUpper) else s
  match x with
  | .nan => padNumber l false "" (spell "nan")
  | .infinite negative => padNumber l negative "" (spell "inf")
  | .finite negative _ _ =>
      match x.ratio? with
      | none => ""
      | some (a, b) => padNumber l negative "" (spell (writeQuotient l letter.toLower a.natAbs b))

def character : Json → Except TemplateFault String
  | .str s => if s.length = 1 then .ok s else .error .notCharacter
  | .int i =>
      if 0 ≤ i && i < 0x110000 then .ok (Char.ofNat i.toNat).toString else .error .outOfRange
  | .bool b => .ok (Char.ofNat (if b then 1 else 0)).toString
  | _ => .error .notCharacter

def isLetter (c : Char) : Bool := "sradiuoxXcfFeEgG".toList.contains c

def write (l : Layout) (letter : Char) (v : Json) : Except TemplateFault String :=
  let shown := (Data.ofJson v).shown
  match letter with
  | 's' => .ok (pad l (cut l (Data.ofJson v).display))
  | 'r' => .ok (pad l (cut l shown))
  | 'a' => .ok (pad l (cut l (asciiOnly shown)))
  | 'c' => do return pad l (← character v)
  | 'x' => do return writeInteger l 16 "0x" false (← exactInteger letter v)
  | 'X' => do return writeInteger l 16 "0X" true (← exactInteger letter v)
  | 'o' => do return writeInteger l 8 "0o" false (← exactInteger letter v)
  | 'd' => do return writeInteger l 10 "" false (← integer letter v)
  | 'i' => do return writeInteger l 10 "" false (← integer letter v)
  | 'u' => do return writeInteger l 10 "" false (← integer letter v)
  | _ => do return writeReal l letter (← real v)

/-- The values that fill a template in: in order, and by name. -/
structure Values where
  queue : List Json
  table : Option (List (String × Json))

/-- A single table that is not empty is used by name as well. -/
def Values.of (args : List Json) : Values :=
  match args with
  | [.obj (m :: ms)] => ⟨args, some (m :: ms)⟩
  | _ => ⟨args, none⟩

def readName (depth : Nat) : List Char → Option (List Char × List Char)
  | [] => none
  | ')' :: cs =>
      if depth = 0 then some ([], cs)
      else (readName (depth - 1) cs).map fun (n, r) => (')' :: n, r)
  | c :: cs => (readName (if c = '(' then depth + 1 else depth) cs).map fun (n, r) => (c :: n, r)

/-- What may be written for a number in a place: its bound, and the faults of a
number that is written there or taken from a value beyond it. -/
structure Bound where
  limit : Nat
  written : TemplateFault
  taken : TemplateFault

def widthBound : Bound := ⟨0x8000000000000000, .hugeWidth, .hugeStar "ssize_t"⟩

def precisionBound : Bound := ⟨0x80000000, .hugePrecision, .hugeStar "int"⟩

def readNumber (b : Bound) (cs : List Char) (vs : Values) :
    Except TemplateFault (Option Int × List Char × Values) :=
  match cs with
  | '*' :: rest =>
      match vs.queue with
      | [] => .error .tooFew
      | .int i :: q =>
          if i < -(b.limit : Int) || (b.limit : Int) ≤ i then .error b.taken
          else .ok (some i, rest, { vs with queue := q })
      | .bool t :: q => .ok (some (if t then 1 else 0), rest, { vs with queue := q })
      | _ => .error .noInteger
  | _ =>
      let ds := cs.takeWhile Text.Numeral.isDigit
      if ds.isEmpty then .ok (none, cs, vs)
      else if b.limit ≤ Text.Numeral.value ds then .error b.written
      else .ok (some (Text.Numeral.value ds), cs.dropWhile Text.Numeral.isDigit, vs)

def place (size : Nat) (cs : List Char) (vs : Values) :
    Except TemplateFault (String × List Char × Values) := do
  let (cs, vs) ←
    match cs with
    | '(' :: rest =>
        match vs.table with
        | none => throw .noTable
        | some table =>
            match readName 0 rest with
            | none => throw .incompleteName
            | some (name, rest) =>
                match Ordered.find? (String.ofList name) table with
                | none => throw (.noEntry (String.ofList name))
                | some v => pure (rest, { vs with queue := [v] })
    | cs => pure (cs, vs)
  let (l, cs) := readFlags {} cs
  let (width, cs, vs) ← readNumber widthBound cs vs
  let l : Layout :=
    match width with
    | none => l
    | some w => { l with width := w.natAbs, left := l.left || w < 0 }
  let (l, cs, vs) ←
    match cs with
    | '.' :: rest => do
        let (precision, rest, vs) ← readNumber precisionBound rest vs
        pure ({ l with precision := some ((precision.getD 0).toNat) }, rest, vs)
    | cs => pure (l, cs, vs)
  let cs :=
    match cs with
    | c :: rest => if c = 'h' || c = 'l' || c = 'L' then rest else cs
    | [] => cs
  match cs with
  | [] => throw .incomplete
  | letter :: rest =>
      match vs.queue with
      | [] => throw .tooFew
      | v :: q =>
          if isLetter letter then
            return (← write l letter v, rest, { vs with queue := q })
          else throw (.unsupported letter (size - rest.length - 1))

def fillFrom (size : Nat) : Nat → List Char → Values → Except TemplateFault (List String)
  | 0, _, _ => .ok []
  | _ + 1, [], vs => if vs.queue.isEmpty || vs.table.isSome then .ok [] else .error .tooMany
  | fuel + 1, '%' :: '%' :: cs, vs => do return "%" :: (← fillFrom size fuel cs vs)
  | fuel + 1, '%' :: cs, vs => do
      let (s, rest, vs) ← place size cs vs
      return s :: (← fillFrom size fuel rest vs)
  | fuel + 1, c :: cs, vs => do return c.toString :: (← fillFrom size fuel cs vs)

end Template

/-- A message with its places filled in; without any values it stays as it is. -/
def Template.fill (text : String) (args : List Json) : Except TemplateFault String :=
  if args.isEmpty then .ok text
  else
    match fillFrom text.length (text.length + 1) text.toList (Values.of args) with
    | .ok parts => .ok (String.join parts)
    | .error e => .error e

end PageAtlas
