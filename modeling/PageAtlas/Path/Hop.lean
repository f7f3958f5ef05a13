import PageAtlas.Failure
import PageAtlas.Json.Printer
import PageAtlas.Path.Token

namespace PageAtlas.Path

/-!
# Hops

A hop names a node, or picks one element of a collection:

    hop        := qualified | plain
    plain      := ALIAS
    qualified  := "#" VALUE WS ("in" | "of") WS ALIAS

`#2 of Items` picks the second of `Items`, `#Save in Buttons` the first of
`Buttons` whose text contains `Save`. The last keyword decides, so a value may
contain the words itself. A token that does not have the qualified form is an
alias, also when it begins with `#`.
-/

/-- How one element of a collection is chosen. -/
inductive Pick where
  /-- By position, counted from one. -/
  | index (n : Int)
  /-- By a text that the element contains. -/
  | text (value : String)
  deriving DecidableEq, Repr

inductive Hop where
  | plain (name : String)
  | picked (name : String) (pick : Pick)
  deriving DecidableEq, Repr

namespace Hop

def name : Hop → String
  | plain name => name
  | picked name _ => name

/-- A position counted from zero. -/
def zeroBased (n : Int) : Int := n - 1

end Hop

inductive Keyword where
  | ofWord
  | inWord
  deriving DecidableEq, Repr

namespace Keyword

def read? : List Char → Option (Keyword × List Char)
  | 'o' :: 'f' :: rest => some (ofWord, rest)
  | 'i' :: 'n' :: rest => some (inWord, rest)
  | _ => none

def letters : Keyword → List Char
  | ofWord => ['o', 'f']
  | inWord => ['i', 'n']

end Keyword

/-- A token without its `#`, cut at a keyword. -/
structure Qualifier where
  value : List Char
  keyword : Keyword
  name : List Char
  deriving DecidableEq, Repr

namespace Qualifier

def startsBlank : List Char → Bool
  | [] => false
  | c :: _ => Text.isBlank c

/-- Cuts at the keyword that `rest` begins with. `before` holds the characters
to its left, nearest first. Both sides need a blank next to the keyword and
something beyond the blanks. -/
def cutAt? (before rest : List Char) : Option Qualifier :=
  match Keyword.read? rest with
  | none => none
  | some (keyword, after) =>
      let value := (before.dropWhile Text.isBlank).reverse
      let name := Text.trimStart after
      if startsBlank before && startsBlank after && !value.isEmpty && !name.isEmpty then
        some ⟨value, keyword, name⟩
      else none

/-- The cut furthest to the right, if there is any. -/
def lastCut? (before : List Char) : List Char → Option Qualifier
  | [] => none
  | c :: cs =>
      match lastCut? (c :: before) cs with
      | some q => some q
      | none => cutAt? before (c :: cs)

/-- Reads the part of a token after its `#`. -/
def read? (body : List Char) : Option Qualifier := lastCut? [] body

end Qualifier

namespace Hop

/-- The position written before `of`: a numeral of at most `maxDigits` digits
whose value is at least one. -/
def readIndex (token : String) (value : List Char) : Except Failure Nat :=
  let digits := Text.trim value
  if !Text.Numeral.isNumeral digits then
    .error (.malformedQualifier token ("index '" ++ String.ofList value ++ "' is not an integer"))
  else if Text.Numeral.maxDigits < digits.length then
    .error (.oversizedIndex digits.length)
  else
    let n := Text.Numeral.value digits
    if n < 1 then .error (.malformedQualifier token "indices start at 1") else .ok n

def parse (token : String) : Except Failure Hop :=
  match token.toList with
  | '#' :: body =>
      match Qualifier.read? body with
      | none => .ok (plain token)
      | some ⟨value, .ofWord, name⟩ =>
          match readIndex token value with
          | .error e => .error e
          | .ok n => .ok (picked (String.ofList name) (.index n))
      | some ⟨value, .inWord, name⟩ =>
          .ok (picked (String.ofList name) (.text (String.ofList value)))
  | _ => .ok (plain token)

/-- Reads tokens up to the first that fails. -/
def parseAll : List String → Except Failure (List Hop)
  | [] => .ok []
  | t :: ts =>
      match parse t with
      | .error e => .error e
      | .ok h =>
          match parseAll ts with
          | .error e => .error e
          | .ok hs => .ok (h :: hs)

end Hop

def parse (path : String) : Except Failure (List Hop) := Hop.parseAll (tokens path)

/-! ## Hops as they are written -/

def Hop.render : Hop → String
  | plain name => name
  | picked name (.index n) => "#" ++ Text.Numeral.ofInt n ++ " of " ++ name
  | picked name (.text value) => "#" ++ value ++ " in " ++ name

def join (labels : List String) : String := String.intercalate " > " labels

def render (hops : List Hop) : String := join (hops.map Hop.render)

def Hop.describe : Hop → Json
  | plain name => .obj [("alias", .str name)]
  | picked name (.index n) => .obj [("alias", .str name), ("index", .int n)]
  | picked name (.text value) => .obj [("alias", .str name), ("text", .str value)]

def describe (hops : List Hop) : String := Json.pretty (.arr (hops.map Hop.describe))

end PageAtlas.Path
