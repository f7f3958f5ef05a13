import PageAtlas.Text.Blank
import PageAtlas.Text.Numeral
import PageAtlas.Text.Split

namespace PageAtlas.Markup.Literal

/-!
# Parameters of handlers

A handler is called by its name, behind which arguments may stand in
parentheses. Without a name there are values alone: numbers, texts in quotes,
and words for truth values and for nothing, between commas.
-/

def isNameChar (c : Char) : Bool := c.isAlphanum || c == '_' || c == '.' || 0x80 ≤ c.toNat

def isCall (cs : List Char) : Bool :=
  match cs.dropWhile isNameChar with
  | [] => true
  | c :: rest => c == '(' && rest.getLast? == some ')' && !rest.contains '\n'

def isNumber (cs : List Char) : Bool :=
  let ds :=
    match cs with
    | '-' :: ds => ds
    | '+' :: ds => ds
    | ds => ds
  match Text.split '.' ds with
  | [whole] => Text.Numeral.isNumeral whole && (whole.length = 1 || whole.head? != some '0')
  | [whole, fraction] =>
      (Text.Numeral.isNumeral whole && fraction.all Text.Numeral.isDigit) ||
        (whole.isEmpty && Text.Numeral.isNumeral fraction)
  | _ => false

def isQuoted (cs : List Char) : Bool :=
  match cs with
  | q :: rest =>
      (q == '\'' || q == '"') && rest.getLast? == some q && rest.count q == 1 &&
        !rest.contains '\\' && !rest.contains '\n'
  | [] => false

def isWord (cs : List Char) : Bool := ["None", "True", "False"].contains (String.ofList cs)

def isValue (cs : List Char) : Bool :=
  let v := Text.trim cs
  isNumber v || isQuoted v || isWord v

/-- Values between commas, of which the last may stand without a value behind it. -/
def isRow (cs : List Char) : Bool :=
  match (Text.split ',' cs).reverse with
  | [v] => isValue v
  | last :: vs => (isValue last || Text.allBlank last) && vs.all isValue
  | [] => false

end PageAtlas.Markup.Literal
