import PageAtlas.Markup.Color
import PageAtlas.Ordered
import PageAtlas.Text.Blank

namespace PageAtlas.Markup

/-!
# Styles

How text is set: attributes that are switched on or off, a colour, a colour of
the background, and a link. Styles with the same effect are written in one way,
so that a mark can be closed by another name for it.
-/

def attributes : List String :=
  ["bold", "dim", "italic", "underline", "blink", "blink2", "reverse", "conceal", "strike",
    "underline2", "frame", "encircle", "overline"]

def shortAttributes : List (String × String) :=
  [("b", "bold"), ("d", "dim"), ("i", "italic"), ("u", "underline"), ("r", "reverse"),
    ("c", "conceal"), ("s", "strike"), ("uu", "underline2"), ("o", "overline")]

def attribute? (word : String) : Option String :=
  if attributes.contains word then some word
  else (shortAttributes.find? fun (short, _) => short == word).map Prod.snd

structure Style where
  /-- The attributes that are said to be on or off. -/
  switches : Ordered String Bool := []
  color : Option String := none
  background : Option String := none
  link : Option String := none
  deriving DecidableEq, Repr

/-- The words of a text, between blanks. -/
def words (s : String) : List String :=
  let spaced := s.toList.map fun c => if Text.isBlank c then ' ' else c
  ((Text.split ' ' spaced).filter fun w => !w.isEmpty).map String.ofList

namespace Style

/-- Adds what words say to a style; none if they say nothing that is a style. -/
def addWords? (s : Style) : List String → Except ColorFault (Option Style)
  | [] => .ok (some s)
  | w :: ws =>
      let word := Text.lower w
      match word, ws with
      | "on", color :: ws => do
          match ← color? color with
          | some c => addWords? { s with background := some c } ws
          | none => return none
      | "not", name :: ws =>
          match attribute? name with
          | some a => addWords? { s with switches := s.switches.insert a false } ws
          | none => .ok none
      | "link", target :: ws => addWords? { s with link := some target } ws
      | _, ws => do
          match attribute? word with
          | some a => addWords? { s with switches := s.switches.insert a true } ws
          | none =>
              match ← color? word with
              | some c => addWords? { s with color := some c } ws
              | none => return none

def toWords (s : Style) : List String :=
  let switched := attributes.flatMap fun a =>
    match s.switches.find? a with
    | some true => [a]
    | some false => ["not", a]
    | none => []
  switched ++ s.color.toList ++ (s.background.map fun c => ["on", c]).getD [] ++
    (s.link.map fun target => ["link", target]).getD []

/-- A style as it is written; one without effect has a word of its own. -/
def shown (s : Style) : String :=
  if s.toWords.isEmpty then "none" else String.intercalate " " s.toWords

/-- The one name of a style. A text that is no style is its own name, letter
case and outer blanks aside. -/
def canonical (text : String) : Except ColorFault String := do
  let bare := String.ofList (Text.trim text.toList)
  if bare = "none" then return bare
  else
    match ← addWords? {} (words text) with
    | some s => return s.shown
    | none => return Text.lower bare

end Style

end PageAtlas.Markup
