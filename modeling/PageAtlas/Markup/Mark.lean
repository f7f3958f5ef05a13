import PageAtlas.Text.Split

namespace PageAtlas.Markup

/-!
# Marks in a text

A mark stands between brackets and begins with a small letter, a hash, a slash
or an at sign. A backslash in front of it takes its meaning away, unless that
backslash is itself written by two.
-/

structure Mark where
  /-- How many characters come before the mark. -/
  position : Nat
  name : String
  /-- What stands behind an equals sign. -/
  parameters : Option String := none
  deriving DecidableEq, Repr

namespace Mark

/-- The mark of a text between brackets. -/
def ofText (position : Nat) (cs : List Char) : Mark :=
  match cs.dropWhile (· != '=') with
  | _ :: rest => ⟨position, String.ofList (cs.takeWhile (· != '=')), some (String.ofList rest)⟩
  | [] => ⟨position, String.ofList cs, none⟩

def shown (m : Mark) : String :=
  "[" ++ m.name ++ ((m.parameters.map ("=" ++ ·)).getD "") ++ "]"

def isStart (c : Char) : Bool := ('a' ≤ c && c ≤ 'z') || c == '#' || c == '/' || c == '@'

def isInner (c : Char) : Bool := c != '[' && c != ']'

def bracketed? : List Char → Option (List Char)
  | '[' :: c :: cs =>
      if isStart c then
        match cs.dropWhile isInner with
        | ']' :: _ => some (c :: cs.takeWhile isInner)
        | _ => none
      else none
  | _ => none

/-- The marks of a text from a position on, behind which so many backslashes
stand. -/
def scan (position slashes : Nat) : List Char → List Mark
  | [] => []
  | c :: cs =>
      if c = '\\' then scan (position + 1) (slashes + 1) cs
      else
        match bracketed? (c :: cs) with
        | some inner =>
            if slashes % 2 = 0 then ofText position inner :: scan (position + 1) 0 cs
            else scan (position + 1) 0 cs
        | none => scan (position + 1) 0 cs

def all (text : String) : List Mark := scan 0 0 text.toList

end Mark

end PageAtlas.Markup
