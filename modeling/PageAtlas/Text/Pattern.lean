import PageAtlas.Text.Containment

namespace PageAtlas.Text.Pattern

/-!
# Literal patterns

A text condition is handed to a page as a regular expression in which every
character stands for itself. `escape` writes such a pattern, `literal?` reads
one back, and `found` decides whether a pattern occurs in a text.
-/

/-- The characters that carry a backslash in a pattern: the operators of
regular expressions and the white space that a verbose reader would skip. -/
def isSpecial (c : Char) : Bool :=
  "()[]\x7b\x7d?*+-|^$\\.&~# \t\n\r\x0b\x0c".toList.contains c

def escape : List Char → List Char
  | [] => []
  | c :: cs => if isSpecial c then '\\' :: c :: escape cs else c :: escape cs

/-- The text that a pattern of literals stands for. A backslash makes the next
character literal; a special character without one is no literal. -/
def literal? : List Char → Option (List Char)
  | [] => some []
  | '\\' :: c :: cs => (literal? cs).map (c :: ·)
  | c :: cs => if isSpecial c then none else (literal? cs).map (c :: ·)

def found (pattern hay : List Char) : Bool :=
  match literal? pattern with
  | some needle => occursIn needle hay
  | none => false

/-- The pattern between the slashes of a selector step: a slash carries a
backslash as well, so the first bare slash is the closing one. -/
def escapeSlashes : List Char → List Char
  | [] => []
  | c :: cs => if c = '/' then '\\' :: '/' :: escapeSlashes cs else c :: escapeSlashes cs

def ofText (text : String) : String := String.ofList (escape text.toList)

def hasText (text : String) : String :=
  "internal:has-text=/" ++ String.ofList (escapeSlashes (escape text.toList)) ++ "/"

theorem literal?_escape (cs : List Char) : literal? (escape cs) = some cs := by
  induction cs with
  | nil => rfl
  | cons c cs ih =>
      rw [escape]
      by_cases h : isSpecial c = true
      · simp [h, literal?, ih]
      · have hc : c ≠ '\\' := by
          rintro rfl
          exact h (by decide)
        rw [if_neg h, literal?, if_neg h, ih, Option.map_some]
        exact fun _ _ hb _ => hc hb

theorem found_escape (cs hay : List Char) : found (escape cs) hay = occursIn cs hay := by
  simp [found, literal?_escape]

end PageAtlas.Text.Pattern
