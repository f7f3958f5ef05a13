import PageAtlas.Text.Blank
import PageAtlas.Text.Split

namespace PageAtlas.Path

/-!
# Tokens of a path

A path is cut at each separator `>`, together with the blanks around it. The
first token keeps its leading blanks and the last one its trailing blanks, so
a path without a separator is its own only token.
-/

def separator : Char := '>'

def pieces (cs : List Char) : List (List Char) := Text.split separator cs

/-- Trims the pieces that follow a separator: on both sides, except for the
last piece, which keeps its trailing blanks. -/
def trimFollowing : List (List Char) → List (List Char)
  | [] => []
  | [p] => [Text.trimStart p]
  | p :: ps => Text.trim p :: trimFollowing ps

def cut (cs : List Char) : List (List Char) :=
  match pieces cs with
  | [] => []
  | [p] => [p]
  | p :: ps => Text.trimEnd p :: trimFollowing ps

def tokens (path : String) : List String := (cut path.toList).map String.ofList

theorem pieces_ne_nil (cs : List Char) : pieces cs ≠ [] := Text.split_ne_nil separator cs

theorem cut_ne_nil (cs : List Char) : cut cs ≠ [] := by
  rw [cut]
  split
  · exact absurd ‹_› (pieces_ne_nil cs)
  · simp
  · simp

end PageAtlas.Path
