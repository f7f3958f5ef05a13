namespace PageAtlas.Text

/-!
# Splitting at a character

The pieces between the occurrences of a character; there is always one.
-/

def split (sep : Char) : List Char → List (List Char)
  | [] => [[]]
  | c :: cs =>
      if c = sep then [] :: split sep cs
      else
        match split sep cs with
        | [] => [[c]]
        | p :: ps => (c :: p) :: ps

theorem split_ne_nil (sep : Char) (cs : List Char) : split sep cs ≠ [] := by
  cases cs with
  | nil => simp [split]
  | cons c cs =>
      rw [split]
      split
      · simp
      · cases split sep cs <;> simp

/-- A text with `n` separators has `n + 1` pieces. -/
theorem length_split (sep : Char) (cs : List Char) :
    (split sep cs).length = cs.count sep + 1 := by
  induction cs with
  | nil => rfl
  | cons c cs ih =>
      rw [split, List.count_cons]
      by_cases h : c = sep
      · simp [h, ih]
      · cases hp : split sep cs with
        | nil => exact absurd hp (split_ne_nil sep cs)
        | cons p ps =>
            rw [hp] at ih
            simp only [List.length_cons] at ih
            simp [h, ← ih]

end PageAtlas.Text
