namespace PageAtlas.Text

/-!
# Containment

Whether one text occurs inside another, as a run of characters.
-/

def occursIn (needle : List Char) : List Char → Bool
  | [] => needle.isEmpty
  | c :: cs => needle.isPrefixOf (c :: cs) || occursIn needle cs

def contains (hay needle : String) : Bool := occursIn needle.toList hay.toList

theorem occursIn_iff {needle hay : List Char} :
    occursIn needle hay = true ↔ ∃ before after, hay = before ++ needle ++ after := by
  induction hay with
  | nil =>
      simp only [occursIn, List.isEmpty_iff]
      constructor
      · rintro rfl
        exact ⟨[], [], rfl⟩
      · rintro ⟨before, after, h⟩
        have := congrArg List.length h
        simp only [List.length_append, List.length_nil] at this
        exact List.length_eq_zero_iff.1 (by omega)
  | cons c cs ih =>
      simp only [occursIn, Bool.or_eq_true, List.isPrefixOf_iff_prefix, ih]
      constructor
      · rintro (⟨after, h⟩ | ⟨before, after, h⟩)
        · exact ⟨[], after, by simpa using h.symm⟩
        · exact ⟨c :: before, after, by simp [h]⟩
      · rintro ⟨before, after, h⟩
        cases before with
        | nil => exact Or.inl ⟨after, by simpa using h.symm⟩
        | cons b bs =>
            simp only [List.cons_append, List.cons.injEq] at h
            exact Or.inr ⟨bs, after, h.2⟩

end PageAtlas.Text
