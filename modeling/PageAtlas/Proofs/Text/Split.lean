import PageAtlas.Text.Split

/-!
# Pieces between separators

Splitting is determined by what it does at the first separator. No piece holds
a separator.
-/

namespace PageAtlas.Text

theorem split_of_notMem {sep : Char} {cs : List Char} (h : sep ∉ cs) : split sep cs = [cs] := by
  induction cs with
  | nil => rfl
  | cons c cs ih =>
      rw [List.mem_cons, not_or] at h
      rw [split, if_neg (Ne.symm h.1), ih h.2]

theorem split_append_cons (sep : Char) (cs ds : List Char) :
    split sep (cs ++ sep :: ds) = split sep cs ++ split sep ds := by
  induction cs with
  | nil => simp [split]
  | cons c cs ih =>
      rw [List.cons_append, split, split]
      by_cases hc : c = sep
      · rw [if_pos hc, if_pos hc, ih, List.cons_append]
      · rw [if_neg hc, if_neg hc, ih]
        cases hs : split sep cs with
        | nil => exact absurd hs (split_ne_nil sep cs)
        | cons p ps => rfl

/-- The first piece is all of the text, or a separator follows it. -/
theorem exists_of_split_eq_cons {sep : Char} {cs p : List Char} {ps : List (List Char)}
    (h : split sep cs = p :: ps) :
    (cs = p ∧ ps = []) ∨ ∃ rest, cs = p ++ sep :: rest ∧ split sep rest = ps := by
  induction cs generalizing p with
  | nil =>
      rw [split] at h
      cases h
      exact Or.inl ⟨rfl, rfl⟩
  | cons c cs ih =>
      rw [split] at h
      by_cases hc : c = sep
      · rw [if_pos hc] at h
        cases h
        exact Or.inr ⟨cs, congrArg (· :: cs) hc, rfl⟩
      · rw [if_neg hc] at h
        cases hs : split sep cs with
        | nil => exact absurd hs (split_ne_nil sep cs)
        | cons q qs =>
            rw [hs] at h
            cases h
            rcases ih hs with ⟨rfl, rfl⟩ | ⟨rest, rfl, hrest⟩
            · exact Or.inl ⟨rfl, rfl⟩
            · exact Or.inr ⟨rest, rfl, hrest⟩

/-- Pieces that are each followed by a separator are cut at these alone; nothing is left
behind the last one. -/
theorem split_flatMap {sep : Char} {ps : List (List Char)} (h : ∀ p ∈ ps, sep ∉ p) :
    split sep (ps.flatMap fun p => p ++ [sep]) = ps ++ [[]] := by
  induction ps with
  | nil => rfl
  | cons p ps ih =>
      obtain ⟨hp, hps⟩ := List.forall_mem_cons.1 h
      rw [List.flatMap_cons, List.append_assoc, List.singleton_append, split_append_cons,
        split_of_notMem hp, ih hps]
      rfl

/-- A text without separators, or what follows its last one. -/
theorem exists_last_split (sep : Char) (cs : List Char) :
    sep ∉ cs ∨ ∃ front last, cs = front ++ sep :: last ∧ sep ∉ last := by
  by_cases h : sep ∈ cs
  · obtain ⟨tsal, tnorf, hsplit, hnot⟩ := List.eq_append_cons_of_mem (List.mem_reverse.2 h)
    refine Or.inr ⟨tnorf.reverse, tsal.reverse, ?_, by rwa [List.mem_reverse]⟩
    rw [← List.reverse_reverse cs, hsplit]
    simp
  · exact Or.inl h

theorem notMem_of_mem_split {sep : Char} {cs p : List Char} (h : p ∈ split sep cs) : sep ∉ p := by
  induction cs generalizing p with
  | nil =>
      rw [split, List.mem_singleton] at h
      simp [h]
  | cons c cs ih =>
      rw [split] at h
      by_cases hc : c = sep
      · rw [if_pos hc, List.mem_cons] at h
        rcases h with rfl | h
        · simp
        · exact ih h
      · rw [if_neg hc] at h
        cases hs : split sep cs with
        | nil => exact absurd hs (split_ne_nil sep cs)
        | cons q qs =>
            rw [hs] at h ih
            rcases List.mem_cons.1 h with rfl | h
            · rw [List.mem_cons, not_or]
              exact ⟨Ne.symm hc, ih List.mem_cons_self⟩
            · exact ih (List.mem_cons_of_mem q h)

end PageAtlas.Text
