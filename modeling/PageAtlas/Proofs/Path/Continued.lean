import PageAtlas.Proofs.Path.Token

/-!
# Continuing a path

A path that is continued behind a separator keeps its tokens, unless blanks at
its end are taken for padding of the separator.
-/

namespace PageAtlas.Path

open Text

theorem trimFollowing_append (ps : List (List Char)) {qs : List (List Char)} (h : qs ≠ []) :
    trimFollowing (ps ++ qs) = ps.map trim ++ trimFollowing qs := by
  induction ps with
  | nil => rfl
  | cons p ps ih =>
      have hne : ps ++ qs ≠ [] := by simp [h]
      rw [List.cons_append, trimFollowing_cons hne, ih, List.map_cons, List.cons_append]

/-- Padding at the end goes, the text before it stays. -/
theorem trim_append_of_ends {cs pad : List Char} (hends : endsBlank cs = false)
    (hpad : allBlank pad = true) : trim (cs ++ pad) = trimStart cs := by
  obtain ⟨pad', hcs, hpad'⟩ := exists_pad_trimStart cs
  have hends' : endsBlank (trimStart cs) = false :=
    endsBlank_of_isSuffix (trimStart_isSuffix cs) hends
  calc trim (cs ++ pad)
      = trim (pad' ++ trimStart cs ++ pad) := by rw [← hcs]
    _ = trimStart cs := trim_append hpad' hpad (beginsBlank_trimStart cs) hends'

theorem cut_of_pieces {cs p : List Char} {ps : List (List Char)} (h : pieces cs = p :: ps)
    (hne : ps ≠ []) : cut cs = trimEnd p :: trimFollowing ps := by
  rw [cut, h]
  cases ps with
  | nil => exact absurd rfl hne
  | cons q qs => rfl

/-- The cases are those of the last token: the path is its only one, or it stands
behind the last separator. -/
theorem cut_append {cs pad : List Char} (hends : endsBlank cs = false)
    (hpad : allBlank pad = true) (ds : List Char) :
    cut (cs ++ pad ++ separator :: ds) = cut cs ++ trimFollowing (pieces ds) := by
  have hsep : separator ∉ pad := separator_notMem_of_allBlank hpad
  have hds : pieces ds ≠ [] := pieces_ne_nil ds
  rcases exists_last_split separator cs with hcs | ⟨front, last, rfl, hlast⟩
  · have hmem : separator ∉ cs ++ pad := by
      rw [List.mem_append, not_or]
      exact ⟨hcs, hsep⟩
    have hcut : cut cs = [cs] := by rw [cut, pieces_of_notMem hcs]
    rw [cut_of_pieces (pieces_append_cons hmem ds) hds, hcut, trimEnd_append hpad,
      trimEnd_eq_self hends]
    rfl
  · have hmem : separator ∉ last ++ pad := by
      rw [List.mem_append, not_or]
      exact ⟨hlast, hsep⟩
    have hendsLast : endsBlank last = false := by
      refine endsBlank_of_isSuffix ?_ hends
      exact (List.suffix_cons separator last).trans (List.suffix_append front _)
    obtain ⟨p, ps, hfront⟩ := List.exists_cons_of_ne_nil (pieces_ne_nil front)
    have hpieces : pieces (front ++ separator :: last) = p :: (ps ++ [last]) := by
      rw [← List.cons_append, ← hfront, pieces, split_append_cons, split_of_notMem hlast]
      rfl
    have hcontinued : pieces (front ++ separator :: last ++ pad ++ separator :: ds) =
        p :: (ps ++ (last ++ pad) :: pieces ds) := by
      rw [← List.cons_append, ← hfront, ← pieces_append_cons hmem, pieces, pieces, pieces,
        ← split_append_cons]
      simp
    calc cut (front ++ separator :: last ++ pad ++ separator :: ds)
        = trimEnd p :: trimFollowing (ps ++ (last ++ pad) :: pieces ds) :=
          cut_of_pieces hcontinued (by simp)
      _ = trimEnd p :: (ps.map trim ++ trimStart last :: trimFollowing (pieces ds)) := by
          rw [trimFollowing_append ps (List.cons_ne_nil _ _), trimFollowing_cons hds,
            trim_append_of_ends hendsLast hpad]
      _ = trimEnd p :: trimFollowing (ps ++ [last]) ++ trimFollowing (pieces ds) := by
          rw [trimFollowing_append ps (List.cons_ne_nil _ _)]
          simp [trimFollowing]
      _ = cut (front ++ separator :: last) ++ trimFollowing (pieces ds) := by
          rw [cut_of_pieces hpieces (by simp)]

/-- The tokens of a path begin those of any path that continues it. -/
theorem exists_tokens_append {path : String} (hends : endsBlank path.toList = false)
    (more : String) : ∃ ts, tokens (path ++ " > " ++ more) = tokens path ++ ts := by
  have htext : (path ++ " > " ++ more).toList =
      path.toList ++ [' '] ++ separator :: ([' '] ++ more.toList) := by
    simp [separator]
  refine ⟨(trimFollowing (pieces ([' '] ++ more.toList))).map String.ofList, ?_⟩
  rw [tokens, htext, cut_append hends (by decide), List.map_append]
  rfl

end PageAtlas.Path
