import Mathlib.Data.List.Infix

/-!
# Cutting at a separator

A text is cut at the occurrences of a separator of several characters, which are looked
for from the left and do not overlap. Pieces that were joined come back from it if no
separator begins inside a piece, not even one that ends in the separator behind it.
-/

namespace PageAtlas.Text

/-- The pieces between the separators. The number says how many characters of a separator
are still to be passed over. -/
def cutFrom (sep : List Char) : Nat → List Char → List (List Char)
  | _, [] => [[]]
  | passed + 1, _ :: cs => cutFrom sep passed cs
  | 0, c :: cs =>
      if sep.isPrefixOf (c :: cs) then [] :: cutFrom sep (sep.length - 1) cs
      else (cutFrom sep 0 cs).modifyHead (c :: ·)

def cutAt (sep text : String) : List String := (cutFrom sep.toList 0 text.toList).map String.ofList

/-- No separator begins in the piece, whether or not another one follows it. -/
def Whole (sep piece : List Char) : Prop :=
  ∀ back, back ≠ [] → back <:+ piece →
    ¬ sep <+: back ∧ ∀ rest, ¬ sep <+: back ++ (sep ++ rest)

variable {sep piece : List Char}

theorem Whole.tail {c : Char} (h : Whole sep (c :: piece)) : Whole sep piece := fun back hne hback =>
  h back hne (hback.trans (List.suffix_cons c piece))

theorem cutFrom_length_append (passed cs : List Char) :
    cutFrom sep passed.length (passed ++ cs) = cutFrom sep 0 cs := by
  induction passed with
  | nil => rfl
  | cons c passed ih => exact ih

theorem cutFrom_separator_append (hsep : sep ≠ []) (cs : List Char) :
    cutFrom sep 0 (sep ++ cs) = [] :: cutFrom sep 0 cs := by
  cases sep with
  | nil => exact absurd rfl hsep
  | cons c sep =>
      have hbegins : (c :: sep).isPrefixOf (c :: (sep ++ cs)) = true :=
        List.isPrefixOf_iff_prefix.2 (List.prefix_append (c :: sep) cs)
      rw [List.cons_append, cutFrom, if_pos hbegins]
      exact congrArg ([] :: ·) (cutFrom_length_append sep cs)

theorem cutFrom_cons_of_not {c : Char} {cs : List Char} (h : ¬ sep <+: c :: cs) :
    cutFrom sep 0 (c :: cs) = (cutFrom sep 0 cs).modifyHead (c :: ·) := by
  rw [cutFrom, if_neg]
  rwa [List.isPrefixOf_iff_prefix]

theorem cutFrom_of_whole (h : Whole sep piece) : cutFrom sep 0 piece = [piece] := by
  induction piece with
  | nil => rfl
  | cons c piece ih =>
      obtain ⟨halone, -⟩ := h (c :: piece) (List.cons_ne_nil c piece) List.suffix_rfl
      rw [cutFrom_cons_of_not halone, ih h.tail, List.modifyHead_cons]

theorem cutFrom_append (hsep : sep ≠ []) (h : Whole sep piece) (cs : List Char) :
    cutFrom sep 0 (piece ++ (sep ++ cs)) = piece :: cutFrom sep 0 cs := by
  induction piece with
  | nil => exact cutFrom_separator_append hsep cs
  | cons c piece ih =>
      obtain ⟨-, hfollowed⟩ := h (c :: piece) (List.cons_ne_nil c piece) List.suffix_rfl
      have hnot : ¬ sep <+: c :: (piece ++ (sep ++ cs)) := hfollowed cs
      rw [List.cons_append, cutFrom_cons_of_not hnot, ih h.tail, List.modifyHead_cons]

theorem cutFrom_intercalate (hsep : sep ≠ []) {pieces : List (List Char)} (hne : pieces ≠ [])
    (h : ∀ p ∈ pieces, Whole sep p) : cutFrom sep 0 (sep.intercalate pieces) = pieces := by
  induction pieces with
  | nil => exact absurd rfl hne
  | cons p pieces ih =>
      have hp := h p List.mem_cons_self
      cases pieces with
      | nil => rw [List.intercalate_singleton, cutFrom_of_whole hp]
      | cons q pieces =>
          have hrest := ih (List.cons_ne_nil q pieces) fun r hr => h r (List.mem_cons_of_mem p hr)
          rw [List.intercalate_cons_cons, List.append_assoc, cutFrom_append hsep hp, hrest]

theorem cutAt_intercalate {sep : String} (hsep : sep ≠ "") {pieces : List String}
    (hne : pieces ≠ []) (h : ∀ p ∈ pieces, Whole sep.toList p.toList) :
    cutAt sep (sep.intercalate pieces) = pieces := by
  have hchars : sep.toList ≠ [] := fun hnil => hsep (String.toList_injective hnil)
  rw [cutAt, String.toList_intercalate, cutFrom_intercalate hchars (by simpa using hne), List.map_map]
  · exact List.map_id'' (fun s => String.ofList_toList) pieces
  · intro p hp
    obtain ⟨s, hs, rfl⟩ := List.mem_map.1 hp
    exact h s hs

end PageAtlas.Text
