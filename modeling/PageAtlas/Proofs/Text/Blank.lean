import Mathlib.Data.List.DropRight
import PageAtlas.Text.Blank

/-!
# Blanks at the ends of a text

A text is trimmed on a side exactly when no blank stands there. Trimming takes
away any blanks added on its side, and keeps what the other side looks like.
-/

namespace PageAtlas.Text

def beginsBlank (cs : List Char) : Bool := cs.head?.any isBlank

def endsBlank (cs : List Char) : Bool := cs.getLast?.any isBlank

/-- A text that is not empty, nor blank at either end. -/
structure Stripped (s : String) : Prop where
  ne_empty : s ≠ ""
  begins : beginsBlank s.toList = false
  ends : endsBlank s.toList = false

theorem beginsBlank_append {cs : List Char} (h : cs ≠ []) (ds : List Char) :
    beginsBlank (cs ++ ds) = beginsBlank cs := by
  cases cs with
  | nil => exact absurd rfl h
  | cons c cs => rfl

theorem endsBlank_append {ds : List Char} (h : ds ≠ []) (cs : List Char) :
    endsBlank (cs ++ ds) = endsBlank ds := by
  rw [endsBlank, endsBlank, List.getLast?_append_of_ne_nil cs h]

theorem beginsBlank_of_isPrefix {cs ds : List Char} (hpre : cs <+: ds) (h : beginsBlank ds = false) :
    beginsBlank cs = false := by
  obtain ⟨rest, rfl⟩ := hpre
  by_cases hcs : cs = []
  · rw [hcs]
    rfl
  · rwa [beginsBlank_append hcs] at h

theorem endsBlank_of_isSuffix {cs ds : List Char} (hsuf : cs <:+ ds) (h : endsBlank ds = false) :
    endsBlank cs = false := by
  obtain ⟨front, rfl⟩ := hsuf
  by_cases hcs : cs = []
  · rw [hcs]
    rfl
  · rwa [endsBlank_append hcs] at h

theorem beginsBlank_of_allBlank {cs : List Char} (hne : cs ≠ []) (h : allBlank cs = true) :
    beginsBlank cs = true := by
  cases cs with
  | nil => exact absurd rfl hne
  | cons c cs =>
      rw [allBlank, List.all_cons, Bool.and_eq_true] at h
      exact h.1

theorem endsBlank_of_allBlank {cs : List Char} (hne : cs ≠ []) (h : allBlank cs = true) :
    endsBlank cs = true := by
  rw [endsBlank, List.getLast?_eq_some_getLast hne]
  exact List.all_eq_true.1 h _ (List.getLast_mem hne)

theorem allBlank_append (cs ds : List Char) :
    allBlank (cs ++ ds) = (allBlank cs && allBlank ds) := List.all_append

/-- A text with something in it that does not begin blank is not blank. -/
theorem allBlank_eq_false_of_begins {cs : List Char} (hne : cs ≠ []) (h : beginsBlank cs = false) :
    allBlank cs = false := by
  by_contra hall
  rw [beginsBlank_of_allBlank hne (by simpa using hall)] at h
  cases h

theorem allBlank_eq_false_of_ends {cs : List Char} (hne : cs ≠ []) (h : endsBlank cs = false) :
    allBlank cs = false := by
  by_contra hall
  rw [endsBlank_of_allBlank hne (by simpa using hall)] at h
  cases h

/-! ## Trimming at the start -/

theorem trimStart_eq_self {cs : List Char} (h : beginsBlank cs = false) : trimStart cs = cs := by
  cases cs with
  | nil => rfl
  | cons c cs => exact List.dropWhile_cons_of_neg (by simpa [beginsBlank] using h)

theorem beginsBlank_trimStart (cs : List Char) : beginsBlank (trimStart cs) = false := by
  rw [beginsBlank, trimStart, Option.any_eq_false]
  intro c hc
  simpa [hc] using List.head?_dropWhile_not isBlank cs

theorem trimStart_append {pad : List Char} (h : allBlank pad = true) (cs : List Char) :
    trimStart (pad ++ cs) = trimStart cs :=
  List.dropWhile_append_of_pos (List.all_eq_true.1 h)

theorem trimStart_eq_nil_iff {cs : List Char} : trimStart cs = [] ↔ allBlank cs = true := by
  rw [trimStart, List.dropWhile_eq_nil_iff, allBlank, List.all_eq_true]

theorem exists_pad_trimStart (cs : List Char) :
    ∃ pad, cs = pad ++ trimStart cs ∧ allBlank pad = true :=
  ⟨cs.takeWhile isBlank, List.takeWhile_append_dropWhile.symm,
    List.all_eq_true.2 fun _ hc => List.mem_takeWhile_imp hc⟩

theorem trimStart_isSuffix (cs : List Char) : trimStart cs <:+ cs := List.dropWhile_suffix isBlank

/-! ## Trimming at the end -/

theorem dropTrailing_eq_rdropWhile (p : Char → Bool) (cs : List Char) :
    dropTrailing p cs = cs.rdropWhile p := by
  induction cs with
  | nil => rfl
  | cons c cs ih =>
      rw [dropTrailing, ih, List.rdropWhile, List.rdropWhile, List.reverse_cons,
        List.dropWhile_append]
      cases hrest : cs.reverse.dropWhile p with
      | nil => by_cases hc : p c = true <;> simp [hc]
      | cons d ds => simp

theorem trimEnd_eq_rdropWhile (cs : List Char) : trimEnd cs = cs.rdropWhile isBlank :=
  dropTrailing_eq_rdropWhile isBlank cs

theorem trimEnd_eq_self {cs : List Char} (h : endsBlank cs = false) : trimEnd cs = cs := by
  rw [trimEnd_eq_rdropWhile, List.rdropWhile_eq_self_iff]
  intro hne
  rw [endsBlank, List.getLast?_eq_some_getLast hne] at h
  simpa using h

theorem endsBlank_trimEnd (cs : List Char) : endsBlank (trimEnd cs) = false := by
  rw [endsBlank, Option.any_eq_false]
  intro c hc
  rw [getLast?_dropTrailing hc]

theorem trimEnd_append {pad : List Char} (h : allBlank pad = true) (cs : List Char) :
    trimEnd (cs ++ pad) = trimEnd cs := by
  rw [trimEnd_eq_rdropWhile, trimEnd_eq_rdropWhile, List.rdropWhile, List.rdropWhile,
    List.reverse_append, List.dropWhile_append_of_pos]
  intro c hc
  exact List.all_eq_true.1 h c (List.mem_reverse.1 hc)

theorem trimEnd_eq_nil_iff {cs : List Char} : trimEnd cs = [] ↔ allBlank cs = true := by
  rw [trimEnd, dropTrailing_eq_nil_iff, allBlank, List.all_eq_true]

theorem exists_pad_trimEnd (cs : List Char) :
    ∃ pad, cs = trimEnd cs ++ pad ∧ allBlank pad = true := by
  obtain ⟨pad, hpad, hall⟩ := dropTrailing_append_blanks isBlank cs
  exact ⟨pad, hpad, List.all_eq_true.2 hall⟩

theorem trimEnd_isPrefix (cs : List Char) : trimEnd cs <+: cs := by
  rw [trimEnd_eq_rdropWhile]
  exact List.rdropWhile_prefix isBlank cs

/-! ## Trimming on both sides -/

theorem beginsBlank_trim (cs : List Char) : beginsBlank (trim cs) = false :=
  beginsBlank_of_isPrefix (trimEnd_isPrefix (trimStart cs)) (beginsBlank_trimStart cs)

theorem endsBlank_trim (cs : List Char) : endsBlank (trim cs) = false :=
  endsBlank_trimEnd (trimStart cs)

theorem trim_subset (cs : List Char) : trim cs ⊆ cs :=
  List.Subset.trans (trimEnd_isPrefix (trimStart cs)).subset (trimStart_isSuffix cs).subset

theorem trim_eq_nil_iff {cs : List Char} : trim cs = [] ↔ allBlank cs = true := by
  rw [trim, trimEnd_eq_nil_iff]
  obtain ⟨pad, hpad, hblank⟩ := exists_pad_trimStart cs
  conv_rhs => rw [hpad, allBlank_append, hblank, Bool.true_and]

/-- What trimming leaves of a text that is not blank. -/
theorem stripped_of_trim {cs : List Char} (h : trim cs ≠ []) :
    Stripped (String.ofList (trim cs)) := by
  refine ⟨?_, ?_, ?_⟩
  · rwa [Ne, String.ofList_eq_empty_iff]
  · rw [String.toList_ofList]
    exact beginsBlank_trim cs
  · rw [String.toList_ofList]
    exact endsBlank_trim cs

/-- A text without blanks at its ends comes back from any padding. -/
theorem trim_append {pad pad' cs : List Char} (hpad : allBlank pad = true)
    (hpad' : allBlank pad' = true) (hbegin : beginsBlank cs = false)
    (hend : endsBlank cs = false) : trim (pad ++ cs ++ pad') = cs := by
  rw [trim, List.append_assoc, trimStart_append hpad]
  by_cases hcs : cs = []
  · rw [hcs, List.nil_append, trimStart_eq_nil_iff.2 hpad']
    rfl
  · rw [trimStart_eq_self (by rwa [beginsBlank_append hcs]), trimEnd_append hpad',
      trimEnd_eq_self hend]

end PageAtlas.Text
