import PageAtlas.Path.Token
import PageAtlas.Proofs.Text.Blank
import PageAtlas.Proofs.Text.Split

/-!
# The normal form of tokens

Cutting a path yields tokens without separators, trimmed where they meet one.
Any tokens of this form come back from a path that joins them by separators
with blanks on either side.
-/

namespace PageAtlas.Path

open Text

/-- Only the first token may begin blank, and only the last one may end blank. -/
structure Normal (ts : List (List Char)) : Prop where
  ne_nil : ts ≠ []
  notMem : ∀ t ∈ ts, separator ∉ t
  begins : ∀ t ∈ ts.tail, beginsBlank t = false
  ends : ∀ t ∈ ts.dropLast, endsBlank t = false

/-- A text that consists of the tokens with a padded separator between two. -/
inductive Joined : List (List Char) → List Char → Prop where
  | last (t : List Char) : Joined [t] t
  | cons {pad pad' cs : List Char} {ts : List (List Char)} (t : List Char)
      (hpad : allBlank pad = true) (hpad' : allBlank pad' = true) (h : Joined ts cs) :
      Joined (t :: ts) (t ++ pad ++ separator :: (pad' ++ cs))

theorem Joined.ne_nil {ts : List (List Char)} {cs : List Char} (h : Joined ts cs) : ts ≠ [] := by
  cases h <;> simp

theorem separator_notMem_of_allBlank {pad : List Char} (h : allBlank pad = true) :
    separator ∉ pad := by
  intro hmem
  have hblank := List.all_eq_true.1 h _ hmem
  revert hblank
  decide

theorem pieces_of_notMem {cs : List Char} (h : separator ∉ cs) : pieces cs = [cs] :=
  split_of_notMem h

theorem pieces_append_cons {cs : List Char} (h : separator ∉ cs) (ds : List Char) :
    pieces (cs ++ separator :: ds) = cs :: pieces ds := by
  rw [pieces, split_append_cons, split_of_notMem h]
  rfl

theorem trimFollowing_cons {ps : List (List Char)} (h : ps ≠ []) (p : List Char) :
    trimFollowing (p :: ps) = trim p :: trimFollowing ps := by
  cases ps with
  | nil => exact absurd rfl h
  | cons q qs => rfl

/-! ## Cutting what was joined -/

/-- The pieces after a separator give back the tokens they were padded from. -/
theorem trimFollowing_pieces {ts : List (List Char)} {cs : List Char} (h : Joined ts cs)
    (hmem : ∀ t ∈ ts, separator ∉ t) (hbegins : ∀ t ∈ ts, beginsBlank t = false)
    (hends : ∀ t ∈ ts.dropLast, endsBlank t = false) {pad : List Char}
    (hpad : allBlank pad = true) : trimFollowing (pieces (pad ++ cs)) = ts := by
  induction h generalizing pad with
  | last t =>
      have hnot : separator ∉ pad ++ t := by
        rw [List.mem_append, not_or]
        exact ⟨separator_notMem_of_allBlank hpad, hmem t List.mem_cons_self⟩
      rw [pieces_of_notMem hnot, trimFollowing, trimStart_append hpad,
        trimStart_eq_self (hbegins t List.mem_cons_self)]
  | @cons pad₁ pad₂ cs ts t hpad₁ hpad₂ h ih =>
      have hnot : separator ∉ pad ++ t ++ pad₁ := by
        rw [List.mem_append, List.mem_append, not_or, not_or]
        exact ⟨⟨separator_notMem_of_allBlank hpad, hmem t List.mem_cons_self⟩,
          separator_notMem_of_allBlank hpad₁⟩
      have hend : endsBlank t = false := by
        apply hends
        rw [List.dropLast_cons_of_ne_nil h.ne_nil]
        exact List.mem_cons_self
      have hrest : trimFollowing (pieces (pad₂ ++ cs)) = ts := by
        refine ih (fun t ht => hmem t (List.mem_cons_of_mem _ ht))
          (fun t ht => hbegins t (List.mem_cons_of_mem _ ht)) (fun t ht => ?_) hpad₂
        apply hends
        rw [List.dropLast_cons_of_ne_nil h.ne_nil]
        exact List.mem_cons_of_mem _ ht
      calc
        trimFollowing (pieces (pad ++ (t ++ pad₁ ++ separator :: (pad₂ ++ cs))))
            = trimFollowing ((pad ++ t ++ pad₁) :: pieces (pad₂ ++ cs)) := by
          rw [← pieces_append_cons hnot]
          simp
        _ = trim (pad ++ t ++ pad₁) :: trimFollowing (pieces (pad₂ ++ cs)) :=
          trimFollowing_cons (pieces_ne_nil _) _
        _ = t :: ts := by
          rw [trim_append hpad hpad₁ (hbegins t List.mem_cons_self) hend, hrest]

theorem cut_joined {ts : List (List Char)} {cs : List Char} (hn : Normal ts) (h : Joined ts cs) :
    cut cs = ts := by
  cases h with
  | last t => rw [cut, pieces_of_notMem (hn.notMem _ List.mem_cons_self)]
  | @cons pad pad' cs ts t hpad hpad' h =>
      have hnot : separator ∉ t ++ pad := by
        rw [List.mem_append, not_or]
        exact ⟨hn.notMem t List.mem_cons_self, separator_notMem_of_allBlank hpad⟩
      have hends := hn.ends
      rw [List.dropLast_cons_of_ne_nil h.ne_nil] at hends
      have hrest : trimFollowing (pieces (pad' ++ cs)) = ts :=
        trimFollowing_pieces h (fun t ht => hn.notMem t (List.mem_cons_of_mem _ ht)) hn.begins
          (fun t ht => hends t (List.mem_cons_of_mem _ ht)) hpad'
      rw [cut, pieces_append_cons hnot]
      obtain ⟨q, qs, hq⟩ := List.exists_cons_of_ne_nil (pieces_ne_nil (pad' ++ cs))
      rw [hq] at hrest ⊢
      change trimEnd (t ++ pad) :: trimFollowing (q :: qs) = _
      rw [hrest, trimEnd_append hpad, trimEnd_eq_self (hends t List.mem_cons_self)]

/-! ## Tokens of any path -/

theorem mem_trimFollowing {ps : List (List Char)} {t : List Char} (h : t ∈ trimFollowing ps) :
    ∃ p ∈ ps, t ⊆ p ∧ beginsBlank t = false := by
  induction ps with
  | nil => cases h
  | cons p ps ih =>
      by_cases hps : ps = []
      · subst hps
        rw [trimFollowing, List.mem_singleton] at h
        subst h
        exact ⟨p, List.mem_cons_self, (trimStart_isSuffix p).subset, beginsBlank_trimStart p⟩
      · rw [trimFollowing_cons hps, List.mem_cons] at h
        rcases h with rfl | h
        · exact ⟨p, List.mem_cons_self, trim_subset p, beginsBlank_trim p⟩
        · obtain ⟨q, hq, hsub, hbegin⟩ := ih h
          exact ⟨q, List.mem_cons_of_mem p hq, hsub, hbegin⟩

theorem endsBlank_of_mem_dropLast {ps : List (List Char)} {t : List Char}
    (h : t ∈ (trimFollowing ps).dropLast) : endsBlank t = false := by
  induction ps with
  | nil => cases h
  | cons p ps ih =>
      by_cases hps : ps = []
      · subst hps
        cases h
      · rw [trimFollowing_cons hps] at h
        by_cases hts : trimFollowing ps = []
        · rw [hts] at h
          cases h
        · rw [List.dropLast_cons_of_ne_nil hts, List.mem_cons] at h
          rcases h with rfl | h
          · exact endsBlank_trim p
          · exact ih h

theorem trimFollowing_ne_nil {ps : List (List Char)} (h : ps ≠ []) : trimFollowing ps ≠ [] := by
  cases ps with
  | nil => exact absurd rfl h
  | cons p ps => cases ps <;> simp [trimFollowing]

theorem normal_cut (cs : List Char) : Normal (cut cs) := by
  have hpieces : ∀ p ∈ pieces cs, separator ∉ p := fun p hp => notMem_of_mem_split hp
  rw [cut]
  cases hp : pieces cs with
  | nil => exact absurd hp (pieces_ne_nil cs)
  | cons p ps =>
      rw [hp] at hpieces
      have hhead : separator ∉ p := hpieces p List.mem_cons_self
      cases ps with
      | nil =>
          refine ⟨by simp, ?_, by simp, by simp⟩
          intro t ht
          rwa [List.mem_singleton.1 ht]
      | cons q qs =>
          have hne : trimFollowing (q :: qs) ≠ [] := trimFollowing_ne_nil (by simp)
          refine ⟨by simp, ?_, ?_, ?_⟩
          · intro t ht hsep
            rcases List.mem_cons.1 ht with rfl | ht
            · exact hhead ((trimEnd_isPrefix p).subset hsep)
            · obtain ⟨r, hr, hsub, _⟩ := mem_trimFollowing ht
              exact hpieces r (List.mem_cons_of_mem p hr) (hsub hsep)
          · intro t ht
            obtain ⟨_, _, _, hbegin⟩ := mem_trimFollowing ht
            exact hbegin
          · intro t ht
            rw [List.dropLast_cons_of_ne_nil hne] at ht
            rcases List.mem_cons.1 ht with rfl | ht
            · exact endsBlank_trimEnd p
            · exact endsBlank_of_mem_dropLast ht

end PageAtlas.Path
