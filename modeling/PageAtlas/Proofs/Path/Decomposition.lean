import PageAtlas.Proofs.Path.Continued

/-!
# The decomposition of a path into tokens

A path consists of its own tokens with a padded separator between two, and of
no other tokens in normal form. So the tokens of a path are the one list that
is normal and joined to it, however the separators are padded.
-/

namespace PageAtlas.Path

open Text

theorem exists_pads_trim (cs : List Char) :
    ∃ pad pad', cs = pad ++ trim cs ++ pad' ∧ allBlank pad = true ∧ allBlank pad' = true := by
  obtain ⟨pad, hstart, hpad⟩ := exists_pad_trimStart cs
  obtain ⟨pad', hend, hpad'⟩ := exists_pad_trimEnd (trimStart cs)
  refine ⟨pad, pad', ?_, hpad, hpad'⟩
  rw [trim, List.append_assoc, ← hend]
  exact hstart

/-! ## A path consists of its tokens -/

/-- The induction is on what is left behind the separators, whose leading blanks
belong to the separator in front of it. -/
theorem joined_trimFollowing (ds : List Char) :
    ∃ pad rest, ds = pad ++ rest ∧ allBlank pad = true ∧
      Joined (trimFollowing (pieces ds)) rest := by
  by_cases h : separator ∈ ds
  · obtain ⟨front, tail, hds, hfront⟩ := List.eq_append_cons_of_mem h
    obtain ⟨pad, pad', htrim, hpad, hpad'⟩ := exists_pads_trim front
    have hlt : tail.length < ds.length := by
      rw [hds, List.length_append, List.length_cons]
      omega
    obtain ⟨pad'', rest, htail, hpad'', hjoined⟩ := joined_trimFollowing tail
    refine ⟨pad, trim front ++ pad' ++ separator :: (pad'' ++ rest), ?_, hpad, ?_⟩
    · rw [← htail, ← List.append_assoc, ← List.append_assoc, ← htrim]
      exact hds
    · rw [hds, pieces_append_cons hfront, trimFollowing_cons (pieces_ne_nil tail)]
      exact .cons (trim front) hpad' hpad'' hjoined
  · obtain ⟨pad, hds, hpad⟩ := exists_pad_trimStart ds
    refine ⟨pad, trimStart ds, hds, hpad, ?_⟩
    rw [pieces_of_notMem h]
    exact .last (trimStart ds)
termination_by ds.length

theorem joined_cut (cs : List Char) : Joined (cut cs) cs := by
  by_cases h : separator ∈ cs
  · obtain ⟨front, tail, rfl, hfront⟩ := List.eq_append_cons_of_mem h
    obtain ⟨pad, hpads, hpad⟩ := exists_pad_trimEnd front
    obtain ⟨pad', rest, htail, hpad', hjoined⟩ := joined_trimFollowing tail
    have hcut : cut (front ++ separator :: tail) = trimEnd front :: trimFollowing (pieces tail) :=
      cut_of_pieces (pieces_append_cons hfront tail) (pieces_ne_nil tail)
    have htext : front ++ separator :: tail =
        trimEnd front ++ pad ++ separator :: (pad' ++ rest) := by
      rw [← hpads, ← htail]
    rw [hcut, htext]
    exact .cons (trimEnd front) hpad hpad' hjoined
  · rw [cut, pieces_of_notMem h]
    exact .last cs

theorem cut_eq_iff {cs : List Char} {ts : List (List Char)} :
    cut cs = ts ↔ Normal ts ∧ Joined ts cs := by
  constructor
  · rintro rfl
    exact ⟨normal_cut cs, joined_cut cs⟩
  · rintro ⟨hnormal, hjoined⟩
    exact cut_joined hnormal hjoined

theorem map_ofList_eq_iff {ts : List (List Char)} {ss : List String} :
    ts.map String.ofList = ss ↔ ts = ss.map String.toList := by
  constructor
  · rintro rfl
    simp
  · rintro rfl
    simp

/-! ## How many tokens there are, and where they stand -/

theorem length_trimFollowing (ps : List (List Char)) : (trimFollowing ps).length = ps.length := by
  induction ps with
  | nil => rfl
  | cons p ps ih =>
      by_cases h : ps = []
      · rw [h]
        rfl
      · rw [trimFollowing_cons h, List.length_cons, ih, List.length_cons]

theorem length_cut (cs : List Char) : (cut cs).length = cs.count separator + 1 := by
  have hlength : (cut cs).length = (pieces cs).length := by
    obtain ⟨p, ps, hp⟩ := List.exists_cons_of_ne_nil (pieces_ne_nil cs)
    by_cases h : ps = []
    · rw [cut, hp, h]
    · rw [cut_of_pieces hp h, hp, List.length_cons, length_trimFollowing, List.length_cons]
  rw [hlength, pieces, length_split]

/-- A joined text begins with the first token and ends with the last one. -/
theorem Joined.ends {ts : List (List Char)} {cs : List Char} (h : Joined ts cs) :
    ∃ first last, ts.head? = some first ∧ ts.getLast? = some last ∧ first <+: cs ∧
      last <:+ cs := by
  induction h with
  | last t => exact ⟨t, t, rfl, rfl, List.prefix_rfl, List.suffix_rfl⟩
  | @cons pad pad' cs ts t _ _ h ih =>
      obtain ⟨_, last, _, hlast, _, hsuffix⟩ := ih
      refine ⟨t, last, rfl, ?_, ?_, ?_⟩
      · rw [List.getLast?_cons, hlast]
        rfl
      · rw [List.append_assoc]
        exact List.prefix_append t _
      · refine hsuffix.trans ?_
        exact (List.suffix_append pad' cs).trans
          ((List.suffix_cons separator _).trans (List.suffix_append (t ++ pad) _))

/-! ## Padding -/

theorem pieces_append_of_notMem {pad : List Char} (h : separator ∉ pad) (ds : List Char) :
    ∃ p ps, pieces ds = p :: ps ∧ pieces (pad ++ ds) = (pad ++ p) :: ps := by
  induction pad with
  | nil =>
      obtain ⟨p, ps, hp⟩ := List.exists_cons_of_ne_nil (pieces_ne_nil ds)
      exact ⟨p, ps, hp, hp⟩
  | cons c pad ih =>
      rw [List.mem_cons, not_or] at h
      obtain ⟨p, ps, hp, hpad⟩ := ih h.2
      refine ⟨p, ps, hp, ?_⟩
      rw [pieces] at hpad ⊢
      rw [List.cons_append, split, if_neg (Ne.symm h.1), hpad]
      rfl

/-- Blanks behind a separator are not seen. -/
theorem trimFollowing_pieces_append {pad : List Char} (h : allBlank pad = true)
    (ds : List Char) : trimFollowing (pieces (pad ++ ds)) = trimFollowing (pieces ds) := by
  obtain ⟨p, ps, hp, hpad⟩ :=
    pieces_append_of_notMem (separator_notMem_of_allBlank h) ds
  rw [hp, hpad]
  by_cases hps : ps = []
  · rw [hps, trimFollowing, trimFollowing, trimStart_append h]
  · rw [trimFollowing_cons hps, trimFollowing_cons hps, trim, trimStart_append h]
    rfl

theorem cut_padded {pad pad' : List Char} (hpad : allBlank pad = true)
    (hpad' : allBlank pad' = true) (cs ds : List Char) :
    cut (cs ++ pad ++ separator :: (pad' ++ ds)) = cut (cs ++ separator :: ds) := by
  obtain ⟨blanks, hcs, hblanks⟩ := exists_pad_trimEnd cs
  have hends : endsBlank (trimEnd cs) = false := endsBlank_trimEnd cs
  have hall : allBlank (blanks ++ pad) = true := by
    rw [allBlank_append, hblanks, hpad]
    rfl
  calc cut (cs ++ pad ++ separator :: (pad' ++ ds))
      = cut (trimEnd cs ++ (blanks ++ pad) ++ separator :: (pad' ++ ds)) := by
        rw [← List.append_assoc, ← hcs]
    _ = cut (trimEnd cs) ++ trimFollowing (pieces (pad' ++ ds)) := cut_append hends hall _
    _ = cut (trimEnd cs) ++ trimFollowing (pieces ds) := by
        rw [trimFollowing_pieces_append hpad']
    _ = cut (trimEnd cs ++ blanks ++ separator :: ds) := (cut_append hends hblanks ds).symm
    _ = cut (cs ++ separator :: ds) := by rw [← hcs]

/-! ## Texts -/

/-- The tokens of a path are the one normal list that it consists of. There is
one more than there are separators, blanks around a separator do not matter, and
the path begins with its first token and ends with its last one. -/
theorem tokens_normal_form (path : String) :
    (∀ ts, tokens path = ts ↔
      Normal (ts.map String.toList) ∧ Joined (ts.map String.toList) path.toList) ∧
    (tokens path).length = path.toList.count separator + 1 ∧
    (∃ first last, (tokens path).head? = some first ∧ (tokens path).getLast? = some last ∧
      first.toList <+: path.toList ∧ last.toList <:+ path.toList) ∧
    ∀ front pad pad' back, path.toList = front ++ pad ++ separator :: (pad' ++ back) →
      allBlank pad = true → allBlank pad' = true →
      tokens path = tokens (String.ofList (front ++ separator :: back)) := by
  refine ⟨fun ts => ?_, ?_, ?_, ?_⟩
  · rw [tokens, map_ofList_eq_iff, cut_eq_iff]
  · rw [tokens, List.length_map, length_cut]
  · obtain ⟨first, last, hfirst, hlast, hprefix, hsuffix⟩ := (joined_cut path.toList).ends
    refine ⟨String.ofList first, String.ofList last, ?_, ?_, ?_, ?_⟩
    · rw [tokens, List.head?_map, hfirst]
      rfl
    · rw [tokens, List.getLast?_map, hlast]
      rfl
    · rwa [String.toList_ofList]
    · rwa [String.toList_ofList]
  · intro front pad pad' back hpath hpad hpad'
    rw [tokens, hpath, cut_padded hpad hpad', tokens, String.toList_ofList]

/-- Two separators share no blanks: what stands between them is an empty token. -/
theorem tokens_normal_form_blanks :
    tokens " >a b > >\u3000> c " = ["", "a b", "", "", "c "] ∧
    Joined [[], ['a', ' ', 'b'], [], [], ['c', ' ']] " >a b > >\u3000> c ".toList ∧
    tokens " >a b > >\u3000> c " = tokens " >a b > >>c " := by
  obtain ⟨hiff, -, -, hpadding⟩ := tokens_normal_form " >a b > >\u3000> c "
  have htokens : tokens " >a b > >\u3000> c " = ["", "a b", "", "", "c "] := by rfl
  obtain ⟨-, hjoined⟩ := (hiff _).1 htokens
  refine ⟨htokens, hjoined, ?_⟩
  exact hpadding " >a b > >".toList ['\u3000'] [' '] ['c', ' '] (by rfl) (by decide) (by decide)

end PageAtlas.Path
