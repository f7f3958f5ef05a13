import PageAtlas.Path.Hop
import PageAtlas.Proofs.Text.Blank

/-!
# Where a qualifier is cut

A token is cut at the keyword furthest to the right that has a blank next to it
on both sides and something beyond the blanks. A name that comes out of a cut
holds no further keyword of that kind.
-/

namespace PageAtlas.Path

open Text

theorem Keyword.read?_eq_some_iff {rest after : List Char} {k : Keyword} :
    Keyword.read? rest = some (k, after) ↔ rest = k.letters ++ after := by
  constructor
  · intro h
    unfold Keyword.read? at h
    split at h
    · cases h
      rfl
    · cases h
      rfl
    · cases h
  · rintro rfl
    cases k <;> rfl

namespace Qualifier

theorem startsBlank_eq (cs : List Char) : startsBlank cs = beginsBlank cs := by
  cases cs <;> rfl

/-- The characters before a keyword and those after it make up a qualifier. -/
structure IsCut (front : List Char) (q : Qualifier) (after : List Char) : Prop where
  ends : endsBlank front = true
  begins : beginsBlank after = true
  value : q.value = trimEnd front
  value_ne_nil : q.value ≠ []
  name : q.name = trimStart after
  name_ne_nil : q.name ≠ []

namespace IsCut

variable {front after : List Char} {q : Qualifier}

theorem exists_front (h : IsCut front q after) :
    ∃ pad, front = q.value ++ pad ∧ pad ≠ [] ∧ allBlank pad = true := by
  obtain ⟨pad, hpad, hall⟩ := exists_pad_trimEnd front
  rw [← h.value] at hpad
  refine ⟨pad, hpad, ?_, hall⟩
  rintro rfl
  have hends := endsBlank_trimEnd front
  rw [← h.value, ← List.append_nil q.value, ← hpad, h.ends] at hends
  cases hends

theorem exists_after (h : IsCut front q after) :
    ∃ pad, after = pad ++ q.name ∧ pad ≠ [] ∧ allBlank pad = true := by
  obtain ⟨pad, hpad, hall⟩ := exists_pad_trimStart after
  rw [← h.name] at hpad
  refine ⟨pad, hpad, ?_, hall⟩
  rintro rfl
  have hbegins := beginsBlank_trimStart after
  rw [← h.name, ← List.nil_append q.name, ← hpad, h.begins] at hbegins
  cases hbegins

theorem endsBlank_value (h : IsCut front q after) : endsBlank q.value = false :=
  h.value ▸ endsBlank_trimEnd front

theorem beginsBlank_name (h : IsCut front q after) : beginsBlank q.name = false :=
  h.name ▸ beginsBlank_trimStart after

/-- Something on both sides, and blanks next to the keyword, always make a cut. -/
theorem of_allBlank (k : Keyword) (hends : endsBlank front = true)
    (hbegins : beginsBlank after = true) (hfront : allBlank front = false)
    (hafter : allBlank after = false) :
    IsCut front ⟨trimEnd front, k, trimStart after⟩ after where
  ends := hends
  begins := hbegins
  value := rfl
  value_ne_nil := by
    intro h
    rw [trimEnd_eq_nil_iff.1 h] at hfront
    cases hfront
  name := rfl
  name_ne_nil := by
    intro h
    rw [trimStart_eq_nil_iff.1 h] at hafter
    cases hafter

end IsCut

theorem cutAt?_eq_some_iff {front rest : List Char} {q : Qualifier} :
    cutAt? front.reverse rest = some q ↔
      ∃ after, rest = q.keyword.letters ++ after ∧ IsCut front q after := by
  have hvalue : (front.reverse.dropWhile isBlank).reverse = trimEnd front :=
    (trimEnd_eq_rdropWhile front).symm
  have hstarts : startsBlank front.reverse = endsBlank front := by
    rw [startsBlank_eq, beginsBlank, endsBlank, List.head?_reverse]
  rw [cutAt?, hvalue, hstarts]
  constructor
  · intro h
    cases hk : Keyword.read? rest with
    | none =>
        rw [hk] at h
        cases h
    | some found =>
        obtain ⟨k, after⟩ := found
        rw [hk] at h
        simp only [startsBlank_eq] at h
        split at h
        · next hcond =>
          cases h
          simp only [Bool.and_eq_true, Bool.not_eq_true', List.isEmpty_eq_false_iff] at hcond
          obtain ⟨⟨⟨hends, hbegins⟩, hval⟩, hname⟩ := hcond
          exact ⟨after, Keyword.read?_eq_some_iff.1 hk, hends, hbegins, rfl, hval, rfl, hname⟩
        · cases h
  · rintro ⟨after, hrest, h⟩
    have hcond : (endsBlank front && beginsBlank after && !(trimEnd front).isEmpty &&
        !(trimStart after).isEmpty) = true := by
      simp only [Bool.and_eq_true, Bool.not_eq_true', List.isEmpty_eq_false_iff]
      exact ⟨⟨⟨h.ends, h.begins⟩, h.value ▸ h.value_ne_nil⟩, h.name ▸ h.name_ne_nil⟩
    rw [Keyword.read?_eq_some_iff.2 hrest]
    simp only [startsBlank_eq]
    rw [if_pos hcond, ← h.value, ← h.name]

theorem lastCut?_eq_none_iff {before rest : List Char} :
    lastCut? before rest = none ↔
      ∀ l r, rest = l ++ r → cutAt? (l.reverse ++ before) r = none := by
  induction rest generalizing before with
  | nil =>
      refine ⟨fun _ l r h => ?_, fun _ => rfl⟩
      obtain ⟨rfl, rfl⟩ := List.append_eq_nil_iff.1 h.symm
      rfl
  | cons c cs ih =>
      rw [lastCut?]
      constructor
      · intro h l r hlr
        cases hlast : lastCut? (c :: before) cs with
        | some q =>
            rw [hlast] at h
            cases h
        | none =>
            rw [hlast] at h
            cases l with
            | nil =>
                rw [List.nil_append] at hlr
                exact hlr ▸ h
            | cons d l =>
                obtain ⟨rfl, hcs⟩ := List.cons.inj hlr
                simpa using ih.1 hlast l r hcs
      · intro h
        have hlast : lastCut? (c :: before) cs = none := by
          refine ih.2 fun l r hlr => ?_
          simpa using h (c :: l) r (by rw [hlr, List.cons_append])
        rw [hlast]
        exact h [] (c :: cs) rfl

theorem lastCut?_eq_some_iff {before rest : List Char} {q : Qualifier} :
    lastCut? before rest = some q ↔
      ∃ l r, rest = l ++ r ∧ cutAt? (l.reverse ++ before) r = some q ∧
        ∀ l' r', rest = l' ++ r' → l.length < l'.length →
          cutAt? (l'.reverse ++ before) r' = none := by
  induction rest generalizing before with
  | nil =>
      refine ⟨(fun h => by cases h), ?_⟩
      rintro ⟨l, r, h, hcut, _⟩
      obtain ⟨rfl, rfl⟩ := List.append_eq_nil_iff.1 h.symm
      cases hcut
  | cons c cs ih =>
      rw [lastCut?]
      constructor
      · intro h
        cases hlast : lastCut? (c :: before) cs with
        | some q' =>
            rw [hlast] at h
            cases h
            obtain ⟨l, r, hlr, hcut, hlater⟩ := ih.1 hlast
            refine ⟨c :: l, r, by rw [hlr, List.cons_append], by simpa using hcut, ?_⟩
            intro l' r' hlr' hlen
            cases l' with
            | nil => simp at hlen
            | cons d l' =>
                obtain ⟨rfl, hcs⟩ := List.cons.inj hlr'
                simpa using hlater l' r' hcs (by simpa using hlen)
        | none =>
            rw [hlast] at h
            refine ⟨[], c :: cs, rfl, h, fun l' r' hlr' hlen => ?_⟩
            cases l' with
            | nil => simp at hlen
            | cons d l' =>
                obtain ⟨rfl, hcs⟩ := List.cons.inj hlr'
                simpa using lastCut?_eq_none_iff.1 hlast l' r' hcs
      · rintro ⟨l, r, hlr, hcut, hlater⟩
        have hrest : ∀ l' r', cs = l' ++ r' → l.length < l'.length + 1 →
            cutAt? (l'.reverse ++ c :: before) r' = none := by
          intro l' r' hlr' hlen
          simpa using hlater (c :: l') r' (by rw [hlr', List.cons_append]) hlen
        cases l with
        | nil =>
            rw [lastCut?_eq_none_iff.2 fun l' r' hlr' => hrest l' r' hlr' (Nat.succ_pos _)]
            rw [List.nil_append] at hlr
            exact hlr ▸ hcut
        | cons d l =>
            obtain ⟨rfl, hcs⟩ := List.cons.inj hlr
            have hlast : lastCut? (c :: before) cs = some q := by
              refine ih.2 ⟨l, r, hcs, by simpa using hcut, fun l' r' hlr' hlen => ?_⟩
              exact hrest l' r' hlr' (by simpa using hlen)
            rw [hlast]

/-- A qualifier is read where the last cut of the text is. -/
theorem read?_eq_some_iff {body : List Char} {q : Qualifier} :
    read? body = some q ↔
      ∃ front after, body = front ++ q.keyword.letters ++ after ∧ IsCut front q after ∧
        ∀ front' q' after', body = front' ++ q'.keyword.letters ++ after' →
          IsCut front' q' after' → front'.length ≤ front.length := by
  rw [read?, lastCut?_eq_some_iff]
  constructor
  · rintro ⟨front, rest, hbody, hcut, hlater⟩
    rw [List.append_nil] at hcut
    obtain ⟨after, rfl, h⟩ := cutAt?_eq_some_iff.1 hcut
    refine ⟨front, after, by rw [hbody, List.append_assoc], h, fun front' q' after' hb h' => ?_⟩
    by_contra hlen
    have hnone := hlater front' (q'.keyword.letters ++ after')
      (by rw [hb, List.append_assoc]) (by omega)
    rw [List.append_nil, cutAt?_eq_some_iff.2 ⟨after', rfl, h'⟩] at hnone
    cases hnone
  · rintro ⟨front, after, hbody, h, hlater⟩
    refine ⟨front, q.keyword.letters ++ after, by rw [hbody, List.append_assoc], ?_, ?_⟩
    · rw [List.append_nil]
      exact cutAt?_eq_some_iff.2 ⟨after, rfl, h⟩
    · intro front' rest' hb hlen
      rw [List.append_nil]
      cases hcut : cutAt? front'.reverse rest' with
      | none => rfl
      | some q' =>
          obtain ⟨after', rfl, h'⟩ := cutAt?_eq_some_iff.1 hcut
          have hle := hlater front' q' after' (by rw [hb, List.append_assoc]) h'
          omega

theorem read?_eq_none_iff {body : List Char} :
    read? body = none ↔
      ∀ front q after, body = front ++ q.keyword.letters ++ after → ¬ IsCut front q after := by
  rw [read?, lastCut?_eq_none_iff]
  constructor
  · intro h front q after hbody hcut
    have hnone := h front (q.keyword.letters ++ after) (by rw [hbody, List.append_assoc])
    rw [List.append_nil, cutAt?_eq_some_iff.2 ⟨after, rfl, hcut⟩] at hnone
    cases hnone
  · intro h front rest hbody
    rw [List.append_nil]
    cases hcut : cutAt? front.reverse rest with
    | none => rfl
    | some q =>
        obtain ⟨after, rfl, hq⟩ := cutAt?_eq_some_iff.1 hcut
        exact absurd hq (h front q after (by rw [hbody, List.append_assoc]))

/-! ## The form of a qualified token -/

/-- A value and a name with a keyword between blanks, neither of them blank. -/
def HasForm (body : List Char) : Prop :=
  ∃ (v w : List Char) (k : Keyword) (w' a : List Char), body = v ++ w ++ k.letters ++ w' ++ a ∧
    w ≠ [] ∧ allBlank w = true ∧ w' ≠ [] ∧ allBlank w' = true ∧
    allBlank v = false ∧ allBlank a = false

/-- A keyword in a name that would be taken for that of the qualifier. -/
def HasKeyword (name : List Char) : Prop :=
  ∃ (u : List Char) (k : Keyword) (w r : List Char), name = u ++ k.letters ++ w ++ r ∧
    (u = [] ∨ endsBlank u = true) ∧ w ≠ [] ∧ allBlank w = true ∧ allBlank r = false

theorem read?_eq_none_iff_not_hasForm {body : List Char} :
    read? body = none ↔ ¬ HasForm body := by
  rw [read?_eq_none_iff]
  constructor
  · rintro h ⟨v, w, k, w', a, hbody, hw, hwall, hw', hwall', hv, ha⟩
    refine h (v ++ w) ⟨trimEnd (v ++ w), k, trimStart (w' ++ a)⟩ (w' ++ a) ?_ ?_
    · rw [hbody, List.append_assoc]
    · apply IsCut.of_allBlank
      · rw [endsBlank_append hw, endsBlank_of_allBlank hw hwall]
      · rw [beginsBlank_append hw', beginsBlank_of_allBlank hw' hwall']
      · rw [allBlank_append, hv, Bool.false_and]
      · rw [allBlank_append, ha, Bool.and_false]
  · intro h front q after hbody hcut
    obtain ⟨w, hfront, hw, hwall⟩ := hcut.exists_front
    obtain ⟨w', hafter, hw', hwall'⟩ := hcut.exists_after
    refine h ⟨q.value, w, q.keyword, w', q.name, ?_, hw, hwall, hw', hwall', ?_, ?_⟩
    · rw [hbody, hfront, hafter, List.append_assoc, List.append_assoc, List.append_assoc,
        List.append_assoc, List.append_assoc]
    · exact allBlank_eq_false_of_ends hcut.value_ne_nil hcut.endsBlank_value
    · exact allBlank_eq_false_of_begins hcut.name_ne_nil hcut.beginsBlank_name

/-- What a read qualifier looks like; its name holds no later keyword. -/
theorem not_hasKeyword_of_read? {body : List Char} {q : Qualifier} (h : read? body = some q) :
    ¬ HasKeyword q.name := by
  obtain ⟨front, after, hbody, hcut, hlater⟩ := read?_eq_some_iff.1 h
  obtain ⟨pad, hafter, hpad, hpadall⟩ := hcut.exists_after
  rintro ⟨u, k, w, r, hname, hu, hw, hwall, hr⟩
  have hfrontne : front ≠ [] := by
    rintro rfl
    cases hcut.ends
  have hends : endsBlank (front ++ q.keyword.letters ++ pad ++ u) = true := by
    by_cases hnil : u = []
    · rw [hnil, List.append_nil, endsBlank_append hpad, endsBlank_of_allBlank hpad hpadall]
    · rw [endsBlank_append hnil]
      exact hu.resolve_left hnil
  have hfront : allBlank (front ++ q.keyword.letters ++ pad ++ u) = false := by
    obtain ⟨pad', hv, _, _⟩ := hcut.exists_front
    have hval := allBlank_eq_false_of_ends hcut.value_ne_nil hcut.endsBlank_value
    rw [hv]
    simp only [allBlank_append, hval, Bool.false_and]
  have hbegins : beginsBlank (w ++ r) = true := by
    rw [beginsBlank_append hw, beginsBlank_of_allBlank hw hwall]
  have hrest : allBlank (w ++ r) = false := by
    rw [allBlank_append, hr, Bool.and_false]
  have hcut' := IsCut.of_allBlank k hends hbegins hfront hrest
  have hle := hlater _ _ _ (by rw [hbody, hafter, hname]; simp) hcut'
  have hpos : 0 < q.keyword.letters.length := by cases q.keyword <;> decide
  simp only [List.length_append] at hle
  omega

theorem not_isBlank_of_mem_letters {k : Keyword} {c : Char} (h : c ∈ k.letters) :
    isBlank c = false := by
  cases k with
  | ofWord =>
      rcases List.mem_cons.1 h with rfl | h
      · decide
      · rw [List.mem_singleton.1 h]
        decide
  | inWord =>
      rcases List.mem_cons.1 h with rfl | h
      · decide
      · rw [List.mem_singleton.1 h]
        decide

/-- What stands between a keyword and the end of a text that ends blank: the
rest of the keyword cannot be the last to stand there. -/
theorem exists_of_letters_append {k : Keyword} {after x rest : List Char} (hx : x ≠ [])
    (hends : endsBlank x = true) (h : k.letters ++ after = x ++ rest) :
    ∃ u, x = k.letters ++ u ∧ after = u ++ rest := by
  rcases List.append_eq_append_iff.1 h with ⟨u, hxu, hafter⟩ | ⟨u, hk, _⟩
  · exact ⟨u, hxu, hafter⟩
  · have hlast : x.getLast hx ∈ k.letters := by
      rw [hk]
      exact List.mem_append_left u (List.getLast_mem hx)
    rw [endsBlank, List.getLast?_eq_some_getLast hx, Option.any_some,
      not_isBlank_of_mem_letters hlast] at hends
    cases hends

theorem letters_append_ne_cons {k : Keyword} {c : Char} (hc : isBlank c = true)
    (after rest : List Char) : k.letters ++ after ≠ c :: rest := by
  intro h
  have hmem : c ∈ k.letters := by
    cases k with
    | ofWord => exact (List.cons.inj h).1 ▸ List.mem_cons_self
    | inWord => exact (List.cons.inj h).1 ▸ List.mem_cons_self
  rw [not_isBlank_of_mem_letters hmem] at hc
  cases hc

/-- A cut further to the right than a keyword with a blank on both sides shows
a keyword in what follows the blank. -/
theorem hasKeyword_of_later {front front' after' a : List Char} {k : Keyword} {q' : Qualifier}
    {c : Char} (hc : isBlank c = true) (hcut' : IsCut front' q' after')
    (hbody : front ++ k.letters ++ c :: a = front' ++ q'.keyword.letters ++ after')
    (hlen : front.length < front'.length) : HasKeyword a := by
  rw [List.append_assoc, List.append_assoc] at hbody
  rcases List.append_eq_append_iff.1 hbody with ⟨x, hfront', hrest⟩ | ⟨x, hfront, _⟩
  · have hx : x ≠ [] := by
      rintro rfl
      rw [hfront', List.append_nil] at hlen
      exact absurd hlen (Nat.lt_irrefl _)
    have hxends : endsBlank x = true := by
      rw [← endsBlank_append hx front, ← hfront']
      exact hcut'.ends
    obtain ⟨u, hxu, hu⟩ := exists_of_letters_append hx hxends hrest
    cases u with
    | nil => exact absurd hu.symm (letters_append_ne_cons hc _ _)
    | cons d u =>
        obtain ⟨pad, hafter', hpad, hpadall⟩ := hcut'.exists_after
        have hname : a = u ++ q'.keyword.letters ++ pad ++ q'.name := by
          have hcons := (List.cons.inj hu).2
          rw [hafter'] at hcons
          simpa using hcons
        have huends : u = [] ∨ endsBlank u = true := by
          by_cases hnil : u = []
          · exact Or.inl hnil
          · rw [hxu, endsBlank_append (List.cons_ne_nil d u), ← List.singleton_append,
              endsBlank_append hnil] at hxends
            exact Or.inr hxends
        exact ⟨u, q'.keyword, pad, q'.name, hname, huends, hpad, hpadall,
          allBlank_eq_false_of_begins hcut'.name_ne_nil hcut'.beginsBlank_name⟩
  · rw [hfront, List.length_append] at hlen
    omega

/-- A value that does not end blank and a name that neither begins blank nor
holds a keyword are read back. -/
theorem read?_append {v a : List Char} (k : Keyword) (hv : v ≠ []) (hvend : endsBlank v = false)
    (ha : a ≠ []) (habegin : beginsBlank a = false) (hkey : ¬ HasKeyword a) :
    read? (v ++ [' '] ++ k.letters ++ ([' '] ++ a)) = some ⟨v, k, a⟩ := by
  have hblank : allBlank [' '] = true := by decide
  have hends : endsBlank (v ++ [' ']) = true := endsBlank_append (List.cons_ne_nil _ _) v
  have hfront : allBlank (v ++ [' ']) = false := by
    rw [allBlank_append, allBlank_eq_false_of_ends hv hvend, Bool.false_and]
  have hafter : allBlank ([' '] ++ a) = false := by
    rw [allBlank_append, allBlank_eq_false_of_begins ha habegin, Bool.and_false]
  have hcut : IsCut (v ++ [' ']) ⟨v, k, a⟩ ([' '] ++ a) := by
    have h := IsCut.of_allBlank k hends rfl hfront hafter
    rwa [trimEnd_append hblank, trimEnd_eq_self hvend, trimStart_append hblank,
      trimStart_eq_self habegin] at h
  refine read?_eq_some_iff.2 ⟨v ++ [' '], [' '] ++ a, rfl, hcut, ?_⟩
  intro front' q' after' hbody hcut'
  by_contra hlen
  exact hkey (hasKeyword_of_later (by decide) hcut' hbody (by omega))

end Qualifier

end PageAtlas.Path
