import PageAtlas.Proofs.Path.HopText
import PageAtlas.Proofs.Path.Token
import Mathlib.Data.List.Forall2

/-!
# Reading back a written path

The hop lists that parsing returns are the canonical ones, and each of them is
read back from its own text.
-/

namespace PageAtlas.Path

open Text

/-- The hop lists whose text is cut where the hops meet, and each of whose hops
is readable. -/
structure Canonical (hops : List Hop) : Prop where
  ne_nil : hops ≠ []
  notMem : ∀ h ∈ hops, ∀ s ∈ h.texts, separator ∉ s.toList
  begins : ∀ h ∈ hops.tail, beginsBlank h.render.toList = false
  ends : ∀ h ∈ hops.dropLast, endsBlank h.render.toList = false
  readable : ∀ h ∈ hops, h.Readable

/-! ## Token by token -/

theorem Hop.parseAll_eq_ok_iff {ts : List String} {hops : List Hop} :
    parseAll ts = .ok hops ↔ List.Forall₂ (fun t h => parse t = .ok h) ts hops := by
  induction ts generalizing hops with
  | nil =>
      rw [parseAll, List.forall₂_nil_left_iff, Except.ok.injEq]
      exact eq_comm
  | cons t ts ih =>
      rw [parseAll, List.forall₂_cons_left_iff]
      constructor
      · intro h
        cases ht : parse t with
        | error e =>
            rw [ht] at h
            cases h
        | ok hop =>
            rw [ht] at h
            cases hts : parseAll ts with
            | error e =>
                rw [hts] at h
                cases h
            | ok rest =>
                rw [hts] at h
                cases h
                exact ⟨hop, rest, rfl, ih.1 hts, rfl⟩
      · rintro ⟨hop, rest, ht, hts, rfl⟩
        rw [ht, ih.2 hts]

theorem exists_of_forall₂ {α β : Type} {R : α → β → Prop} {as : List α} {bs : List β}
    (h : List.Forall₂ R as bs) {b : β} (hb : b ∈ bs) : ∃ a ∈ as, R a b := by
  induction h with
  | nil => cases hb
  | @cons a b' as bs hab _ ih =>
      rcases List.mem_cons.1 hb with rfl | hb
      · exact ⟨a, List.mem_cons_self, hab⟩
      · obtain ⟨a', ha', hR⟩ := ih hb
        exact ⟨a', List.mem_cons_of_mem a ha', hR⟩

theorem forall₂_dropLast {α β : Type} {R : α → β → Prop} {as : List α} {bs : List β}
    (h : List.Forall₂ R as bs) : List.Forall₂ R as.dropLast bs.dropLast := by
  rw [List.dropLast_eq_take, List.dropLast_eq_take, h.length_eq]
  exact List.forall₂_take _ h

theorem forall₂_tail {α β : Type} {R : α → β → Prop} {as : List α} {bs : List β}
    (h : List.Forall₂ R as bs) : List.Forall₂ R as.tail bs.tail := by
  rw [← List.drop_one, ← List.drop_one]
  exact List.forall₂_drop 1 h

/-! ## The text of a canonical list -/

theorem Hop.separator_notMem_render {h : Hop} (hs : ∀ s ∈ h.texts, separator ∉ s.toList) :
    separator ∉ h.render.toList := by
  have hof : separator ∉ " of ".toList := by decide
  have hin : separator ∉ " in ".toList := by decide
  have hmark : separator ∉ "#".toList := by decide
  cases h with
  | plain name => exact hs name List.mem_cons_self
  | picked name pick =>
      cases pick with
      | text value =>
          have hname := hs name List.mem_cons_self
          have hvalue := hs value (List.mem_cons_of_mem _ List.mem_cons_self)
          simp only [render, String.toList_append, List.mem_append, not_or]
          exact ⟨⟨⟨hmark, hvalue⟩, hin⟩, hname⟩
      | index n =>
          have hname := hs name List.mem_cons_self
          have hnum : separator ∉ (Numeral.ofInt n).toList := by
            intro hmem
            have hchar := Numeral.eq_or_isDigit_of_mem_ofInt hmem
            revert hchar
            decide
          simp only [render, String.toList_append, List.mem_append, not_or]
          exact ⟨⟨⟨hmark, hnum⟩, hof⟩, hname⟩

theorem Canonical.normal {hops : List Hop} (h : Canonical hops) :
    Normal (hops.map fun hop => hop.render.toList) where
  ne_nil := by
    rw [Ne, List.map_eq_nil_iff]
    exact h.ne_nil
  notMem := by
    intro t ht
    obtain ⟨hop, hmem, rfl⟩ := List.mem_map.1 ht
    exact hop.separator_notMem_render (h.notMem hop hmem)
  begins := by
    intro t ht
    rw [← List.map_tail] at ht
    obtain ⟨hop, hmem, rfl⟩ := List.mem_map.1 ht
    exact h.begins hop hmem
  ends := by
    intro t ht
    rw [← List.map_dropLast] at ht
    obtain ⟨hop, hmem, rfl⟩ := List.mem_map.1 ht
    exact h.ends hop hmem

/-- The texts of a list, joined, consist of them. -/
theorem joined_join {labels : List String} (h : labels ≠ []) :
    Joined (labels.map String.toList) (join labels).toList := by
  induction labels with
  | nil => exact absurd rfl h
  | cons s labels ih =>
      by_cases hnil : labels = []
      · subst hnil
        rw [join, String.intercalate_singleton]
        exact Joined.last s.toList
      · have htext : (join (s :: labels)).toList =
            s.toList ++ [' '] ++ separator :: ([' '] ++ (join labels).toList) := by
          rw [join, String.intercalate_cons_of_ne_nil hnil]
          simp [join, separator]
        rw [htext, List.map_cons]
        exact Joined.cons s.toList (by decide) (by decide) (ih hnil)

theorem Canonical.tokens_render {hops : List Hop} (h : Canonical hops) :
    tokens (render hops) = hops.map Hop.render := by
  have hne : hops.map Hop.render ≠ [] := by
    rw [Ne, List.map_eq_nil_iff]
    exact h.ne_nil
  have hjoined : Joined (hops.map fun hop => hop.render.toList) (render hops).toList := by
    have hj := joined_join hne
    rwa [List.map_map] at hj
  rw [tokens, cut_joined h.normal hjoined, List.map_map]
  exact List.map_congr_left fun hop _ => String.ofList_toList

theorem Canonical.parse_render {hops : List Hop} (h : Canonical hops) :
    parse (render hops) = .ok hops := by
  rw [parse, h.tokens_render, Hop.parseAll_eq_ok_iff, List.forall₂_map_left_iff, List.forall₂_same]
  intro hop hmem
  exact Hop.parse_render (h.readable hop hmem)

/-! ## The lists that parsing returns -/

theorem canonical_of_parse {path : String} {hops : List Hop} (h : parse path = .ok hops) :
    Canonical hops := by
  have hnormal := normal_cut path.toList
  have hall := Hop.parseAll_eq_ok_iff.1 h
  rw [tokens, List.forall₂_map_left_iff] at hall
  refine ⟨?_, ?_, ?_, ?_, ?_⟩
  · rintro rfl
    exact hnormal.ne_nil (List.forall₂_nil_right_iff.1 hall)
  · intro hop hmem s hs hsep
    obtain ⟨t, ht, hparse⟩ := exists_of_forall₂ hall hmem
    have hsub := Hop.subset_of_parse hparse s hs
    rw [String.toList_ofList] at hsub
    exact hnormal.notMem t ht (hsub hsep)
  · intro hop hmem
    obtain ⟨t, ht, hparse⟩ := exists_of_forall₂ (forall₂_tail hall) hmem
    refine Hop.beginsBlank_render hparse ?_
    rw [String.toList_ofList]
    exact hnormal.begins t ht
  · intro hop hmem
    obtain ⟨t, ht, hparse⟩ := exists_of_forall₂ (forall₂_dropLast hall) hmem
    refine Hop.endsBlank_render hparse ?_
    rw [String.toList_ofList]
    exact hnormal.ends t ht
  · intro hop hmem
    obtain ⟨t, _, hparse⟩ := exists_of_forall₂ hall hmem
    exact Hop.readable_of_parse hparse

/-- Parsing undoes rendering on the canonical lists, and returns no others; so a
parsed path, written anew, is parsed as before. -/
theorem parse_render_canonical :
    (∀ hops, Canonical hops → parse (render hops) = .ok hops) ∧
      ∀ path hops, parse path = .ok hops → Canonical hops ∧ parse (render hops) = .ok hops := by
  constructor
  · intro hops h
    exact h.parse_render
  · intro path hops h
    have hcanonical := canonical_of_parse h
    exact ⟨hcanonical, hcanonical.parse_render⟩

def headerHops : List Hop :=
  [.plain " Header", .picked "Buttons" (.text "Sign in"), .picked "#tags " (.index 2)]

theorem parse_render_canonical_header :
    parse " Header>#Sign in in Buttons >  # 02  of  #tags " = .ok headerHops ∧
      Canonical headerHops ∧
      parse " Header > #Sign in in Buttons > #2 of #tags " = .ok headerHops := by
  have hparse : parse " Header>#Sign in in Buttons >  # 02  of  #tags " = .ok headerHops := by
    rfl
  obtain ⟨hcanonical, _⟩ := parse_render_canonical.2 _ _ hparse
  exact ⟨hparse, hcanonical, parse_render_canonical.1 headerHops hcanonical⟩

end PageAtlas.Path
