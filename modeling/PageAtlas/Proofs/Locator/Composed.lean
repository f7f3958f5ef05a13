import PageAtlas.Proofs.Locator.Evaluation
import PageAtlas.Proofs.Resolution.Step

/-!
# Locators that drivers compose

Drivers make locators from other locators, and a walk makes no others. On a page
the drivers differ in what the page shows at each moment. Of the locators that
they make together, one that can be combined with a text keeps the scope and the
selector it was made from, and one tagged as a position leaves at most one text.
-/

namespace PageAtlas

namespace Driver

variable {ι L : Type}

/-- The locators that come about by operations of the given drivers. -/
inductive Composed (d : ι → Driver L) : L → Prop
  | root (i : ι) : Composed d (d i).root.value
  | locate (i : ι) {l : L} (h : Composed d l) (q : Query) (multiple : Bool) :
      Composed d ((d i).locate l q multiple).value
  | elementAt (i : ι) {l : L} (h : Composed d l) (index : Int) :
      Composed d ((d i).elementAt l index)
  | first (i : ι) {l : L} (h : Composed d l) : Composed d ((d i).first l)
  | combine (i : ι) {l : L} {text : String} {query : Called L} (h : Composed d l)
      (hq : (d i).combine? l text = some query) : Composed d query.value
  | withText (i : ι) {l : L} (h : Composed d l) (text : String) :
      Composed d ((d i).withText l text).value
  | scan (i : ι) {l : L} {e : Candidate L} (h : Composed d l) (he : e ∈ ((d i).scan l).value) :
      Composed d e.locator

variable {d : ι → Driver L}

theorem Composed.chosen (i : ι) {l : L} (h : Composed d l) (combine : Bool) (wanted : String) :
    Composed d (TextMatch.chosen (d i) combine l wanted) := by
  rw [TextMatch.chosen]
  split
  · next query hq =>
    rw [TextMatch.combined?] at hq
    split at hq
    · exact (h.combine i hq).first i
    · cases hq
  · split
    · next e he =>
      exact h.scan i (List.mem_of_find?_eq_some he)
    · exact (h.withText i wanted).first i

end Driver

namespace Walk

open Driver

variable {ν ι L : Type} {g : Graph ν} {d : ι → Driver L} {o : Options}

theorem composed_matchesOf (i : ι) {f : Frame ν L} (hf : ∀ l, f.locator = some l → Composed d l)
    (q : Query) (multiple : Bool) : Composed d (matchesOf (d i) f q multiple) := by
  have hscope : Composed d (scopeLocator (d i) f) := by
    rw [scopeLocator]
    cases hl : f.locator with
    | none => exact Composed.root i
    | some l => exact hf l hl
  exact hscope.locate i q multiple

theorem composed_of_next (i : ι) {f f' : Frame ν L} {hop : Path.Hop}
    (hf : ∀ l, f.locator = some l → Composed d l) (h : Next g (d i) o f hop f') :
    ∀ l, f'.locator = some l → Composed d l := by
  cases h with
  | grouping => exact hf
  | @matched _ _ q =>
      intro l hl
      cases hl
      exact composed_matchesOf i hf q _
  | @picked _ p _ q =>
      have hmatches : Composed d (matchesOf (d i) f q true) := composed_matchesOf i hf q true
      intro l hl
      cases hl
      cases p with
      | index n => exact hmatches.elementAt i _
      | text wanted => exact hmatches.chosen i o.combine wanted

theorem composed_of_hops (i : ι) {root : ν} {f : Frame ν L} {hs : List Path.Hop}
    (h : (hops g (d i) o (start root) hs).result = .ok f) :
    ∀ l, f.locator = some l → Composed d l := by
  refine hops_induction (P := fun f => ∀ l, f.locator = some l → Composed d l)
    (composed_of_next i) ?_ h
  intro l hl
  cases hl

end Walk

/-! ## On a page -/

theorem PageTexts.length_slice_le_one (ts : List String) (i : Int) : (slice ts i).length ≤ 1 := by
  rw [slice]
  split
  · exact List.length_take_le 1 _
  · split
    · exact Nat.zero_le 1
    · dsimp only
      split
      · exact Nat.zero_le 1
      · exact List.length_take_le 1 _

namespace PageLocator

/-- The steps of a locator fit its engine, and what it keeps of a query by css
makes up its steps. -/
structure Formed (l : PageLocator) : Prop where
  steps_ne_nil : l.steps ≠ []
  css : l.engine = .css → ∃ on selector, on ≠ [] ∧ l.steps = on ++ [.select selector none] ∧
    l.scope = some on ∧ l.selector = some selector
  nth : l.engine = .nth → ∃ on s, on ≠ [] ∧ l.steps = on ++ [s] ∧ (s = .first ∨ ∃ i, s = .nth i)

theorem formed_all (jsEngine : String) {scope : PageLocator} (hs : scope.steps ≠ []) (q : Query) :
    (all jsEngine scope q).value.Formed := by
  refine ⟨all_steps_ne_nil jsEngine scope q, ?_, ?_⟩
  · rw [all]
    cases q.type with
    | css => exact fun _ => ⟨scope.steps, q.selector, hs, rfl, rfl, rfl⟩
    | xpath => intro h; cases h
    | js => intro h; cases h
    | cssContainingText => intro h; cases h
  · rw [all]
    cases q.type <;> intro h <;> cases h

theorem formed_first {l : PageLocator} (hs : l.steps ≠ []) : l.first.Formed where
  steps_ne_nil := by simp [first]
  css := by
    intro h
    cases h
  nth := fun _ => ⟨l.steps, .first, hs, rfl, Or.inl rfl⟩

theorem formed_elementAt {l : PageLocator} (hs : l.steps ≠ []) (i : Int) :
    (l.elementAt i).Formed where
  steps_ne_nil := by simp [elementAt]
  css := by
    intro h
    cases h
  nth := fun _ => ⟨l.steps, .nth i, hs, rfl, Or.inr ⟨i, rfl⟩⟩

/-- A text condition is neither a plain query nor a position. -/
theorem formed_of_engine {l : PageLocator} (hs : l.steps ≠ [])
    (he : l.engine ≠ .css ∧ l.engine ≠ .nth) : l.Formed :=
  ⟨hs, fun h => absurd h he.1, fun h => absurd h he.2⟩

theorem formed_of_combine? {l : PageLocator} {text : String} {query : Called PageLocator}
    (hq : l.combine? text = some query) : query.value.Formed := by
  rw [combine?] at hq
  split at hq
  · split at hq
    · cases hq
      refine formed_of_engine (by simp [under]) ?_
      exact ⟨by simp [under], by simp [under]⟩
    · cases hq
  · cases hq

theorem formed_of_composed {naming : Naming} {l : PageLocator}
    (h : Driver.Composed (driver naming) l) : l.Formed := by
  induction h with
  | root page =>
      refine formed_of_engine (by simp [driver]) ?_
      exact ⟨by simp [driver], by simp [driver]⟩
  | @locate page l _ q multiple ih =>
      have hall := formed_all naming.jsEngine ih.steps_ne_nil q
      cases multiple with
      | true => exact hall
      | false => exact formed_first hall.steps_ne_nil
  | elementAt page _ i ih => exact formed_elementAt ih.steps_ne_nil i
  | first page _ ih => exact formed_first ih.steps_ne_nil
  | combine page _ hq _ => exact formed_of_combine? hq
  | @withText page l _ text _ =>
      refine formed_of_engine (by simp [driver, withText]) ?_
      exact ⟨by simp [driver, withText], by simp [driver, withText]⟩
  | @scan page l e _ he ih =>
      obtain ⟨i, hi⟩ := List.mem_iff_getElem?.1 he
      rw [scansByPosition naming page l i e hi]
      exact formed_elementAt ih.steps_ne_nil i

namespace Formed

variable {l : PageLocator} (page : PageTexts)

theorem length_evaluate_le_one (h : l.Formed) (hnth : l.engine = .nth) :
    (page.evaluate l.steps).length ≤ 1 := by
  obtain ⟨on, s, hon, hsteps, hs⟩ := h.nth hnth
  rw [hsteps, page.evaluate_append hon]
  change (page.apply (page.evaluate on) s).length ≤ 1
  rcases hs with rfl | ⟨i, rfl⟩
  · exact List.length_take_le 1 _
  · exact PageTexts.length_slice_le_one _ i

/-- A combined query is that of the locator with the text as a condition. -/
theorem evaluate_combine? (h : l.Formed) {wanted : String} {query : Called PageLocator}
    (hq : l.combine? wanted = some query) :
    page.evaluate query.value.steps =
      (page.evaluate l.steps).filter (Text.contains · wanted) := by
  rw [combine?] at hq
  split at hq
  next hcss =>
    obtain ⟨on, selector, hon, hsteps, hscope, hselector⟩ := h.css hcss
    rw [hscope, hselector] at hq
    cases hq
    have hl : page.evaluate l.steps = page.matching selector := by
      rw [hsteps]
      exact page.evaluate_append hon _
    rw [hl]
    refine (page.evaluate_append hon _).trans ?_
    exact PageTexts.containing_eq_filter wanted (page.matching selector)
  · cases hq

end Formed

end PageLocator

end PageAtlas
