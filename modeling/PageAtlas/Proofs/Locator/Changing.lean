import PageAtlas.Proofs.Locator.Composed

/-!
# Matches by text on a page that changes

A match by text is resolved on one page and evaluated on another. A text that
went into the query, or stayed behind as a condition, is asked of the page that
is there at evaluation. A scan that met the text leaves a position instead.
-/

namespace PageAtlas

namespace PageLocator

variable (naming : Naming) (before : PageTexts) {combine : Bool} {l : PageLocator}
  {wanted : String}

theorem chosen_of_findIdx? (hq : TextMatch.combined? (driver naming before) combine l wanted = none)
    {i : Nat} (hi : (before.evaluate l.steps).findIdx? (Text.contains · wanted) = some i) :
    TextMatch.chosen (driver naming before) combine l wanted = l.elementAt i := by
  rw [TextMatch.chosen_of_scan (scansByPosition naming before) hq, enumerated_eq_evaluate, hi]
  rfl

theorem chosen_of_unmatched (hq : TextMatch.combined? (driver naming before) combine l wanted = none)
    (hmiss : ∀ t ∈ before.evaluate l.steps, Text.contains t wanted = false) :
    TextMatch.chosen (driver naming before) combine l wanted = (l.withText wanted).value.first := by
  have hi : (before.evaluate l.steps).findIdx? (Text.contains · wanted) = none := by
    rw [List.findIdx?_eq_none_iff]
    exact hmiss
  rw [TextMatch.chosen_of_scan (scansByPosition naming before) hq, enumerated_eq_evaluate, hi]
  rfl

/-- The first match of a combined query, whatever the page shows. -/
theorem Formed.evaluate_first_combine? (hl : l.Formed) {query : Called PageLocator}
    (hq : l.combine? wanted = some query) (now : PageTexts) :
    now.evaluate query.value.first.steps =
      ((now.evaluate l.steps).find? (Text.contains · wanted)).toList := by
  have hne : query.value.steps ≠ [] := (formed_of_combine? hq).steps_ne_nil
  calc now.evaluate query.value.first.steps
      = (now.evaluate query.value.steps).take 1 := now.evaluate_append hne [.first]
    _ = ((now.evaluate l.steps).filter (Text.contains · wanted)).take 1 := by
        rw [hl.evaluate_combine? now hq]
    _ = ((now.evaluate l.steps).find? (Text.contains · wanted)).toList :=
        PageTexts.take_one_filter _ _

theorem evaluate_chosen_of_condition (hl : l.Formed)
    (hcondition : (TextMatch.combined? (driver naming before) combine l wanted).isSome = true ∨
      ∀ t ∈ before.evaluate l.steps, Text.contains t wanted = false) (now : PageTexts) :
    now.evaluate (TextMatch.chosen (driver naming before) combine l wanted).steps =
      ((now.evaluate l.steps).find? (Text.contains · wanted)).toList := by
  cases hq : TextMatch.combined? (driver naming before) combine l wanted with
  | some query =>
      rw [TextMatch.chosen_of_combined hq]
      have hcombine : l.combine? wanted = some query := by
        cases combine with
        | true => exact hq
        | false => cases hq
      exact hl.evaluate_first_combine? hcombine now
  | none =>
      rcases hcondition with hsome | hmiss
      · rw [hq] at hsome
        cases hsome
      · rw [chosen_of_unmatched naming before hq hmiss]
        exact evaluate_first_withText now hl.steps_ne_nil wanted

/-- Of every collection that drivers compose: unless a scan met the wanted text,
the locator of a match by text evaluates, on whatever page, to the first text of
the collection there that contains the wanted one. A scan that met it yields its
position. -/
theorem evaluate_text_match_later (hl : Driver.Composed (driver naming) l) (combine : Bool)
    (wanted : String) :
    ∃ picked, (TextMatch.find (driver naming before) combine l wanted).result = .ok picked ∧
      ((TextMatch.combined? (driver naming before) combine l wanted).isSome = true ∨
          (∀ t ∈ before.evaluate l.steps, Text.contains t wanted = false) →
        ∀ now : PageTexts,
          now.evaluate picked.steps =
              ((now.evaluate l.steps).find? (Text.contains · wanted)).toList ∧
            ∀ t ∈ now.evaluate picked.steps, Text.contains t wanted = true) ∧
      (TextMatch.combined? (driver naming before) combine l wanted = none → ∀ i : Nat,
        (before.evaluate l.steps).findIdx? (Text.contains · wanted) = some i →
          picked = l.elementAt i) := by
  have hformed : l.Formed := formed_of_composed hl
  refine ⟨_, TextMatch.find_result _ _ _ _, ?_, fun hq i hi => chosen_of_findIdx? naming before hq hi⟩
  intro hcondition now
  have heval := evaluate_chosen_of_condition naming before hformed hcondition now
  refine ⟨heval, fun t ht => ?_⟩
  rw [heval, Option.mem_toList] at ht
  obtain ⟨hcontains, -⟩ := List.find?_eq_some_iff_append.1 ht
  exact hcontains

/-- Links that are found by xpath, and so not combined with a text. -/
def linksQuery : Query := { type := .xpath, selector := "//a" }

/-- A text that no link has yet is found when a link has it; the position of one
that a link has stays when the links change. -/
theorem evaluate_text_match_later_links :
    ∃ l : PageLocator, Driver.Composed (driver {}) l ∧
      (∃ picked, (TextMatch.find (driver {} [("xpath=//a", ["About"])]) true l "Home").result =
          .ok picked ∧
        PageTexts.evaluate [("xpath=//a", ["About", "Blog"])] picked.steps = [] ∧
        PageTexts.evaluate [("xpath=//a", ["Home", "About"])] picked.steps = ["Home"]) ∧
      ∃ picked, (TextMatch.find (driver {} [("xpath=//a", ["Home"])]) true l "Home").result =
          .ok picked ∧
        PageTexts.evaluate [("xpath=//a", ["About", "Home"])] picked.steps = ["About"] := by
  have hl : Driver.Composed (driver {}) (all "pagepath-js" (driver {} []).root.value linksQuery).value :=
    (Driver.Composed.root []).locate [] linksQuery true
  refine ⟨_, hl, ?_, ?_⟩
  · obtain ⟨picked, hpicked, hcondition, -⟩ :=
      evaluate_text_match_later {} [("xpath=//a", ["About"])] hl true "Home"
    have hmiss : ∀ t ∈ PageTexts.evaluate [("xpath=//a", ["About"])]
        (all "pagepath-js" (driver {} []).root.value linksQuery).value.steps,
        Text.contains t "Home" = false := by decide +kernel
    have hlater := hcondition (Or.inr hmiss)
    refine ⟨picked, hpicked, ?_, ?_⟩
    · rw [(hlater _).1]
      decide +kernel
    · rw [(hlater _).1]
      decide +kernel
  · obtain ⟨picked, hpicked, -, hposition⟩ :=
      evaluate_text_match_later {} [("xpath=//a", ["Home"])] hl true "Home"
    refine ⟨picked, hpicked, ?_⟩
    rw [hposition rfl 0 (by decide +kernel)]
    decide +kernel

end PageLocator

end PageAtlas
