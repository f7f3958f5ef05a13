import PageAtlas.Proofs.Locator.Scan

/-!
# What a match by text evaluates to

A locator that comes from a match by text is evaluated later, perhaps on a page
that has changed. A condition that is kept in the locator means the first text
that contains the wanted one at that time; a position found by a scan means it
as long as the collection has the texts that were scanned.
-/

namespace PageAtlas

namespace PageTexts

variable (page : PageTexts)

def current (jsEngine : String) (q : Query) : List String :=
  match q.type with
  | .css => page.matching q.selector
  | .xpath => page.matching ("xpath=" ++ q.selector)
  | .js => page.matching (jsEngine ++ "=" ++ q.selector)
  | .cssContainingText =>
      (page.matching q.selector).filter (Text.contains · (q.text.getD ""))

theorem containing_eq_filter (text : String) (ts : List String) :
    containing text ts = ts.filter (Text.contains · text) := by
  rw [containing]
  congr 1
  funext t
  exact Text.Pattern.found_escape text.toList t.toList

theorem take_one_filter (p : String → Bool) (ts : List String) :
    (ts.filter p).take 1 = (ts.find? p).toList := by
  rw [List.take_one, List.head?_filter]

theorem slice_findIdx? {p : String → Bool} {ts : List String} {i : Nat}
    (h : ts.findIdx? p = some i) : slice ts i = (ts.find? p).toList := by
  obtain ⟨hlt, _, _⟩ := List.findIdx?_eq_some_iff_getElem.1 h
  rw [slice_natCast, List.find?_eq_bind_findIdx?_getElem?, h, List.take_one, List.head?_drop]
  rfl

end PageTexts

namespace PageLocator

variable (page : PageTexts)

/-- A query under a located scope matches the same texts wherever the scope is. -/
theorem evaluate_all (jsEngine : String) {scope : PageLocator} (hs : scope.steps ≠ []) (q : Query) :
    page.evaluate (all jsEngine scope q).value.steps = page.current jsEngine q := by
  rw [all, PageTexts.current]
  cases q.type with
  | css => exact page.evaluate_append hs _
  | xpath => exact page.evaluate_append hs _
  | js => exact page.evaluate_append hs _
  | cssContainingText =>
      refine (page.evaluate_append hs _).trans ?_
      exact PageTexts.containing_eq_filter (q.text.getD "") (page.matching q.selector)

theorem all_steps_ne_nil (jsEngine : String) (scope : PageLocator) (q : Query) :
    (all jsEngine scope q).value.steps ≠ [] := by
  rw [all]
  cases q.type <;> simp [under]

/-- The first element that keeps its text as a condition. -/
theorem evaluate_first_withText {l : PageLocator} (hl : l.steps ≠ []) (wanted : String) :
    page.evaluate (l.withText wanted).value.first.steps =
      ((page.evaluate l.steps).find? (Text.contains · wanted)).toList := by
  have hsteps : (l.withText wanted).value.first.steps = l.steps ++ [.filter wanted, .first] := by
    simp [withText, first]
  rw [hsteps, page.evaluate_append hl]
  change (PageTexts.containing wanted (page.evaluate l.steps)).take 1 = _
  rw [PageTexts.containing_eq_filter, PageTexts.take_one_filter]

/-- The element at the position of the first text that contains the wanted one. -/
theorem evaluate_elementAt {l : PageLocator} (hl : l.steps ≠ []) {wanted : String} {i : Nat}
    (h : (page.evaluate l.steps).findIdx? (Text.contains · wanted) = some i) :
    page.evaluate (l.elementAt i).steps =
      ((page.evaluate l.steps).find? (Text.contains · wanted)).toList :=
  (page.evaluate_append hl [.nth i]).trans (PageTexts.slice_findIdx? h)

end PageLocator

end PageAtlas
