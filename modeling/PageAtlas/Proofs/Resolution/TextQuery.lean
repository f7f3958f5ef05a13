import PageAtlas.Graph.Store
import PageAtlas.Proofs.Locator.Changing

/-!
# Combined queries and scans pick the same element

On a page that does not change, a match by text evaluates to the first text of
the collection that contains the wanted one, whether the text went into the
query, was met by a scan, or stayed behind as a condition.
-/

namespace PageAtlas

namespace PageLocator

variable (naming : Naming) (page : PageTexts)

theorem evaluate_chosen (combine : Bool) {scope : PageLocator} (hs : scope.steps ≠ []) (q : Query)
    (wanted : String) :
    page.evaluate (TextMatch.chosen (driver naming page) combine
        (all naming.jsEngine scope q).value wanted).steps =
      ((page.current naming.jsEngine q).find? (Text.contains · wanted)).toList := by
  have hl := formed_all naming.jsEngine hs q
  rw [← evaluate_all page naming.jsEngine hs q]
  cases hq : TextMatch.combined? (driver naming page) combine (all naming.jsEngine scope q).value
      wanted with
  | some query =>
      refine evaluate_chosen_of_condition naming page hl (Or.inl ?_) page
      rw [hq]
      rfl
  | none =>
      cases hi : (page.evaluate (all naming.jsEngine scope q).value.steps).findIdx?
          (Text.contains · wanted) with
      | some i =>
          rw [chosen_of_findIdx? naming page hq hi]
          exact evaluate_elementAt page hl.steps_ne_nil hi
      | none =>
          have hmiss := List.findIdx?_eq_none_iff.1 hi
          exact evaluate_chosen_of_condition naming page hl (Or.inr hmiss) page

theorem scopeLocator_steps_ne_nil {ν : Type} {g : Graph ν} {seen : PageTexts} {o : Options}
    {root : ν} {before : List Path.Hop} {f : Frame ν PageLocator}
    (hf : (Walk.hops g (driver naming seen) o (Walk.start root) before).result = .ok f) :
    (Walk.scopeLocator (driver naming page) f).steps ≠ [] := by
  have hcomposed := Walk.composed_of_hops (d := driver naming) seen hf
  rw [Walk.scopeLocator]
  cases hl : f.locator with
  | none => simp [driver]
  | some l => exact (formed_of_composed (hcomposed l hl)).steps_ne_nil

/-- Whatever frame a collection is reached under, and whatever the page showed
on the way: with and without combining, the locator of the element that contains
a text evaluates to the first such text that the collection shows now. -/
theorem evaluate_text_pick {ν : Type} {g : Graph ν} {seen : PageTexts} {o : Options} {root : ν}
    {before : List Path.Hop} {f : Frame ν PageLocator} {name : String} {n : Node ν} {q : Query}
    (hf : (Walk.hops g (driver naming seen) o (Walk.start root) before).result = .ok f)
    (hn : g.lookup f.node name = .ok n) (hcol : g.isCollection n = true) (hq : g.query n = .ok q)
    (strict : Bool) (wanted : String) :
    ∃ collection, (Walk.locate g (driver naming page) f n true).result = .ok collection ∧
      page.evaluate collection.steps = page.current naming.jsEngine q ∧
      ∀ combine, ∃ l,
        (Walk.step g (driver naming page) ⟨combine, strict⟩ f (.picked name (.text wanted))).result =
          .ok ⟨some l, n, false⟩ ∧
        page.evaluate l.steps =
          ((page.evaluate collection.steps).find? (Text.contains · wanted)).toList := by
  have hs := scopeLocator_steps_ne_nil naming page hf
  have hcurrent := evaluate_all page naming.jsEngine hs q
  refine ⟨Walk.matchesOf (driver naming page) f q true, ?_, hcurrent, fun combine => ?_⟩
  · rw [Walk.locate_result, hq]
    rfl
  · refine ⟨TextMatch.chosen (driver naming page) combine
      (Walk.matchesOf (driver naming page) f q true) wanted, ?_, ?_⟩
    · have hlookup : g.lookup f.node (Path.Hop.picked name (.text wanted)).name = .ok n := hn
      rw [Walk.step_result, hlookup]
      change (Walk.picked g (driver naming page) ⟨combine, strict⟩ f n name (.text wanted)).result = _
      rw [Walk.picked_result, hcol, hq]
      rfl
    · exact (evaluate_chosen naming page combine hs q wanted).trans (by rw [← hcurrent]; rfl)

def panelGraph : Graph Nat :=
  Store.graph ⟨[
    { children := [("Panel", .component 1)] },
    { name := some "Panel", selector := some ".panel",
      children := [("Links", .leaf { name := "Links", selector := "a", repeated := true })] }]⟩

def panelPage : PageTexts := [("a", ["About", "Home page", "Home"])]

theorem evaluate_text_pick_panel :
    ∃ f : Frame Nat PageLocator,
      (Walk.hops panelGraph (driver {} panelPage) {} (Walk.start 0) [.plain "Panel"]).result =
        .ok f ∧
      ∀ combine, ∃ l n,
        (Walk.step panelGraph (driver {} panelPage) ⟨combine, false⟩ f
          (.picked "Links" (.text "Home"))).result = .ok ⟨some l, n, false⟩ ∧
        panelPage.evaluate l.steps = ["Home page"] := by
  have hf : (Walk.hops panelGraph (driver {} panelPage) {} (Walk.start 0)
      [.plain "Panel"]).result =
        .ok ⟨some ⟨[.select "html" none, .select ".panel" none, .first], .nth, none, none⟩,
          .component 1, false⟩ := rfl
  have hn : panelGraph.lookup (.component 1) "Links" =
      .ok (.leaf { name := "Links", selector := "a", repeated := true }) := rfl
  obtain ⟨c, _, hcurrent, h⟩ := evaluate_text_pick {} panelPage hf hn rfl rfl false "Home"
  refine ⟨_, hf, fun combine => ?_⟩
  obtain ⟨l, hl, heval⟩ := h combine
  refine ⟨l, _, hl, ?_⟩
  rw [heval, hcurrent]
  decide +kernel

end PageLocator

end PageAtlas
