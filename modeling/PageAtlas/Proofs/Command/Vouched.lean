import PageAtlas.Proofs.Command.Visit
import PageAtlas.Proofs.Definition.Selectors

/-!
# What a visit vouches for

A page is called sound exactly if the selectors of all nodes that it keeps can
be translated; each that cannot be gets a line, and the status says so. These
lines are printed in one piece, unless the visit ends at a line that cannot be
printed. If no two siblings have one alias these are all the selectors that are declared.
Otherwise a visit says nothing of the nodes that are replaced, nor of what is
inside them.
-/

namespace PageAtlas

theorem Report.problemLine_ne_soundLine (file : String) (p : PageDef) (q : Problem) :
    Report.problemLine file p.page q ≠ Report.soundLine file p := by
  intro h
  have hchars := congrArg (fun s : String => s.toList.head?) h
  simp [Report.problemLine, Report.soundLine] at hchars

theorem Source.verdict_of_load {env : Environment} {file : String} {source : Source}
    {ps : List PageDef} (h : PageDef.load env file source = .ok ps) :
    source.verdict env file = ps.flatMap (PageDef.verdict file) := by
  rw [Source.verdict, h]

theorem PageDef.verdict_eq_soundLine_iff {file : String} {p : PageDef} :
    p.verdict file = [Report.soundLine file p] ↔ p.problems = [] := by
  rw [PageDef.verdict]
  cases p.problems with
  | nil => exact iff_of_true rfl rfl
  | cons q qs =>
      refine iff_of_false ?_ (List.cons_ne_nil q qs)
      intro h
      exact Report.problemLine_ne_soundLine file p q (List.cons.inj h).1

theorem PageDef.problemLine_mem_verdict {file : String} {p : PageDef} {q : Problem}
    (h : q ∈ p.problems) : Report.problemLine file p.page q ∈ p.verdict file := by
  rw [PageDef.verdict]
  cases hproblems : p.problems with
  | nil =>
      rw [hproblems] at h
      cases h
  | cons q' qs =>
      rw [hproblems] at h
      exact List.mem_map_of_mem h

/-- What an outcome prints on a page of a file, if it prints all that was said, and its
status answer for the selectors of the nodes that `Among` picks out. -/
structure Outcome.Vouches (o : Outcome) (file : String) (p : PageDef)
    (Among : List String → NodeDef → Prop) : Prop where
  printed : o.obstacle = none →
    ∃ head tail, o.output = head ++ Report.printed (p.verdict file) ++ tail
  sound : p.verdict file = [Report.soundLine file p] ↔
    ∀ keys nd, Among keys nd → nd.Translates
  unsound : ∀ keys nd, Among keys nd → ¬ nd.Translates →
    o.status = 1 ∧ ∃ e, definitionGraph.query nd.node = .error e ∧
      Report.problemLine file p.page ⟨keys, e⟩ ∈ p.verdict file

namespace Workplace

variable {w : Workplace} {targets : List String} {dir : Option String} {recursive : Bool}
  {files : List FilePath} {f : FilePath} {ps : List PageDef} {p : PageDef}

/-- The verdict on a page stands in one piece in what is printed. -/
theorem verdict_printed
    (hvisit : w.tree.visited w.settings targets dir recursive = .ok (some files)) (hf : f ∈ files)
    (hload : PageDef.load w.env f.shown (w.tree.read f) = .ok ps) (hp : p ∈ ps)
    (hobstacle : (w.validate targets dir recursive).obstacle = none) :
    ∃ head tail, (w.validate targets dir recursive).output =
      head ++ Report.printed (p.verdict f.shown) ++ tail := by
  have hne := List.ne_nil_of_mem hf
  have hprintable := (obstacle_validate_eq_none_iff hvisit hne).1 hobstacle
  have hverdicts := hprintable f hf
  obtain ⟨before, after, hfiles⟩ := List.append_of_mem hf
  obtain ⟨above, below, hpages⟩ := List.append_of_mem hp
  have hverdict : (w.tree.read f).verdict w.env f.shown = above.flatMap (PageDef.verdict f.shown) ++
      (p.verdict f.shown ++ below.flatMap (PageDef.verdict f.shown)) := by
    rw [Source.verdict_of_load hload, hpages, List.flatMap_append, List.flatMap_cons]
  rw [Source.printable_iff, hverdict, Report.unprintable?_append_eq_none_iff,
    Report.unprintable?_append_eq_none_iff] at hverdicts
  refine ⟨w.tree.verdicts w.env before ++ Report.printed (above.flatMap (PageDef.verdict f.shown)),
    Report.printed (below.flatMap (PageDef.verdict f.shown)) ++ w.tree.verdicts w.env after, ?_⟩
  rw [output_validate hvisit hne hprintable, hfiles, FileTree.verdicts_append_cons, hverdict,
    Report.printed_append hverdicts.1, Report.printed_append hverdicts.2.1]
  simp only [String.append_assoc]

theorem status_validate_eq_one
    (hvisit : w.tree.visited w.settings targets dir recursive = .ok (some files)) (hf : f ∈ files)
    (hsound : ¬ (w.tree.read f).Sound w.env f.shown) :
    (w.validate targets dir recursive).status = 1 := by
  obtain ⟨status, hstatus, hzero, ho⟩ := validate_eq hvisit (List.ne_nil_of_mem hf)
  obtain rfl : status = 1 := hstatus.resolve_left fun h => hsound (hzero.1 h f hf)
  rw [ho]
  exact Outcome.status_said_one w _

/-- A visit answers for the selectors that a page keeps, and so for all that it
declares if no two siblings in it have one alias. -/
theorem validate_vouches
    (hvisit : w.tree.visited w.settings targets dir recursive = .ok (some files)) (hf : f ∈ files)
    (hload : PageDef.load w.env f.shown (w.tree.read f) = .ok ps) (hp : p ∈ ps) :
    (w.validate targets dir recursive).Vouches f.shown p (NodeDef.Kept p.nodes) ∧
    (NodeDef.Distinct p.nodes →
      (w.validate targets dir recursive).Vouches f.shown p (NodeDef.Declared p.nodes)) := by
  have haccepted : p.Accepted := PageDef.accepted_of_load hload p hp
  have hkept : (w.validate targets dir recursive).Vouches f.shown p (NodeDef.Kept p.nodes) := by
    refine ⟨verdict_printed hvisit hf hload hp, ?_, ?_⟩
    · rw [PageDef.verdict_eq_soundLine_iff, haccepted.problems_eq_nil_iff]
    · intro keys nd hnd htranslates
      obtain ⟨e, hquery, hmem⟩ := haccepted.exists_problem hnd htranslates
      refine ⟨status_validate_eq_one hvisit hf ?_, e, hquery, PageDef.problemLine_mem_verdict hmem⟩
      rintro ⟨ps', hps', hall⟩
      rw [hload] at hps'
      cases hps'
      rw [hall p hp] at hmem
      cases hmem
  -- Where siblings have distinct aliases nothing is replaced, so both ranges are one.
  refine ⟨hkept, fun hdistinct => ?_⟩
  have hsame : NodeDef.Kept p.nodes = NodeDef.Declared p.nodes := by
    funext keys nd
    exact propext hdistinct.kept_iff
  rw [hsame] at hkept
  exact hkept

def misspelt : Workplace :=
  .holding [("pages.yaml", String.intercalate "\n"
    ["page: P",
      "nodes:",
      "- type: component",
      "  alias: Panel",
      "  nodes:",
      "  - type: element",
      "    alias: Save",
      "    selector: a",
      "    selector_type: jquery"])]

def misspeltLeaf : Leaf := { name := "Save", selector := "a", selectorType := "jquery" }

def misspeltPage : PageDef where
  page := "P"
  nodes := [.component { name := "Panel" } [.leaf misspeltLeaf]]

/-- The same element, and after it another one under its alias. -/
def replaced : Workplace :=
  .holding [("pages.yaml", String.intercalate "\n"
    ["page: P",
      "nodes:",
      "- type: element",
      "  alias: Save",
      "  selector: a",
      "  selector_type: jquery",
      "- type: element",
      "  alias: Save",
      "  selector: button"])]

def replacedPage : PageDef where
  page := "P"
  nodes := [.leaf misspeltLeaf, .leaf { name := "Save", selector := "button" }]

def pagesFile : FilePath := ⟨"/", ["work", "pages.yaml"]⟩

theorem not_translates_misspeltLeaf : ¬ (NodeDef.leaf misspeltLeaf).Translates := by
  rintro ⟨⟨t, ht⟩, -⟩
  have hnone : SelectorType.ofWord? misspeltLeaf.selectorType = none := by decide
  rw [SelectorType.ofWord?_eq_some_iff.2 ht] at hnone
  cases hnone

theorem distinct_misspeltPage : NodeDef.Distinct misspeltPage.nodes := by
  refine ⟨by decide, ?_⟩
  intro keys header inner h
  cases h with
  | here hmem =>
      cases List.mem_singleton.1 hmem
      decide
  | inside hmem hrest =>
      cases List.mem_singleton.1 hmem
      cases hrest with
      | here hmem => cases List.mem_singleton.1 hmem
      | inside hmem _ => cases List.mem_singleton.1 hmem

theorem validate_vouches_misspelt :
    PageDef.load [] pagesFile.shown (misspelt.tree.read pagesFile) = .ok [misspeltPage] ∧
    NodeDef.Declared misspeltPage.nodes ["Panel", "Save"] (.leaf misspeltLeaf) ∧
    (misspelt.validate ["pages.yaml"] none true).status = 1 ∧
    ∃ e, Report.problemLine "/work/pages.yaml" "P" ⟨["Panel", "Save"], e⟩ ∈
      misspeltPage.verdict "/work/pages.yaml" := by
  have hvisit : misspelt.tree.visited misspelt.settings ["pages.yaml"] none true =
      .ok (some [pagesFile]) := rfl
  have hload : PageDef.load [] pagesFile.shown (misspelt.tree.read pagesFile) =
      .ok [misspeltPage] := by
    apply Outcome.eq_ok_of_toOption
    decide +kernel
  have hdeclared : NodeDef.Declared misspeltPage.nodes ["Panel", "Save"] (.leaf misspeltLeaf) :=
    .inside (List.mem_singleton_self _) (.here (List.mem_singleton_self _))
  obtain ⟨-, hall⟩ := validate_vouches hvisit (List.mem_singleton_self _) hload
    (List.mem_singleton_self _)
  obtain ⟨hstatus, e, -, hmem⟩ := (hall distinct_misspeltPage).unsound _ _ hdeclared
    not_translates_misspeltLeaf
  exact ⟨hload, hdeclared, hstatus, e, hmem⟩

/-- Nothing is said of a selector that is declared but replaced. -/
theorem not_vouches_replaced :
    PageDef.load [] pagesFile.shown (replaced.tree.read pagesFile) = .ok [replacedPage] ∧
    NodeDef.Declared replacedPage.nodes ["Save"] (.leaf misspeltLeaf) ∧
    ¬ (NodeDef.leaf misspeltLeaf).Translates ∧
    (replaced.validate ["pages.yaml"] none true).output =
      "OK  /work/pages.yaml  ->  [P] (2 nodes)\n" ∧
    (replaced.validate ["pages.yaml"] none true).status = 0 ∧
    ¬ (replaced.validate ["pages.yaml"] none true).Vouches pagesFile.shown replacedPage
      (NodeDef.Declared replacedPage.nodes) := by
  have hload : PageDef.load [] pagesFile.shown (replaced.tree.read pagesFile) =
      .ok [replacedPage] := by
    apply Outcome.eq_ok_of_toOption
    decide +kernel
  have hdeclared : NodeDef.Declared replacedPage.nodes ["Save"] (.leaf misspeltLeaf) :=
    .here (List.mem_cons_self ..)
  have hvisit : replaced.tree.visited replaced.settings ["pages.yaml"] none true =
      .ok (some [pagesFile]) := rfl
  have hproblems : replacedPage.problems = [] := rfl
  have hverdict : (replaced.tree.read pagesFile).verdict [] pagesFile.shown =
      [Report.soundLine pagesFile.shown replacedPage] := by
    rw [Source.verdict_of_load hload, List.flatMap_singleton]
    exact PageDef.verdict_eq_soundLine_iff.2 hproblems
  have hprintable : ∀ f ∈ [pagesFile], (replaced.tree.read f).Printable replaced.env f.shown := by
    refine List.forall_mem_singleton.2 (Source.printable_iff.2 ?_)
    change Report.unprintable? ((replaced.tree.read pagesFile).verdict [] pagesFile.shown) = none
    rw [hverdict]
    decide +kernel
  have houtput : (replaced.validate ["pages.yaml"] none true).output =
      "OK  /work/pages.yaml  ->  [P] (2 nodes)\n" := by
    rw [output_validate hvisit (List.cons_ne_nil _ _) hprintable]
    change String.join
      [Report.printed ((replaced.tree.read pagesFile).verdict [] pagesFile.shown)] = _
    rw [hverdict]
    decide +kernel
  have hstatus : (replaced.validate ["pages.yaml"] none true).status = 0 := by
    refine (status_validate hvisit (List.cons_ne_nil _ _) hprintable).1.2 fun f hf => ?_
    rw [List.mem_singleton.1 hf]
    exact ⟨[replacedPage], hload, List.forall_mem_singleton.2 hproblems⟩
  refine ⟨hload, hdeclared, not_translates_misspeltLeaf, houtput, hstatus, ?_⟩
  intro h
  have hall := h.sound.1 (PageDef.verdict_eq_soundLine_iff.2 hproblems)
  exact not_translates_misspeltLeaf (hall ["Save"] _ hdeclared)

end Workplace

end PageAtlas
