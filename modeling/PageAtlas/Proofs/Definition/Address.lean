import PageAtlas.Locator.Chain
import PageAtlas.Proofs.Definition.Registered
import PageAtlas.Proofs.Path.Aliases
import PageAtlas.Proofs.Resolution.Checked
import PageAtlas.Proofs.Resolution.FirstFailure

/-!
# Addressing the nodes of a page

A page that was loaded can be built, and each of its nodes has a path: the
aliases that lead to it, joined by separators. Following it leads to the node,
provided that every alias is read as one.
-/

namespace PageAtlas

open PageAtlas.Path

theorem PageDef.AcceptedBelow.nameable_of_nodeAt? {n m : Node Block} {keys : List String}
    (h : PageDef.AcceptedBelow n) (hm : definitionGraph.nodeAt? n keys = some m) :
    ∀ key ∈ keys, Nameable key := by
  induction keys generalizing n with
  | nil =>
      intro key hkey
      cases hkey
  | cons key keys ih =>
      obtain ⟨n', hn', hrest⟩ := Graph.nodeAt?_cons_eq_some_iff.1 hm
      obtain ⟨hkey, hn'⟩ := h.lookup hn'
      exact List.forall_mem_cons.2 ⟨hkey, ih hn' hrest⟩

/-- The path of a node of a loaded page is read back as the aliases that lead to
it if and only if these are unmistakable; if they are not, no other path is read
as them either. Following the path reaches the node, or fails at one on the way
whose selector the check reports, or is refused a strict scope. -/
theorem PageDef.path_of_node {env : Environment} {file : String} {source : Source}
    {ps : List PageDef} {p : PageDef} {keys : List String} {n : Node Block}
    (hload : PageDef.load env file source = .ok ps) (hp : p ∈ ps) (hkeys : keys ≠ [])
    (hn : definitionGraph.nodeAt? (.component p.root) keys = some n) :
    p.build = .ok p.root ∧
    (Path.parse (Path.join keys) = .ok (keys.map .plain) ↔ Unmistakable keys) ∧
    (∀ path, Path.parse path = .ok (keys.map .plain) → Unmistakable keys) ∧
    (Unmistakable keys → ∀ {L : Type} (d : Driver L) (o : Options),
      resolvePath definitionGraph d o p.root (Path.join keys) =
        resolve definitionGraph d o p.root (keys.map .plain) ∧
      ((∃ f, (Walk.hops definitionGraph d o (Walk.start p.root) (keys.map .plain)).result = .ok f ∧
          f.node = n ∧
          (resolvePath definitionGraph d o p.root (Path.join keys)).result = .ok f.locator) ∨
        ∃ e, (resolvePath definitionGraph d o p.root (Path.join keys)).result = .error e ∧
          ((∃ q ∈ p.problems, q.keys <+: keys ∧ q.failure = e) ∨
            o.strict = true ∧ ∃ name scope, e = .ambiguousScope name scope))) := by
  have haccepted : p.Accepted := PageDef.accepted_of_load hload p hp
  have hbelow : PageDef.AcceptedBelow (.component p.root) := haccepted.nodes
  have hsep : ∀ key ∈ keys, separator ∉ key.toList :=
    fun key hkey => (hbelow.nameable_of_nodeAt? hn key hkey).notMem
  refine ⟨haccepted.build, ⟨unmistakable_of_parse, fun h => h.parse_join hkeys hsep⟩,
    fun path => unmistakable_of_parse, fun hunmistakable L d o => ?_⟩
  have hresolve := resolvePath_of_parse (g := definitionGraph) (d := d) (o := o)
    (hunmistakable.parse_join hkeys hsep) p.root
  refine ⟨hresolve, ?_⟩
  have hcount : (keys.map Hop.plain).length ≠ 0 := by
    rw [List.length_map, Ne, List.length_eq_zero_iff]
    exact hkeys
  rw [hresolve, resolve_result]
  rcases Walk.hops_plain_cases (d := d) (o := o) (f := Walk.start p.root) hn with
    ⟨f, hhops, hnode⟩ | ⟨e, hhops, hcause⟩
  · refine Or.inl ⟨f, hhops, hnode, ?_⟩
    rw [hhops]
    exact if_neg hcount
  · refine Or.inr ⟨e, ?_, ?_⟩
    · rw [hhops]
      rfl
    · rcases hcause with ⟨ks, hpre, hoffends⟩ | hambiguous
      · exact Or.inl ⟨⟨ks, e⟩, PageDef.mem_problems.2 hoffends, hpre, rfl⟩
      · exact Or.inr hambiguous

/-- A page with aliases that look like other parts of a path. -/
def aliasesFile : Source :=
  .bytes <| Text.encode <| String.intercalate "\n"
    ["page: P",
      "nodes:",
      "- type: component",
      "  alias: ' Panel'",
      "  nodes:",
      "  - type: element",
      "    alias: '#Save '",
      "    selector: a",
      "  - type: element",
      "    alias: '#1 of Panel'",
      "    selector: b"]

def aliasesPage : PageDef where
  page := "P"
  nodes := [.component { name := " Panel" }
    [.leaf { name := "#Save ", selector := "a" }, .leaf { name := "#1 of Panel", selector := "b" }]]

theorem load_aliasesFile :
    PageDef.load [] "pages.yaml" aliasesFile = .ok [aliasesPage] := by
  apply Outcome.eq_ok_of_toOption
  decide +kernel

/-- A path whose outer blanks belong to its aliases. -/
theorem PageDef.path_of_node_save :
    PageDef.load [] "pages.yaml" aliasesFile = .ok [aliasesPage] ∧
    aliasesPage.build = .ok aliasesPage.root ∧
    Unmistakable [" Panel", "#Save "] ∧
    ∃ f : Frame Block Chain,
      (resolvePath definitionGraph (Chain.driver {} []) {} aliasesPage.root
        " Panel > #Save ").result = .ok f.locator ∧
      f.node = .leaf { name := "#Save ", selector := "a" } := by
  have hmem : aliasesPage ∈ [aliasesPage] := List.mem_singleton_self _
  have hn : definitionGraph.nodeAt? (.component aliasesPage.root) [" Panel", "#Save "] =
      some (.leaf { name := "#Save ", selector := "a" }) := rfl
  obtain ⟨hbuild, hparse, -, hfollow⟩ :=
    PageDef.path_of_node load_aliasesFile hmem (List.cons_ne_nil _ _) hn
  have hunmistakable := hparse.1 rfl
  refine ⟨load_aliasesFile, hbuild, hunmistakable, ?_⟩
  have hproblems : aliasesPage.problems = [] := rfl
  rcases (hfollow hunmistakable (Chain.driver {} []) {}).2 with
    ⟨f, _, hnode, hlocator⟩ | ⟨e, _, ⟨q, hq, _⟩ | ⟨hstrict, _⟩⟩
  · exact ⟨f, hlocator, hnode⟩
  · rw [hproblems] at hq
    cases hq
  · cases hstrict

/-- An alias that the check accepts although it reads as a pick. -/
theorem PageDef.mistaken_path_of_node :
    PageDef.load [] "pages.yaml" aliasesFile = .ok [aliasesPage] ∧
    definitionGraph.nodeAt? (.component aliasesPage.root) [" Panel", "#1 of Panel"] =
      some (.leaf { name := "#1 of Panel", selector := "b" }) ∧
    Path.parse (Path.join [" Panel", "#1 of Panel"]) =
      .ok [.plain " Panel", .picked "Panel" (.index 1)] ∧
    (resolvePath definitionGraph (Chain.driver {} []) {} aliasesPage.root
      (Path.join [" Panel", "#1 of Panel"])).result =
        .error (.aliasNotFound "Panel" (some " Panel")) :=
  ⟨load_aliasesFile, rfl, rfl, rfl⟩

end PageAtlas
