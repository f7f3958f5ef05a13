import PageAtlas.Proofs.Definition.Page
import PageAtlas.Proofs.Graph.Store
import PageAtlas.Proofs.Resolution.Checked

/-!
# A check reports exactly what resolution would reject

Whatever the driver answers, resolution without strict scopes meets a selector
at fault if and only if the check reports one.
-/

namespace PageAtlas

namespace Graph

variable {ν : Type} (g : Graph ν)

/-- The problems of a graph below a root, as resolution and the mappings of the
graph show them. -/
structure CheckedExactly (root : ν) (problems : List Problem) : Prop where
  /-- There are none if and only if no hops make resolution reject a selector. -/
  empty_iff : ∀ (L : Type) (d : Driver L) (o : Options), o.strict = false →
    (problems = [] ↔
      ∀ hops e, (resolve g d o root hops).result = .error e → ¬ e.OfSelector)
  /-- If there are none, resolution under strict scopes rejects no selector either. -/
  strict : problems = [] → ∀ (L : Type) (d : Driver L) (o : Options) (hops : List Path.Hop)
    (e : Failure), (resolve g d o root hops).result = .error e → ¬ e.OfSelector
  /-- The plain hops along a reported path end in the reported failure, unless
  an earlier node on the path is reported as well. -/
  rejected : ∀ p ∈ problems, (∀ q ∈ problems, q.keys <+: p.keys → q.keys = p.keys) →
    ∀ (L : Type) (d : Driver L) (o : Options), o.strict = false →
      (resolve g d o root (p.keys.map Path.Hop.plain)).result = .error p.failure
  mem_iff : ∀ p, p ∈ problems ↔ g.Offends (.component root) p.keys p.failure
  order : problems.Pairwise fun p q => g.Before root p.keys q.keys
  nodup : (problems.map Problem.keys).Nodup
  path : ∀ p ∈ problems, p.path = String.intercalate " > " p.keys
  /-- A component without a selector is not reported, but what is below it is. -/
  grouping : ∀ keys r, g.nodeAt? (.component root) keys = some (.component r) →
    (g.component r).hasSelector = false →
      (∀ p ∈ problems, p.keys ≠ keys) ∧
        ∀ rest e, g.Offends (.component r) rest e → (⟨keys ++ rest, e⟩ : Problem) ∈ problems

variable {g}

/-- Some path that offends has no shorter one on its way. -/
theorem Offends.exists_first {n : Node ν} {keys : List String} {e : Failure}
    (h : g.Offends n keys e) :
    ∃ ks e', g.Offends n ks e' ∧ ∀ ks' e'', ks' <+: ks → g.Offends n ks' e'' → ks' = ks := by
  induction hlen : keys.length using Nat.strongRecOn generalizing keys e with
  | _ len ih =>
      by_cases hfirst : ∀ ks' e'', ks' <+: keys → g.Offends n ks' e'' → ks' = keys
      · exact ⟨keys, e, h, hfirst⟩
      · simp only [not_forall] at hfirst
        obtain ⟨ks', e'', hpre, hoffends, hne⟩ := hfirst
        refine ih ks'.length ?_ hoffends rfl
        have hle := hpre.length_le
        have hneq : ks'.length ≠ keys.length := fun heq => hne (hpre.eq_of_length heq)
        omega

theorem Offends.append {n m : Node ν} {keys keys' : List String} {e : Failure}
    (hkeys : g.nodeAt? n keys = some m) (h : g.Offends m keys' e) :
    g.Offends n (keys ++ keys') e := by
  obtain ⟨hne, m', hm', hselector, hquery⟩ := h
  refine ⟨?_, m', ?_, hselector, hquery⟩
  · intro hnil
    exact hne (List.append_eq_nil_iff.1 hnil).2
  · rw [nodeAt?_append hkeys]
    exact hm'

/-- Given enough depth, a check of distinct aliases is exact. -/
theorem checkedExactly_problemsWithin (hkeyed : g.Keyed) {root : ν}
    (hscoped : g.Scoped (.component root)) {depth : Nat} (hdepth : g.DepthLE depth root) :
    g.CheckedExactly root (g.problemsWithin depth root) := by
  have hmem : ∀ p, p ∈ g.problemsWithin depth root ↔
      g.Offends (.component root) p.keys p.failure :=
    fun p => mem_problemsWithin hkeyed hdepth
  have hnone : g.problemsWithin depth root = [] → ∀ (L : Type) (d : Driver L) (o : Options)
      (hops : List Path.Hop) (e : Failure),
      (resolve g d o root hops).result = .error e → ¬ e.OfSelector := by
    intro hnil L d o hops e herror hselector
    obtain ⟨keys, _, hoffends⟩ := offends_of_resolve hscoped herror hselector
    have hp := (hmem ⟨keys, e⟩).2 hoffends
    rw [hnil] at hp
    cases hp
  refine ⟨?_, hnone, ?_, hmem, pairwise_problemsWithin depth root,
    nodup_problemsWithin hkeyed depth root, fun _ _ => rfl, ?_⟩
  · intro L d o ho
    refine ⟨fun hnil => hnone hnil L d o, fun hfine => ?_⟩
    refine List.eq_nil_iff_forall_not_mem.2 fun p hp => ?_
    obtain ⟨keys, e, hoffends, hfirst⟩ := ((hmem p).1 hp).exists_first
    have herror : (resolve g d o root (keys.map Path.Hop.plain)).result = .error e :=
      resolve_of_offends ho hoffends hfirst
    exact hfine _ e herror hoffends.ofSelector
  · intro p hp hfirst L d o ho
    refine resolve_of_offends ho ((hmem p).1 hp) ?_
    intro ks e hpre hoffends
    exact hfirst ⟨ks, e⟩ ((hmem ⟨ks, e⟩).2 hoffends) hpre
  · intro keys r hkeys hselector
    constructor
    · intro p hp heq
      obtain ⟨_, m, hm, hown, _⟩ := (hmem p).1 hp
      rw [heq, hkeys] at hm
      cases hm
      rw [hasSelector, hselector] at hown
      cases hown
    · intro rest e hoffends
      exact (hmem ⟨keys ++ rest, e⟩).2 (hoffends.append hkeys)

end Graph

/-- The checks of a store without circles and of a page that can be built are exact. -/
theorem problems_checkedExactly :
    (∀ (s : Store) (root : Nat), s.Built → s.graph.Acyclic root →
      s.graph.CheckedExactly root (s.problems root)) ∧
    ∀ (p : PageDef) (root : Block), p.build = .ok root →
      definitionGraph.CheckedExactly root p.problems := by
  constructor
  · intro s root hbuilt hacyclic
    have hdepth := Store.depthLE_of_acyclic hacyclic
    exact Graph.checkedExactly_problemsWithin hbuilt.keyed (hbuilt.scoped _) hdepth
  · intro p root hbuild
    have hscoped := PageDef.scoped_of_build hbuild
    rw [PageDef.eq_root_of_build hbuild] at hscoped ⊢
    have hdepth : definitionGraph.DepthLE (NodeDef.depthAll p.nodes + 1) p.root :=
      PageDef.depthLE_of_depthAll (Nat.lt_succ_self _)
    exact Graph.checkedExactly_problemsWithin keyed_definitionGraph hscoped hdepth

/-! ## A page with two faults -/

def saveLeaf : Leaf :=
  { name := "Save", selector := "button", selectorType := "cssContainingText" }

def thingsLeaf : Leaf :=
  { name := "Things", selector := "li", selectorType := "jquery", repeated := true }

def oddStore : Store :=
  ⟨[{ name := some "Odd", children := [("Save", .leaf saveLeaf), ("Panel", .component 1)] },
    { name := some "Panel", selector := some ".panel",
      children := [("Things", .leaf thingsLeaf)] }]⟩

def oddPage : PageDef where
  page := "Odd"
  nodes := [.leaf saveLeaf,
    .component { name := "Panel", selector := some ".panel" } [.leaf thingsLeaf]]

def oddProblems : List Problem :=
  [⟨["Save"], .missingText (some "Save")⟩,
    ⟨["Panel", "Things"], .unknownSelectorType (some "Things") "jquery"⟩]

theorem oddStore_built : oddStore.Built := by
  have hroot := Store.Built.empty.add
    (rfl : Component.make (some "Odd") none "css" none false = .ok { name := some "Odd" })
  have hpanel := hroot.add
    (rfl : Component.make (some "Panel") (some ".panel") "css" none false =
      .ok { name := some "Panel", selector := some ".panel" })
  have hleaves := (hpanel.defineLeaf 0 saveLeaf).defineLeaf 1 thingsLeaf
  exact hleaves.mount (rfl : Store.mount _ 0 1 none = .ok oddStore)

theorem oddStore_acyclic : oddStore.graph.Acyclic 0 := by
  refine Graph.acyclic_of_rank (fun r => 1 - r) ?_
  rintro r r' ⟨key, hmem⟩
  match r, hmem with
  | 0, hmem =>
      rcases List.mem_cons.1 hmem with h | hmem
      · cases h
      · cases List.mem_singleton.1 hmem
        decide
  | 1, hmem => cases List.mem_singleton.1 hmem
  | r + 2, hmem => cases hmem

theorem problems_checkedExactly_odd :
    oddStore.Built ∧ oddStore.graph.Acyclic 0 ∧ oddStore.problems 0 = oddProblems ∧
      oddStore.graph.CheckedExactly 0 (oddStore.problems 0) ∧
      oddPage.build = .ok oddPage.root ∧ oddPage.problems = oddProblems ∧
      definitionGraph.CheckedExactly oddPage.root oddPage.problems := by
  have hbuild : oddPage.build = .ok oddPage.root := rfl
  exact ⟨oddStore_built, oddStore_acyclic, by decide +kernel,
    problems_checkedExactly.1 oddStore 0 oddStore_built oddStore_acyclic, hbuild,
    by decide +kernel, problems_checkedExactly.2 oddPage oddPage.root hbuild⟩

end PageAtlas
