import PageAtlas.Proofs.Definition.Registered

/-!
# The graph of a page that was loaded

Whatever the documents and the environment are, each definition that is loaded
can be built. In its graph all that is repeated has a selector, every alias can
stand in a path and is the one that its node was declared with, and no selector
of an element or a collection is empty or blank at an end.
-/

namespace PageAtlas

/-- What can be relied on in the graph below a root. -/
structure Block.WellBuilt (root : Block) : Prop where
  repeated : ∀ keys b, definitionGraph.nodeAt? (.component root) keys = some (.component b) →
    (definitionGraph.component b).repeated = true → (definitionGraph.component b).hasSelector = true
  key : ∀ keys b key n, definitionGraph.nodeAt? (.component root) keys = some (.component b) →
    (key, n) ∈ (definitionGraph.component b).children →
      Path.Nameable key ∧ definitionGraph.aliasOf n = some key
  leaf : ∀ keys l, definitionGraph.nodeAt? (.component root) keys = some (.leaf l) →
    Text.Stripped l.selector

theorem NodeDef.aliasOf_node (nd : NodeDef) : definitionGraph.aliasOf nd.node = some nd.name := by
  cases nd with
  | leaf l => rfl
  | component header nodes =>
      change (Block.component ⟨header, nodes⟩).name = some header.name
      rw [Block.component_eq]
      rfl

namespace PageDef

variable {p : PageDef}

theorem AcceptedBelow.nodeAt? {n m : Node Block} {keys : List String} (h : AcceptedBelow n)
    (hm : definitionGraph.nodeAt? n keys = some m) : AcceptedBelow m :=
  Graph.nodeAt?_induction (P := AcceptedBelow) (fun _ _ _ hn hn' => (hn.lookup hn').2) h hm

theorem Accepted.wellBuilt (h : p.Accepted) : p.root.WellBuilt := by
  refine ⟨?_, ?_, ?_⟩
  · intro keys b hb
    exact scoped_of_build h.build keys (.component b) hb
  · intro keys b key n hb hmem
    have hbelow : AcceptedBelow (.component b) := AcceptedBelow.nodeAt? (n := .component p.root) h.nodes hb
    obtain ⟨nd, hnd, hentry⟩ := Block.exists_of_mem_children hmem
    obtain ⟨rfl, rfl⟩ := Prod.mk.inj hentry
    refine ⟨?_, nd.aliasOf_node⟩
    cases hbelow nd hnd with
    | leaf hname => exact hname
    | component hname => exact hname
  · intro keys l hl
    have hkeys : keys ≠ [] := by
      rintro rfl
      cases hl
    obtain ⟨nd, hkept, hnode⟩ := (Graph.nodeAt?_iff_kept h.nodes hkeys).1 hl
    cases hkept.declared.accepted h.nodes with
    | leaf _ hselector =>
        cases hnode
        exact hselector
    | component => cases hnode

theorem accepted_of_ofDocuments {env : Environment} {file : String} {docs : List Data}
    {ps : List PageDef} (h : ofDocuments env file docs = .ok ps) : ∀ p ∈ ps, p.Accepted := by
  rw [ofDocuments] at h
  split at h
  · cases h
  · exact accepted_of_ofDocumentsFrom h

end PageDef

end PageAtlas
