import PageAtlas.Proofs.Definition.Registered

/-!
# Selectors that are declared

A selector can be translated if its type is known and it has a text where its
type goes by one. A component that declares no selector has nothing to translate.
The problems of an accepted page are the nodes it keeps whose selectors cannot
be translated.
-/

namespace PageAtlas

/-- The type is known, and there is a text if the type goes by it. -/
structure Query.Possible (selectorType : String) (text : Option String) : Prop where
  known : ∃ t : SelectorType, selectorType = t.word
  text : selectorType = SelectorType.cssContainingText.word → ∃ s, text = some s ∧ s ≠ ""

theorem Query.exists_of_eq_ok_iff {name text : Option String} {selectorType selector : String} :
    (∃ q, Query.of name selectorType selector text = .ok q) ↔
      Query.Possible selectorType text := by
  constructor
  · rintro ⟨q, hq⟩
    refine ⟨?_, ?_⟩
    · cases htype : SelectorType.ofWord? selectorType with
      | none =>
          unfold Query.of at hq
          rw [htype] at hq
          cases hq
      | some t => exact ⟨t, SelectorType.ofWord?_eq_some_iff.1 htype⟩
    · rintro rfl
      cases text with
      | none => cases hq
      | some s =>
          refine ⟨s, rfl, ?_⟩
          rintro rfl
          cases hq
  · rintro ⟨⟨t, rfl⟩, htext⟩
    cases t with
    | css => exact ⟨_, rfl⟩
    | xpath => exact ⟨_, rfl⟩
    | js => exact ⟨_, rfl⟩
    | cssContainingText =>
        obtain ⟨s, rfl, hs⟩ := htext rfl
        exact ⟨_, if_neg hs⟩

namespace NodeDef

/-- What a node declares about its selector, if it has one, can be translated. -/
def Translates : NodeDef → Prop
  | leaf l => Query.Possible l.selectorType l.text
  | component h _ => (nonEmpty? h.selector).isSome = true → Query.Possible h.selectorType h.text

theorem hasSelector_component (h : Header) (nodes : List NodeDef) :
    definitionGraph.hasSelector (component h nodes).node = (nonEmpty? h.selector).isSome := by
  change (Block.component ⟨h, nodes⟩).hasSelector = _
  rw [Block.component_eq]
  rfl

theorem query_component (h : Header) (nodes : List NodeDef) :
    definitionGraph.query (component h nodes).node =
      Query.of (some h.name) h.selectorType (h.selector.getD "") h.text := by
  change Query.of (Block.component ⟨h, nodes⟩).name (Block.component ⟨h, nodes⟩).selectorType
    ((Block.component ⟨h, nodes⟩).selector.getD "") (Block.component ⟨h, nodes⟩).text = _
  rw [Block.component_eq]
  rfl

theorem translates_iff (nd : NodeDef) :
    nd.Translates ↔ (definitionGraph.hasSelector nd.node = true →
      ∃ q, definitionGraph.query nd.node = .ok q) := by
  cases nd with
  | leaf l =>
      have hquery : (∃ q, definitionGraph.query (leaf l).node = .ok q) ↔ (leaf l).Translates :=
        Query.exists_of_eq_ok_iff
      rw [hquery]
      exact (imp_iff_right rfl).symm
  | component h nodes =>
      rw [hasSelector_component, query_component, Query.exists_of_eq_ok_iff]
      rfl

end NodeDef

namespace PageDef

variable {p : PageDef} {keys : List String} {nd : NodeDef}

theorem Accepted.mem_problems_iff (h : p.Accepted) {q : Problem} :
    q ∈ p.problems ↔ ∃ nd, NodeDef.Kept p.nodes q.keys nd ∧
      definitionGraph.hasSelector nd.node = true ∧ definitionGraph.query nd.node = .error q.failure := by
  rw [PageDef.mem_problems]
  constructor
  · rintro ⟨hkeys, m, hm, hselector, hquery⟩
    obtain ⟨nd, hkept, rfl⟩ := (Graph.nodeAt?_iff_kept h.nodes hkeys).1 hm
    exact ⟨nd, hkept, hselector, hquery⟩
  · rintro ⟨nd, hkept, hselector, hquery⟩
    have hm := (Graph.nodeAt?_iff_kept (b := p.root) h.nodes hkept.ne_nil).2 ⟨nd, hkept, rfl⟩
    exact ⟨hkept.ne_nil, nd.node, hm, hselector, hquery⟩

/-- A kept node whose selector cannot be translated is a problem. -/
theorem Accepted.exists_problem (h : p.Accepted) (hkept : NodeDef.Kept p.nodes keys nd)
    (hnd : ¬ nd.Translates) :
    ∃ e, definitionGraph.query nd.node = .error e ∧ ⟨keys, e⟩ ∈ p.problems := by
  rw [NodeDef.translates_iff, Classical.not_imp] at hnd
  obtain ⟨hselector, hquery⟩ := hnd
  cases hresult : definitionGraph.query nd.node with
  | ok q => exact absurd ⟨q, hresult⟩ hquery
  | error e => exact ⟨e, rfl, h.mem_problems_iff.2 ⟨nd, hkept, hselector, hresult⟩⟩

theorem Accepted.problems_eq_nil_iff (h : p.Accepted) :
    p.problems = [] ↔ ∀ keys nd, NodeDef.Kept p.nodes keys nd → nd.Translates := by
  constructor
  · intro hnil keys nd hkept
    by_contra hnd
    obtain ⟨e, -, hmem⟩ := h.exists_problem hkept hnd
    rw [hnil] at hmem
    cases hmem
  · intro hall
    refine List.eq_nil_iff_forall_not_mem.2 fun q hq => ?_
    obtain ⟨nd, hkept, hselector, hquery⟩ := h.mem_problems_iff.1 hq
    obtain ⟨q', hq'⟩ := nd.translates_iff.1 (hall q.keys nd hkept) hselector
    rw [hquery] at hq'
    cases hq'

end PageDef

end PageAtlas
