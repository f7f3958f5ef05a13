import Mathlib.Data.List.Forall2
import PageAtlas.Proofs.Definition.Language
import PageAtlas.Proofs.Definition.Registered

/-!
# A page shows what is declared

The children of a built component are the aliases of the nodes declared in it, in the
order in which they are first declared, each with what is declared last under it. So it
is at every depth, and what an earlier declaration of an alias holds is in no way part
of the graph.
-/

namespace PageAtlas

def NodeDef.tag : NodeDef → Check.Tag
  | leaf l => if l.repeated then .collection else .element
  | component .. => .component

/-- The component says of itself what the header says. -/
structure Component.Headed {ν : Type} (c : Component ν) (h : Header) : Prop where
  name : c.name = some h.name
  selector : c.selector = h.selector
  selectorType : c.selectorType = h.selectorType
  text : c.text = h.text
  repeated : c.repeated = h.repeated

/-- The node of a graph is what was declared, and so is everything below it: of the
declarations of one alias the first has given it its place and the last its node. -/
inductive Graph.Shows {ν : Type} (g : Graph ν) : NodeDef → Node ν → Prop
  | leaf (l : Leaf) : Shows g (.leaf l) (.leaf l)
  | component {header : Header} {nodes : List NodeDef} {r : ν}
      (headed : (g.component r).Headed header)
      (order : Ordered.Firsts (nodes.map NodeDef.name) (g.component r).children.keys)
      (last : ∀ key n nd, (key, n) ∈ (g.component r).children →
        NodeDef.last? key nodes = some nd → Shows g nd n) :
      Shows g (.component header nodes) (.component r)

variable {nodes : List NodeDef}

namespace Block

theorem headed_component (b : Block) : b.component.Headed b.header := by
  rw [component_eq]
  exact ⟨rfl, rfl, rfl, rfl, rfl⟩

end Block

namespace NodeDef

/-- A component shows its declaration if the nodes declared in it show theirs. -/
theorem shows_block {header : Header} (hnames : ∀ nd ∈ nodes, nd.name ≠ "")
    (hnodes : ∀ nd ∈ nodes, definitionGraph.Shows nd nd.node) :
    definitionGraph.Shows (component header nodes) (.component ⟨header, nodes⟩) := by
  refine .component (Block.headed_component ⟨header, nodes⟩) ?_ ?_
  · have horder := Ordered.firsts_keys_ofList (nodes.map fun nd => (nd.name, nd.node))
    rw [List.map_map, ← Block.children_eq (b := ⟨header, nodes⟩) hnames] at horder
    exact horder
  · intro key n nd hmem hlast
    have hfind := Ordered.find?_of_mem (keyed_definitionGraph ⟨header, nodes⟩) hmem
    have hchildren := Block.find?_children (b := ⟨header, nodes⟩) hnames key
    rw [hlast] at hchildren
    obtain rfl := Option.some.inj (hfind.symm.trans hchildren)
    exact hnodes nd (mem_of_last? hlast)

theorem Accepted.shown {nd : NodeDef} (h : nd.Accepted) : definitionGraph.Shows nd nd.node := by
  induction h with
  | leaf => exact .leaf _
  | component _ _ hnodes ih => exact shows_block (fun nd hnd => (hnodes nd hnd).name_ne_empty) ih

end NodeDef

/-- Where siblings have distinct aliases their nodes stand side by side as declared. -/
theorem Graph.Shows.forall₂_of_nodup {ν : Type} {g : Graph ν} {header : Header} {r : ν}
    (h : g.Shows (.component header nodes) (.component r)) (hnodup : (nodes.map NodeDef.name).Nodup) :
    List.Forall₂ (fun nd e => e.1 = nd.name ∧ g.Shows nd e.2) nodes (g.component r).children := by
  cases h with
  | component headed order last =>
      have hkeys : (g.component r).children.map Prod.fst = nodes.map NodeDef.name :=
        order.eq_of_nodup hnodup
      have hnames : List.Forall₂ (fun nd e => nd.name = e.1) nodes (g.component r).children := by
        have heq : List.Forall₂ Eq (nodes.map NodeDef.name)
            ((g.component r).children.map Prod.fst) := by
          rw [hkeys]
          exact List.forall₂_refl _
        exact List.forall₂_map_right_iff.1 (List.forall₂_map_left_iff.1 heq)
      rw [List.forall₂_iff_zip] at hnames ⊢
      refine ⟨hnames.1, fun hzip => ?_⟩
      have hname := hnames.2 hzip
      obtain ⟨hnd, he⟩ := List.of_mem_zip hzip
      refine ⟨hname.symm, last _ _ _ he ?_⟩
      rw [← hname]
      exact NodeDef.last?_of_nodup hnodup hnd

theorem Check.tag_of_node {entries : List (Data × Data)} {nd : NodeDef}
    (h : node (.table entries) = .ok nd) : tag entries = .ok nd.tag := by
  rw [node] at h
  split at h
  · exact absurd h (Checked.complain_ne_ok _ _)
  next t htag =>
  rw [htag]
  rw [Checked.under_eq_ok_iff] at h
  have hleaf {repeated : Bool} (h : leaf repeated entries = .ok nd) :
      ∃ l : Leaf, nd = .leaf l ∧ l.repeated = repeated := by
    obtain ⟨_, -, rfl⟩ := Checked.map_eq_ok_iff.1 h
    exact ⟨_, rfl, rfl⟩
  cases t with
  | element =>
      obtain ⟨l, rfl, hrepeated⟩ := hleaf h
      rw [NodeDef.tag, hrepeated]
      rfl
  | collection =>
      obtain ⟨l, rfl, hrepeated⟩ := hleaf h
      rw [NodeDef.tag, hrepeated]
      rfl
  | component =>
      obtain ⟨header, inner, -, -, -, rfl⟩ := assemble_eq_ok_iff.1 h
      rfl

/-- A page that the check accepts can be built, and its graph shows at every depth what is
declared: nothing else, in the order of first declaration, and as declared last. -/
theorem PageDef.build_shows {entries : List (Data × Data)} {p : PageDef}
    (h : Check.page entries = .ok p) :
    (∃ root, p.build = .ok root ∧
      definitionGraph.Shows (.component { name := p.page } p.nodes) (.component root)) ∧
    (∀ header nodes b, definitionGraph.Shows (.component header nodes) (.component b) →
      (nodes.map NodeDef.name).Nodup →
        List.Forall₂ (fun nd e => e.1 = nd.name ∧ definitionGraph.Shows nd e.2) nodes
          (definitionGraph.component b).children) ∧
    ∀ entries nd, Check.node (.table entries) = .ok nd → Check.tag entries = .ok nd.tag := by
  have haccepted : p.Accepted := Check.accepted_of_page h
  refine ⟨⟨p.root, haccepted.build, ?_⟩, fun _ _ _ => Graph.Shows.forall₂_of_nodup,
    fun _ _ => Check.tag_of_node⟩
  exact NodeDef.shows_block (fun nd hnd => (haccepted.nodes nd hnd).name_ne_empty)
    fun nd hnd => (haccepted.nodes nd hnd).shown

def Data.declared (type name selector : String) (nodes : List Data) : Data :=
  .table [(.text "type", .text type), (.text "alias", .text name),
    (.text "selector", .text selector), (.text "nodes", .list nodes)]

/-- An element that gives way to a component, and components that give way to a collection
and to another component. -/
def redeclared : List (Data × Data) :=
  [(.text "page", .text "P"),
    (.text "nodes", .list
      [.declared "element" "Part" "a" [],
        .declared "component" "Items" "ul" [.declared "element" "Lost" "b" []],
        .declared "component" "Part" "div" [.declared "element" "Old" "i" []],
        .declared "collection" "Items" "li" [],
        .declared "component" "Part" "p" [.declared "element" "New" "u" []]])]

theorem PageDef.build_shows_redeclared :
    ∃ p root, Check.page redeclared = .ok p ∧ p.build = .ok root ∧
      (definitionGraph.component root).children.keys = ["Part", "Items"] ∧
      definitionGraph.lookup (.component root) "Items" =
        .ok (.leaf { name := "Items", selector := "li", repeated := true }) ∧
      ∃ part, definitionGraph.lookup (.component root) "Part" = .ok (.component part) ∧
        definitionGraph.Shows
          (.component { name := "Part", selector := some "p" }
            [.leaf { name := "New", selector := "u" }]) (.component part) := by
  have hpage : Check.page redeclared = .ok _ := rfl
  obtain ⟨⟨root, hbuild, hshows⟩, -, -⟩ := PageDef.build_shows hpage
  obtain rfl := PageDef.eq_root_of_build hbuild
  refine ⟨_, _, hpage, hbuild, rfl, rfl, ⟨_, [.leaf { name := "New", selector := "u" }]⟩, rfl, ?_⟩
  cases hshows with
  | component headed order last =>
      exact last "Part" _ _ (Ordered.mem_of_find? rfl) rfl

end PageAtlas
