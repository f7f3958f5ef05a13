import PageAtlas.Proofs.Definition.Accepted
import PageAtlas.Proofs.Definition.Page
import PageAtlas.Proofs.Graph.Check
import PageAtlas.Proofs.Ordered

/-!
# Which declared nodes are registered

Of the nodes that a list declares under one alias, the last one is registered.
So the nodes below the root of an accepted page are the declared ones that no
later declaration replaces, and those in components that are replaced are lost.
-/

namespace PageAtlas

namespace NodeDef

/-- The node that a list declares last under an alias. -/
def last? (key : String) (nodes : List NodeDef) : Option NodeDef :=
  nodes.reverse.find? fun nd => nd.name == key

/-- A node that keys lead to, through nodes that `Among` picks out of each list. -/
inductive Reached (Among : List NodeDef → NodeDef → Prop) :
    List NodeDef → List String → NodeDef → Prop
  | here {nodes : List NodeDef} {nd : NodeDef} (h : Among nodes nd) :
      Reached Among nodes [nd.name] nd
  | inside {nodes inner : List NodeDef} {header : Header} {keys : List String} {nd : NodeDef}
      (h : Among nodes (component header inner)) (hrest : Reached Among inner keys nd) :
      Reached Among nodes (header.name :: keys) nd

/-- A node is declared somewhere in a list or in the components of it. -/
def Declared : List NodeDef → List String → NodeDef → Prop := Reached fun nodes nd => nd ∈ nodes

/-- A node is declared, and neither it nor a component around it is replaced later on. -/
def Kept : List NodeDef → List String → NodeDef → Prop :=
  Reached fun nodes nd => last? nd.name nodes = some nd

/-- No two siblings have one alias, at whatever depth. -/
structure Distinct (nodes : List NodeDef) : Prop where
  here : (nodes.map name).Nodup
  inside : ∀ keys header inner, Declared nodes keys (component header inner) →
    (inner.map name).Nodup

variable {nodes : List NodeDef} {keys : List String} {nd : NodeDef} {key : String}

/-! ## Declared and kept nodes -/

theorem Reached.ne_nil {Among : List NodeDef → NodeDef → Prop} (h : Reached Among nodes keys nd) :
    keys ≠ [] := by
  cases h <;> exact List.cons_ne_nil _ _

theorem last?_concat (key : String) (nodes : List NodeDef) (nd : NodeDef) :
    last? key (nodes ++ [nd]) = if nd.name = key then some nd else last? key nodes := by
  rw [last?, List.reverse_concat]
  by_cases h : nd.name = key
  · rw [List.find?_cons_of_pos (by simpa using h), if_pos h]
  · rw [List.find?_cons_of_neg (by simpa using h), if_neg h]
    rfl

theorem mem_of_last? (h : last? key nodes = some nd) : nd ∈ nodes :=
  List.mem_reverse.1 (List.mem_of_find?_eq_some h)

theorem name_of_last? (h : last? key nodes = some nd) : nd.name = key := by
  rw [last?] at h
  simpa using List.find?_some h

theorem last?_of_nodup (hnodup : (nodes.map name).Nodup) (h : nd ∈ nodes) :
    last? nd.name nodes = some nd := by
  induction nodes using List.reverseRecOn with
  | nil => cases h
  | append_singleton nodes nd' ih =>
      rw [List.map_append, List.nodup_append] at hnodup
      obtain ⟨hfront, -, hapart⟩ := hnodup
      rw [last?_concat]
      rcases List.mem_append.1 h with h | h
      · have hne : nd'.name ≠ nd.name := by
          intro heq
          exact hapart nd.name (List.mem_map_of_mem h) nd'.name (List.mem_singleton_self _) heq.symm
        rw [if_neg hne]
        exact ih hfront h
      · rw [List.mem_singleton.1 h, if_pos rfl]

theorem Kept.declared (h : Kept nodes keys nd) : Declared nodes keys nd := by
  induction h with
  | here h => exact .here (mem_of_last? h)
  | inside h _ ih => exact .inside (mem_of_last? h) ih

theorem Distinct.under {header : Header} {inner : List NodeDef} (h : Distinct nodes)
    (hmem : component header inner ∈ nodes) : Distinct inner := by
  refine ⟨h.inside [header.name] header inner (.here hmem), ?_⟩
  intro keys header' inner' hdeclared
  exact h.inside (header.name :: keys) header' inner' (.inside hmem hdeclared)

/-- Where siblings have distinct aliases everything that is declared is kept. -/
theorem Distinct.kept_iff (h : Distinct nodes) : Kept nodes keys nd ↔ Declared nodes keys nd := by
  refine ⟨Kept.declared, fun hdeclared => ?_⟩
  induction hdeclared with
  | here hmem => exact .here (last?_of_nodup h.here hmem)
  | inside hmem _ ih => exact .inside (last?_of_nodup h.here hmem) (ih (h.under hmem))

theorem Declared.accepted (h : Declared nodes keys nd) (hnodes : ∀ nd ∈ nodes, nd.Accepted) :
    nd.Accepted := by
  induction h with
  | here h => exact hnodes _ h
  | inside h _ ih =>
      cases hnodes _ h with
      | component hname hselector hinner => exact ih hinner

theorem Accepted.name_ne_empty (h : nd.Accepted) : nd.name ≠ "" := by
  cases h with
  | leaf hname => exact hname.ne_empty
  | component hname => exact hname.ne_empty

end NodeDef

namespace Block

variable {b : Block}

theorem children_register (c : Component Block) {nd : NodeDef} (h : nd.name ≠ "") :
    (register c nd).children = c.children.insert nd.name nd.node := by
  cases nd with
  | leaf l => rfl
  | component header nodes =>
      have hkey : Component.mountKey? none (some header.name) = some header.name :=
        nonEmpty?_eq_some_iff.2 ⟨h, rfl⟩
      rw [register, Component.mount, hkey]
      rfl

/-- The children are the nodes, registered one after another under their aliases. -/
theorem children_eq (hnames : ∀ nd ∈ b.nodes, nd.name ≠ "") :
    b.component.children = Ordered.ofList (b.nodes.map fun nd => (nd.name, nd.node)) := by
  have hfold : ∀ nodes : List NodeDef, (∀ nd ∈ nodes, nd.name ≠ "") →
      (nodes.foldl register b.bare).children =
        Ordered.ofList (nodes.map fun nd => (nd.name, nd.node)) := by
    intro nodes
    induction nodes using List.reverseRecOn with
    | nil =>
        intro _
        rfl
    | append_singleton nodes nd ih =>
        intro hnames
        rw [List.forall_mem_append] at hnames
        rw [List.foldl_concat, children_register _ (hnames.2 nd (List.mem_singleton_self nd)),
          ih hnames.1, List.map_append, List.map_singleton, Ordered.ofList_concat]
  exact hfold b.nodes hnames

/-- An alias leads to the node that was declared last under it. -/
theorem find?_children (hnames : ∀ nd ∈ b.nodes, nd.name ≠ "") (key : String) :
    Ordered.find? key b.component.children = (NodeDef.last? key b.nodes).map NodeDef.node := by
  rw [children_eq hnames]
  -- From the right: what was registered last decides, whatever came before it.
  induction b.nodes using List.reverseRecOn with
  | nil => rfl
  | append_singleton nodes nd ih =>
      rw [List.map_append, List.map_singleton, Ordered.ofList_concat, NodeDef.last?_concat]
      split
      · next hkey =>
        rw [hkey, Ordered.find?_insert_self]
        rfl
      · next hkey =>
        rw [Ordered.find?_insert_ne (Ne.symm hkey)]
        exact ih

theorem lookup_component_iff (hnames : ∀ nd ∈ b.nodes, nd.name ≠ "") {key : String}
    {n : Node Block} : definitionGraph.lookup (.component b) key = .ok n ↔
      ∃ nd, NodeDef.last? key b.nodes = some nd ∧ nd.node = n := by
  have hfind := find?_children hnames key
  rw [Graph.lookup, Component.lookup]
  change (definitionGraph.component b).children.find? key = _ at hfind
  rw [hfind]
  cases NodeDef.last? key b.nodes <;> simp

end Block

/-- Below the root of an accepted page stand the nodes that are kept, and no others. -/
theorem Graph.nodeAt?_iff_kept {b : Block} (hnodes : ∀ nd ∈ b.nodes, nd.Accepted)
    {keys : List String} (hkeys : keys ≠ []) {n : Node Block} :
    definitionGraph.nodeAt? (.component b) keys = some n ↔
      ∃ nd, NodeDef.Kept b.nodes keys nd ∧ nd.node = n := by
  induction keys generalizing b with
  | nil => exact absurd rfl hkeys
  | cons key keys ih =>
      have hnames : ∀ nd ∈ b.nodes, nd.name ≠ "" := fun nd hnd => (hnodes nd hnd).name_ne_empty
      rw [nodeAt?_cons_eq_some_iff]
      constructor
      · rintro ⟨n', hn', hrest⟩
        obtain ⟨nd, hlast, rfl⟩ := (Block.lookup_component_iff hnames).1 hn'
        obtain rfl := NodeDef.name_of_last? hlast
        by_cases hnil : keys = []
        · subst hnil
          exact ⟨nd, .here hlast, Option.some.inj hrest⟩
        · cases nd with
          | leaf l =>
              obtain ⟨key', keys, rfl⟩ := List.exists_cons_of_ne_nil hnil
              cases hrest
          | component header inner =>
              cases hnodes _ (NodeDef.mem_of_last? hlast) with
              | component _ _ hinner =>
                  obtain ⟨nd, hkept, hnode⟩ := (ih (b := ⟨header, inner⟩) hinner hnil).1 hrest
                  exact ⟨nd, .inside hlast hkept, hnode⟩
      · rintro ⟨nd, hkept, rfl⟩
        cases hkept with
        | here hlast => exact ⟨nd.node, (Block.lookup_component_iff hnames).2 ⟨nd, hlast, rfl⟩, rfl⟩
        | @inside _ inner header _ _ hlast hkept =>
            have hnil : keys ≠ [] := hkept.ne_nil
            refine ⟨.component ⟨header, inner⟩,
              (Block.lookup_component_iff hnames).2 ⟨_, hlast, rfl⟩, ?_⟩
            cases hnodes _ (NodeDef.mem_of_last? hlast) with
            | component _ _ hinner => exact (ih (b := ⟨header, inner⟩) hinner hnil).2 ⟨nd, hkept, rfl⟩

/-! ## Pages -/

theorem NodeDef.Accepted.buildFault? {nd : NodeDef} (h : nd.Accepted) : nd.buildFault? = none := by
  induction h with
  | leaf => rfl
  | @component header nodes hname hselector hnodes ih =>
      have hscoped : (header.repeated && (nonEmpty? header.selector).isNone) = false := by
        cases hrepeated : header.repeated with
        | false => rfl
        | true => simpa [Option.isNone_iff_eq_none, Option.isSome_iff_ne_none] using hselector hrepeated
      have hall : NodeDef.buildFaultAll? nodes = none := NodeDef.buildFaultAll?_eq_none_iff.2 ih
      rw [NodeDef.buildFault?, hscoped, hall]
      simp [hname.ne_empty]

theorem PageDef.Accepted.build {p : PageDef} (h : p.Accepted) : p.build = .ok p.root := by
  have hall : NodeDef.buildFaultAll? p.nodes = none :=
    NodeDef.buildFaultAll?_eq_none_iff.2 fun nd hnd => (h.nodes nd hnd).buildFault?
  rw [PageDef.build, hall]

def PageDef.AcceptedBelow : Node Block → Prop
  | .leaf _ => True
  | .component b => ∀ nd ∈ b.nodes, nd.Accepted

theorem PageDef.AcceptedBelow.lookup {n n' : Node Block} {key : String} (h : PageDef.AcceptedBelow n)
    (hn' : definitionGraph.lookup n key = .ok n') : Path.Nameable key ∧ PageDef.AcceptedBelow n' := by
  cases n with
  | leaf l => cases hn'
  | component b =>
      have hmem := (Graph.lookup_component_iff keyed_definitionGraph).1 hn'
      obtain ⟨nd, hnd, hentry⟩ := Block.exists_of_mem_children hmem
      obtain ⟨rfl, rfl⟩ := Prod.mk.inj hentry
      cases h nd hnd with
      | leaf hname hselector => exact ⟨hname, trivial⟩
      | component hname hselector hnodes => exact ⟨hname, hnodes⟩

theorem PageDef.mem_problems {p : PageDef} {q : Problem} :
    q ∈ p.problems ↔ definitionGraph.Offends (.component p.root) q.keys q.failure := by
  have hdepth : definitionGraph.DepthLE (NodeDef.depthAll p.nodes + 1) p.root :=
    PageDef.depthLE_of_depthAll (Nat.lt_succ_self _)
  exact Graph.mem_problemsWithin keyed_definitionGraph hdepth

end PageAtlas
