import PageAtlas.Definition.Page
import PageAtlas.Proofs.Graph.Reach

/-!
# The graph of a page definition

The children of a block are its nodes under their aliases. In a page that can
be built every repeated component has a selector, and the nesting of its nodes
bounds the chains below it.
-/

namespace PageAtlas

def NodeDef.node : NodeDef → Node Block
  | leaf l => .leaf l
  | component h nodes => .component ⟨h, nodes⟩

theorem nonEmpty?_eq_some_iff {s t : String} : nonEmpty? (some s) = some t ↔ s ≠ "" ∧ s = t := by
  rw [nonEmpty?]
  by_cases h : s = "" <;> simp [h]

theorem isSome_nonEmpty?_iff {o : Option String} :
    (nonEmpty? o).isSome = true ↔ ∃ s, o = some s ∧ s ≠ "" := by
  cases o with
  | none => simp [nonEmpty?]
  | some s => by_cases h : s = "" <;> simp [nonEmpty?, h]

namespace Block

theorem nodup_register {c : Component Block} (h : c.children.keys.Nodup) (nd : NodeDef) :
    (register c nd).children.keys.Nodup := by
  cases nd with
  | leaf l => exact Ordered.nodup_keys_insert h l.name (.leaf l)
  | component header nodes =>
      rw [register, Component.mount]
      cases Component.mountKey? none (some header.name) with
      | none => exact h
      | some key => exact Ordered.nodup_keys_insert h key (.component ⟨header, nodes⟩)

theorem mem_register {c : Component Block} {nd : NodeDef} {e : String × Node Block}
    (h : e ∈ (register c nd).children) : e ∈ c.children ∨ e = (nd.name, nd.node) := by
  cases nd with
  | leaf l => exact (Ordered.mem_insert h).symm
  | component header nodes =>
      rw [register, Component.mount] at h
      cases hkey : Component.mountKey? none (some header.name) with
      | none =>
          rw [hkey] at h
          exact Or.inl h
      | some key =>
          rw [hkey] at h
          obtain ⟨_, rfl⟩ := nonEmpty?_eq_some_iff.1 hkey
          exact (Ordered.mem_insert h).symm

/-- Registering a node changes nothing but the children. -/
theorem register_eq (c : Component Block) (nd : NodeDef) :
    register c nd = { c with children := (register c nd).children } := by
  cases nd with
  | leaf l => rfl
  | component header nodes =>
      rw [register, Component.mount]
      cases Component.mountKey? none (some header.name) with
      | none => rfl
      | some key => rfl

/-- What registering one node preserves, registering all of them preserves. -/
theorem component_induction {P : Component Block → Prop} (b : Block) (hbare : P b.bare)
    (hregister : ∀ c nd, nd ∈ b.nodes → P c → P (register c nd)) : P b.component := by
  have hfold : ∀ (nodes : List NodeDef) (c : Component Block), nodes ⊆ b.nodes → P c →
      P (nodes.foldl register c) := by
    intro nodes
    induction nodes with
    | nil =>
        intro c _ hc
        exact hc
    | cons nd nodes ih =>
        intro c hsub hc
        obtain ⟨hnd, hrest⟩ := List.cons_subset.1 hsub
        exact ih (register c nd) hrest (hregister c nd hnd hc)
  exact hfold b.nodes b.bare (List.Subset.refl _) hbare

theorem exists_of_mem_children {b : Block} {e : String × Node Block}
    (h : e ∈ b.component.children) : ∃ nd ∈ b.nodes, e = (nd.name, nd.node) := by
  have hall : ∀ e ∈ b.component.children, ∃ nd ∈ b.nodes, e = (nd.name, nd.node) := by
    refine component_induction
      (P := fun c => ∀ e ∈ c.children, ∃ nd ∈ b.nodes, e = (nd.name, nd.node)) b ?_ ?_
    · intro e he
      cases he
    · intro c nd hnd hc e he
      rcases mem_register he with he | he
      · exact hc e he
      · exact ⟨nd, hnd, he⟩
  exact hall e h

theorem component_eq (b : Block) :
    b.component = { b.bare with children := b.component.children } := by
  refine component_induction (P := fun c => c = { b.bare with children := c.children }) b rfl ?_
  intro c nd _ hc
  rw [register_eq, hc]

theorem component_repeated_selector (b : Block) :
    b.component.repeated = b.header.repeated ∧ b.component.selector = b.header.selector := by
  rw [component_eq]
  exact ⟨rfl, rfl⟩

end Block

theorem keyed_definitionGraph : definitionGraph.Keyed := by
  intro b
  refine Block.component_induction (P := fun c => c.children.keys.Nodup) b List.nodup_nil ?_
  intro c nd _ hc
  exact Block.nodup_register hc nd

/-! ## Pages that can be built -/

namespace NodeDef

theorem buildFaultAll?_eq_none_iff {nodes : List NodeDef} :
    buildFaultAll? nodes = none ↔ ∀ nd ∈ nodes, buildFault? nd = none := by
  induction nodes with
  | nil => simp [buildFaultAll?]
  | cons nd nodes ih =>
      rw [buildFaultAll?, List.forall_mem_cons, ← ih]
      cases buildFault? nd with
      | some e => simp
      | none => simp

theorem of_buildFault?_component {h : Header} {nodes : List NodeDef}
    (hfault : buildFault? (component h nodes) = none) :
    (h.repeated = true → (nonEmpty? h.selector).isSome = true) ∧ buildFaultAll? nodes = none := by
  rw [buildFault?] at hfault
  split at hfault
  · cases hfault
  next hcond =>
  constructor
  · intro hrepeated
    rw [hrepeated, Bool.true_and, Option.isNone_iff_eq_none] at hcond
    exact Option.isSome_iff_ne_none.2 hcond
  · cases hall : buildFaultAll? nodes with
    | none => rfl
    | some e =>
        rw [hall] at hfault
        cases hfault

theorem depth_le_depthAll {nodes : List NodeDef} {nd : NodeDef} (h : nd ∈ nodes) :
    depth nd ≤ depthAll nodes := by
  induction nodes with
  | nil => cases h
  | cons nd' nodes ih =>
      rw [depthAll]
      rcases List.mem_cons.1 h with rfl | h
      · exact Nat.le_max_left _ _
      · exact Nat.le_trans (ih h) (Nat.le_max_right _ _)

end NodeDef

namespace PageDef

/-- A node whose repeated components, itself included, all have selectors. -/
def Buildable : Node Block → Prop
  | .leaf _ => True
  | .component b =>
      (b.header.repeated = true → (nonEmpty? b.header.selector).isSome = true) ∧
        NodeDef.buildFaultAll? b.nodes = none

theorem Buildable.lookup {n n' : Node Block} {key : String} (h : Buildable n)
    (hn' : definitionGraph.lookup n key = .ok n') : Buildable n' := by
  cases n with
  | leaf l => cases hn'
  | component b =>
      have hmem := (Graph.lookup_component_iff keyed_definitionGraph).1 hn'
      obtain ⟨nd, hnd, hentry⟩ := Block.exists_of_mem_children hmem
      obtain ⟨rfl, rfl⟩ := Prod.mk.inj hentry
      have hfault := NodeDef.buildFaultAll?_eq_none_iff.1 h.2 nd hnd
      cases nd with
      | leaf l => trivial
      | component header nodes => exact NodeDef.of_buildFault?_component hfault

theorem scoped_of_build {p : PageDef} {root : Block} (h : p.build = .ok root) :
    definitionGraph.Scoped (.component root) := by
  have hroot : Buildable (.component root) := by
    rw [build] at h
    split at h
    · cases h
    next hall =>
    cases h
    refine ⟨?_, hall⟩
    intro hrepeated
    cases hrepeated
  intro keys m hm hcollection
  have hbuildable := Graph.nodeAt?_induction (P := Buildable)
    (fun _ _ _ hn hn' => hn.lookup hn') hroot hm
  cases m with
  | leaf l => rfl
  | component b =>
      obtain ⟨hrepeated, hselector⟩ := b.component_repeated_selector
      change (nonEmpty? b.component.selector).isSome = true
      rw [hselector]
      apply hbuildable.1
      rw [← hrepeated]
      exact hcollection

theorem depthLE_of_depthAll {depth : Nat} {b : Block} (h : NodeDef.depthAll b.nodes < depth) :
    definitionGraph.DepthLE depth b := by
  induction depth generalizing b with
  | zero => omega
  | succ depth ih =>
      rintro b' ⟨key, hmem⟩
      obtain ⟨nd, hnd, hentry⟩ := Block.exists_of_mem_children hmem
      obtain ⟨-, hnode⟩ := Prod.mk.inj hentry
      cases nd with
      | leaf l => cases hnode
      | component header nodes =>
          cases hnode
          have hle := NodeDef.depth_le_depthAll hnd
          rw [NodeDef.depth] at hle
          apply ih
          change NodeDef.depthAll nodes < depth
          omega

theorem eq_root_of_build {p : PageDef} {root : Block} (h : p.build = .ok root) : root = p.root := by
  rw [build] at h
  split at h
  · cases h
  · cases h
    rfl

end PageDef

end PageAtlas
