import PageAtlas.Graph.Store
import PageAtlas.Proofs.Graph.Reach

/-!
# Stores put together step by step

Whatever is added and registered, the aliases of a component stay distinct, and
a repeated component has a selector. Only a component that was added has
children, so the number of components bounds the chains without a circle.
-/

namespace PageAtlas

/-- Aliases are distinct, and what is repeated has a selector. -/
structure Component.Sound {ν : Type} (c : Component ν) : Prop where
  nodup : c.children.keys.Nodup
  selector : c.repeated = true → c.hasSelector = true

namespace Component

variable {ν : Type} {c c' : Component ν}

theorem Sound.bare : Sound ({} : Component ν) :=
  ⟨List.nodup_nil, fun h => by cases h⟩

theorem sound_of_make {name selector : Option String} {selectorType : String}
    {text : Option String} {repeated : Bool}
    (h : make name selector selectorType text repeated = .ok c) : c.Sound := by
  rw [make] at h
  split at h
  · cases h
  next hcond =>
  cases h
  refine ⟨List.nodup_nil, ?_⟩
  intro hrepeated
  change repeated = true at hrepeated
  rw [hrepeated, Bool.true_and, Option.isNone_iff_eq_none] at hcond
  exact Option.isSome_iff_ne_none.2 hcond

theorem Sound.defineLeaf (h : c.Sound) (l : Leaf) : (c.defineLeaf l).Sound :=
  ⟨Ordered.nodup_keys_insert h.nodup l.name (.leaf l), h.selector⟩

theorem Sound.mount (h : c.Sound) {child : ν} {own given : Option String}
    (hm : c.mount child own given = .ok c') : c'.Sound := by
  rw [Component.mount] at hm
  split at hm
  · cases hm
  next key _ =>
  cases hm
  exact ⟨Ordered.nodup_keys_insert h.nodup key (.component child), h.selector⟩

end Component

namespace Store

/-- The stores that arise by adding components and registering on them. -/
inductive Built : Store → Prop
  | empty : Built {}
  | add {s : Store} {c : Component Nat} {name selector : Option String} {selectorType : String}
      {text : Option String} {repeated : Bool} (h : Built s)
      (hc : Component.make name selector selectorType text repeated = .ok c) : Built (s.add c).1
  | defineLeaf {s : Store} (h : Built s) (on : Nat) (l : Leaf) : Built (s.defineLeaf on l)
  | mount {s s' : Store} {on child : Nat} {given : Option String} (h : Built s)
      (hm : s.mount on child given = .ok s') : Built s'

theorem component_sound {s : Store} (h : ∀ c ∈ s.components, c.Sound) (r : Nat) :
    (s.graph.component r).Sound := by
  change (s.components.getD r {}).Sound
  rw [List.getD_eq_getElem?_getD]
  cases hc : s.components[r]? with
  | none => exact Component.Sound.bare
  | some c => exact h c (List.mem_of_getElem? hc)

theorem sound_of_mem_set {s : Store} (h : ∀ c ∈ s.components, c.Sound) {r : Nat}
    {c : Component Nat} (hc : c.Sound) : ∀ c' ∈ (s.set r c).components, c'.Sound := by
  intro c' hc'
  rcases List.mem_or_eq_of_mem_set hc' with hmem | rfl
  · exact h c' hmem
  · exact hc

theorem Built.sound {s : Store} (h : Built s) : ∀ c ∈ s.components, c.Sound := by
  induction h with
  | empty =>
      intro c hc
      cases hc
  | add _ hmake ih =>
      intro c hc
      rcases List.mem_append.1 hc with hc | hc
      · exact ih c hc
      · rw [List.mem_singleton.1 hc]
        exact Component.sound_of_make hmake
  | defineLeaf _ on l ih => exact sound_of_mem_set ih ((component_sound ih on).defineLeaf l)
  | @mount s s' on child given _ hm ih =>
      rw [Store.mount] at hm
      split at hm
      · cases hm
      next c hc =>
      cases hm
      exact sound_of_mem_set ih ((component_sound ih on).mount hc)

theorem Built.keyed {s : Store} (h : Built s) : s.graph.Keyed := by
  intro r
  exact (component_sound h.sound r).nodup

theorem Built.scoped {s : Store} (h : Built s) (n : Node Nat) : s.graph.Scoped n := by
  intro keys m _ hcollection
  cases m with
  | leaf l => rfl
  | component r => exact (component_sound h.sound r).selector hcollection

theorem children_eq_nil {s : Store} {r : Nat} (h : s.components.length ≤ r) :
    (s.graph.component r).children = [] := by
  change (s.components.getD r {}).children = []
  rw [List.getD_eq_getElem?_getD, List.getElem?_eq_none h]
  rfl

theorem depthLE_of_acyclic {s : Store} {root : Nat} (h : s.graph.Acyclic root) :
    s.graph.DepthLE s.components.length root :=
  h.depthLE fun _ hr => children_eq_nil hr

end Store

end PageAtlas
