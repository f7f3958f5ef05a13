import PageAtlas.Graph.Component
import PageAtlas.Proofs.Ordered
import Mathlib.Data.List.Perm.Subperm
import Mathlib.Logic.Relation

/-!
# What lies below a node

Aliases lead from a node to the nodes below it. A graph without a circle below
a component has chains of bounded length there.
-/

namespace PageAtlas

namespace Graph

variable {ν : Type} (g : Graph ν)

def Keyed : Prop := ∀ r, (g.component r).children.keys.Nodup

variable {g}

theorem mem_children_of_lookup {r : ν} {key : String} {n : Node ν}
    (h : g.lookup (.component r) key = .ok n) : (key, n) ∈ (g.component r).children := by
  rw [lookup, Component.lookup] at h
  split at h
  · next hfind =>
    cases h
    exact Ordered.mem_of_find? hfind
  · cases h

theorem lookup_component_iff (hg : g.Keyed) {r : ν} {key : String} {n : Node ν} :
    g.lookup (.component r) key = .ok n ↔ (key, n) ∈ (g.component r).children := by
  refine ⟨mem_children_of_lookup, fun h => ?_⟩
  rw [lookup, Component.lookup, Ordered.find?_of_mem (hg r) h]

variable (g)

/-! ## Following aliases -/

def nodeAt? (n : Node ν) : List String → Option (Node ν)
  | [] => some n
  | key :: keys =>
      match g.lookup n key with
      | .ok n' => nodeAt? n' keys
      | .error _ => none

variable {g}

theorem nodeAt?_cons {n n' : Node ν} {key : String} (h : g.lookup n key = .ok n')
    (keys : List String) : g.nodeAt? n (key :: keys) = g.nodeAt? n' keys := by
  rw [nodeAt?, h]

theorem nodeAt?_cons_eq_some_iff {n m : Node ν} {key : String} {keys : List String} :
    g.nodeAt? n (key :: keys) = some m ↔
      ∃ n', g.lookup n key = .ok n' ∧ g.nodeAt? n' keys = some m := by
  rw [nodeAt?]
  cases g.lookup n key with
  | error e => simp
  | ok n' => simp

theorem nodeAt?_append {n m : Node ν} {keys : List String} (h : g.nodeAt? n keys = some m)
    (keys' : List String) : g.nodeAt? n (keys ++ keys') = g.nodeAt? m keys' := by
  induction keys generalizing n with
  | nil =>
      cases h
      rfl
  | cons key keys ih =>
      obtain ⟨n', hn', hrest⟩ := nodeAt?_cons_eq_some_iff.1 h
      rw [List.cons_append, nodeAt?_cons hn']
      exact ih hrest

/-- What every lookup preserves holds wherever aliases lead. -/
theorem nodeAt?_induction {P : Node ν → Prop}
    (hstep : ∀ n key n', P n → g.lookup n key = .ok n' → P n') {n m : Node ν}
    {keys : List String} (hn : P n) (h : g.nodeAt? n keys = some m) : P m := by
  induction keys generalizing n with
  | nil =>
      cases h
      exact hn
  | cons key keys ih =>
      obtain ⟨n', hn', hrest⟩ := nodeAt?_cons_eq_some_iff.1 h
      exact ih (hstep n key n' hn hn') hrest

variable (g)

/-- Whatever matches many elements below a node has a selector. -/
def Scoped (n : Node ν) : Prop :=
  ∀ keys m, g.nodeAt? n keys = some m → g.isCollection m = true → g.hasSelector m = true

variable {g}

theorem Scoped.lookup {n n' : Node ν} {key : String} (h : g.Scoped n)
    (hn' : g.lookup n key = .ok n') : g.Scoped n' := by
  intro keys m hm
  apply h (key :: keys)
  rw [nodeAt?_cons hn']
  exact hm

/-! ## Components below components -/

variable (g)

def Mounts (r r' : ν) : Prop := ∃ key, (key, Node.component r') ∈ (g.component r).children

/-- No component that can be reached lies below itself. -/
def Acyclic (root : ν) : Prop :=
  ∀ r, Relation.ReflTransGen g.Mounts root r → ¬ Relation.TransGen g.Mounts r r

/-- Chains of components below this one have at most that many with children. -/
def DepthLE : Nat → ν → Prop
  | 0, r => (g.component r).children = []
  | depth + 1, r => ∀ r', g.Mounts r r' → DepthLE depth r'

variable {g}

theorem not_mounts_of_children_eq_nil {r : ν} (h : (g.component r).children = []) (r' : ν) :
    ¬ g.Mounts r r' := by
  rintro ⟨key, hmem⟩
  rw [h] at hmem
  cases hmem

theorem acyclic_of_rank {root : ν} (rank : ν → Nat)
    (h : ∀ r r', g.Mounts r r' → rank r' < rank r) : g.Acyclic root := by
  intro r _ hloop
  have hless : ∀ r', Relation.TransGen g.Mounts r r' → rank r' < rank r := by
    intro r' hr'
    induction hr' with
    | single hm => exact h _ _ hm
    | tail _ hm ih => exact Nat.lt_trans (h _ _ hm) ih
  exact Nat.lt_irrefl _ (hless r hloop)

/-- Without circles no chain is longer than the components that have children. -/
theorem Acyclic.depthLE {g : Graph Nat} {root count : Nat} (hacyclic : g.Acyclic root)
    (hcount : ∀ r, count ≤ r → (g.component r).children = []) : g.DepthLE count root := by
  -- The components passed on the way are distinct, and all below the count.
  have hchain : ∀ (depth r : Nat) (passed : List Nat), Relation.ReflTransGen g.Mounts root r →
      passed.Nodup → (∀ v ∈ passed, v < count ∧ Relation.TransGen g.Mounts v r) →
      count ≤ passed.length + depth → g.DepthLE depth r := by
    intro depth
    induction depth with
    | zero =>
        intro r passed hreach hnodup hpassed hlen
        apply hcount
        by_contra hr
        have hnot : r ∉ passed := fun hmem => hacyclic r hreach (hpassed r hmem).2
        have hsub : r :: passed ⊆ List.range count := by
          intro v hv
          rw [List.mem_range]
          rcases List.mem_cons.1 hv with rfl | hv
          · omega
          · exact (hpassed v hv).1
        have hle := (List.subperm_of_subset (List.nodup_cons.2 ⟨hnot, hnodup⟩) hsub).length_le
        rw [List.length_cons, List.length_range] at hle
        omega
    | succ depth ih =>
        intro r passed hreach hnodup hpassed hlen r' hr'
        have hnot : r ∉ passed := fun hmem => hacyclic r hreach (hpassed r hmem).2
        have hr : r < count := by
          by_contra hge
          exact not_mounts_of_children_eq_nil (hcount r (by omega)) r' hr'
        refine ih r' (r :: passed) (hreach.tail hr') (List.nodup_cons.2 ⟨hnot, hnodup⟩) ?_ ?_
        · intro v hv
          rcases List.mem_cons.1 hv with rfl | hv
          · exact ⟨hr, Relation.TransGen.single hr'⟩
          · exact ⟨(hpassed v hv).1, (hpassed v hv).2.tail hr'⟩
        · rw [List.length_cons]
          omega
  refine hchain count root [] Relation.ReflTransGen.refl List.nodup_nil ?_ (by simp)
  intro v hv
  cases hv

end Graph

end PageAtlas
