import PageAtlas.Graph.Check
import PageAtlas.Proofs.Graph.Reach

/-!
# What a check reports, and in which order

A check reports the offending key paths below a component and no others, each
once, and every node before those below it and those registered after it.
-/

namespace PageAtlas

namespace Graph

variable {ν : Type} (g : Graph ν)

structure Offends (n : Node ν) (keys : List String) (e : Failure) : Prop where
  ne_nil : keys ≠ []
  exists_node : ∃ m, g.nodeAt? n keys = some m ∧ g.hasSelector m = true ∧ g.query m = .error e

/-- The first of two key paths is met first when each node comes before what
is below it, and children come in the order of their registration. -/
inductive Before : ν → List String → List String → Prop
  | above (r : ν) {keys : List String} (h : keys ≠ []) : Before r [] keys
  | earlier {r : ν} {key key' : String} (keys keys' : List String)
      (h : [key, key'].Sublist (g.component r).children.keys) :
      Before r (key :: keys) (key' :: keys')
  | under {r r' : ν} {key : String} {keys keys' : List String}
      (hmem : (key, Node.component r') ∈ (g.component r).children) (h : Before r' keys keys') :
      Before r (key :: keys) (key :: keys')

variable {g}

/-! ## The reported key paths -/

theorem not_offends_leaf (l : Leaf) (keys : List String) (e : Failure) :
    ¬ g.Offends (.leaf l) keys e := by
  rintro ⟨hne, m, hm, _⟩
  obtain ⟨key, keys, rfl⟩ := List.exists_cons_of_ne_nil hne
  cases hm

theorem offends_cons_iff {n : Node ν} {key : String} {keys : List String} {e : Failure} :
    g.Offends n (key :: keys) e ↔ ∃ n', g.lookup n key = .ok n' ∧
      ((keys = [] ∧ g.hasSelector n' = true ∧ g.query n' = .error e) ∨ g.Offends n' keys e) := by
  constructor
  · rintro ⟨_, m, hm, hselector, hquery⟩
    obtain ⟨n', hn', hrest⟩ := nodeAt?_cons_eq_some_iff.1 hm
    refine ⟨n', hn', ?_⟩
    by_cases hkeys : keys = []
    · subst hkeys
      cases hrest
      exact Or.inl ⟨rfl, hselector, hquery⟩
    · exact Or.inr ⟨hkeys, m, hrest, hselector, hquery⟩
  · rintro ⟨n', hn', ⟨rfl, hselector, hquery⟩ | ⟨_, m, hm, hselector, hquery⟩⟩
    · exact ⟨List.cons_ne_nil _ _, n', nodeAt?_cons hn' [], hselector, hquery⟩
    · refine ⟨List.cons_ne_nil _ _, m, ?_, hselector, hquery⟩
      rw [nodeAt?_cons hn']
      exact hm

theorem mem_ownProblem {key : String} {n : Node ν} {p : Problem} :
    p ∈ g.ownProblem key n ↔
      p.keys = [key] ∧ g.hasSelector n = true ∧ g.query n = .error p.failure := by
  rw [ownProblem]
  constructor
  · intro h
    split at h
    · next hselector =>
      cases hquery : g.query n with
      | ok q =>
          rw [hquery] at h
          cases h
      | error e =>
          rw [hquery] at h
          rw [List.mem_singleton.1 h]
          exact ⟨rfl, hselector, rfl⟩
    · cases h
  · rintro ⟨hkeys, hselector, hquery⟩
    obtain ⟨keys, failure⟩ := p
    subst hkeys
    rw [if_pos hselector, hquery]
    exact List.mem_singleton_self _

theorem mem_problemsWithin_succ {depth : Nat} {r : ν} {p : Problem} :
    p ∈ g.problemsWithin (depth + 1) r ↔ ∃ key n, (key, n) ∈ (g.component r).children ∧
      (p ∈ g.ownProblem key n ∨
        ∃ r' q, n = .component r' ∧ q ∈ g.problemsWithin depth r' ∧ q.under key = p) := by
  rw [problemsWithin, List.mem_flatMap]
  constructor
  · rintro ⟨⟨key, n⟩, hmem, hp⟩
    refine ⟨key, n, hmem, ?_⟩
    rcases List.mem_append.1 hp with hp | hp
    · exact Or.inl hp
    · cases n with
      | leaf l => cases hp
      | component r' =>
          obtain ⟨q, hq, hunder⟩ := List.mem_map.1 hp
          exact Or.inr ⟨r', q, rfl, hq, hunder⟩
  · rintro ⟨key, n, hmem, hp⟩
    refine ⟨(key, n), hmem, List.mem_append.2 ?_⟩
    rcases hp with hp | ⟨r', q, rfl, hq, hunder⟩
    · exact Or.inl hp
    · exact Or.inr (List.mem_map.2 ⟨q, hq, hunder⟩)

/-- Given enough depth, the problems are what offends below the component. -/
theorem mem_problemsWithin (hg : g.Keyed) {depth : Nat} {r : ν} (hdepth : g.DepthLE depth r)
    {p : Problem} : p ∈ g.problemsWithin depth r ↔ g.Offends (.component r) p.keys p.failure := by
  induction depth generalizing r p with
  | zero =>
      constructor
      · intro h
        cases h
      · rintro ⟨hne, m, hm, _⟩
        obtain ⟨key, keys, hkeys⟩ := List.exists_cons_of_ne_nil hne
        rw [hkeys] at hm
        obtain ⟨n, hn, _⟩ := nodeAt?_cons_eq_some_iff.1 hm
        have hmem := (lookup_component_iff hg).1 hn
        rw [DepthLE] at hdepth
        rw [hdepth] at hmem
        cases hmem
  | succ depth ih =>
      rw [mem_problemsWithin_succ]
      constructor
      · rintro ⟨key, n, hmem, hp | ⟨r', q, rfl, hq, rfl⟩⟩
        · obtain ⟨hkeys, hselector, hquery⟩ := mem_ownProblem.1 hp
          rw [hkeys, offends_cons_iff]
          exact ⟨n, (lookup_component_iff hg).2 hmem, Or.inl ⟨rfl, hselector, hquery⟩⟩
        · have hoffends := (ih (hdepth r' ⟨key, hmem⟩)).1 hq
          exact offends_cons_iff.2
            ⟨.component r', (lookup_component_iff hg).2 hmem, Or.inr hoffends⟩
      · intro h
        obtain ⟨key, keys, hkeys⟩ := List.exists_cons_of_ne_nil h.ne_nil
        rw [hkeys, offends_cons_iff] at h
        obtain ⟨n, hn, hcase⟩ := h
        have hmem := (lookup_component_iff hg).1 hn
        refine ⟨key, n, hmem, ?_⟩
        rcases hcase with ⟨rfl, hselector, hquery⟩ | hoffends
        · exact Or.inl (mem_ownProblem.2 ⟨hkeys, hselector, hquery⟩)
        · cases n with
          | leaf l => exact absurd hoffends (not_offends_leaf l keys p.failure)
          | component r' =>
              refine Or.inr ⟨r', ⟨keys, p.failure⟩, rfl, ?_, ?_⟩
              · exact (ih (hdepth r' ⟨key, hmem⟩)).2 hoffends
              · obtain ⟨pkeys, failure⟩ := p
                exact congrArg (Problem.mk · failure) hkeys.symm

/-! ## Their order -/

theorem exists_keys_of_mem {depth : Nat} {key : String} {n : Node ν} {p : Problem}
    (h : p ∈ g.ownProblem key n ++ match n with
      | .leaf _ => []
      | .component r => (g.problemsWithin depth r).map (Problem.under key)) :
    ∃ keys, p.keys = key :: keys := by
  rcases List.mem_append.1 h with hp | hp
  · exact ⟨[], (mem_ownProblem.1 hp).1⟩
  · cases n with
    | leaf l => cases hp
    | component r =>
        obtain ⟨q, _, rfl⟩ := List.mem_map.1 hp
        exact ⟨q.keys, rfl⟩

theorem keys_ne_nil_of_mem {depth : Nat} {r : ν} {p : Problem}
    (h : p ∈ g.problemsWithin depth r) : p.keys ≠ [] := by
  cases depth with
  | zero => cases h
  | succ depth =>
      obtain ⟨key, n, _, hp | ⟨r', q, _, _, rfl⟩⟩ := mem_problemsWithin_succ.1 h
      · rw [(mem_ownProblem.1 hp).1]
        exact List.cons_ne_nil _ _
      · exact List.cons_ne_nil key q.keys

theorem pairwise_ownProblem {R : Problem → Problem → Prop} (key : String) (n : Node ν) :
    (g.ownProblem key n).Pairwise R := by
  rw [ownProblem]
  split
  · cases g.query n with
    | ok q => exact List.Pairwise.nil
    | error e => exact List.pairwise_singleton R _
  · exact List.Pairwise.nil

/-- The problems come in the order in which a walk down the mappings meets them. -/
theorem pairwise_problemsWithin (depth : Nat) (r : ν) :
    (g.problemsWithin depth r).Pairwise fun p q => g.Before r p.keys q.keys := by
  induction depth generalizing r with
  | zero => exact List.Pairwise.nil
  | succ depth ih =>
      rw [problemsWithin, List.pairwise_flatMap]
      constructor
      · rintro ⟨key, n⟩ hmem
        refine List.pairwise_append.2 ⟨pairwise_ownProblem key n, ?_, ?_⟩
        · cases n with
          | leaf l => exact List.Pairwise.nil
          | component r' =>
              refine List.pairwise_map.2 ((ih r').imp ?_)
              intro p q hpq
              exact Before.under hmem hpq
        · intro p hp q hq
          cases n with
          | leaf l => cases hq
          | component r' =>
              obtain ⟨q', hq', rfl⟩ := List.mem_map.1 hq
              rw [(mem_ownProblem.1 hp).1]
              exact Before.under hmem (Before.above r' (keys_ne_nil_of_mem hq'))
      · refine List.pairwise_iff_forall_sublist.2 ?_
        intro e e' hsub p hp q hq
        obtain ⟨keys, hkeys⟩ := exists_keys_of_mem hp
        obtain ⟨keys', hkeys'⟩ := exists_keys_of_mem hq
        rw [hkeys, hkeys']
        exact Before.earlier keys keys' (hsub.map Prod.fst)

theorem Before.ne (hg : g.Keyed) {r : ν} {keys keys' : List String}
    (h : g.Before r keys keys') : keys ≠ keys' := by
  induction h with
  | above r hne => exact hne.symm
  | @earlier r key key' keys keys' hsub =>
      intro heq
      rw [(List.cons.inj heq).1] at hsub
      exact List.nodup_iff_sublist.1 (hg r) key' hsub
  | under hmem h ih =>
      intro heq
      exact ih (List.cons.inj heq).2

theorem nodup_problemsWithin (hg : g.Keyed) (depth : Nat) (r : ν) :
    ((g.problemsWithin depth r).map Problem.keys).Nodup := by
  refine List.pairwise_map.2 ((pairwise_problemsWithin depth r).imp ?_)
  intro p q hpq
  exact hpq.ne hg

end Graph

end PageAtlas
