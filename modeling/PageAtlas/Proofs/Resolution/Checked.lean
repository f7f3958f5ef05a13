import PageAtlas.Proofs.Graph.Check
import PageAtlas.Proofs.Resolution.Step

/-!
# What a check promises for resolution

A walk fails for the sake of a selector only where the check reports a key
path, and the plain hops along a reported path fail there unless an earlier
node on it is reported as well.
-/

namespace PageAtlas

/-- A declared selector is at fault: its type is unknown, or its text missing. -/
def Failure.OfSelector : Failure → Prop
  | unknownSelectorType .. => True
  | missingText .. => True
  | _ => False

theorem Query.ofSelector_of_eq_error {name text : Option String} {selectorType selector : String}
    {e : Failure} (h : Query.of name selectorType selector text = .error e) : e.OfSelector := by
  unfold Query.of at h
  split at h
  · cases h
    trivial
  · split at h
    · cases h
      trivial
    · split at h
      · cases h
        trivial
      · cases h
  · cases h

namespace Graph

variable {ν : Type} {g : Graph ν}

theorem ofSelector_of_query {n : Node ν} {e : Failure} (h : g.query n = .error e) :
    e.OfSelector := by
  cases n with
  | leaf l => exact Query.ofSelector_of_eq_error h
  | component r => exact Query.ofSelector_of_eq_error h

/-- Only an unknown alias makes a lookup fail. -/
theorem exists_of_lookup_eq_error {n : Node ν} {key : String} {e : Failure}
    (h : g.lookup n key = .error e) : ∃ scope, e = .aliasNotFound key scope := by
  cases n with
  | leaf l => exact ⟨_, (Except.error.inj h).symm⟩
  | component r =>
      rw [lookup, Component.lookup] at h
      split at h
      · cases h
      · exact ⟨_, (Except.error.inj h).symm⟩

theorem not_ofSelector_of_lookup {n : Node ν} {key : String} {e : Failure}
    (h : g.lookup n key = .error e) : ¬ e.OfSelector := by
  obtain ⟨scope, rfl⟩ := exists_of_lookup_eq_error h
  exact id

theorem Offends.ofSelector {n : Node ν} {keys : List String} {e : Failure}
    (h : g.Offends n keys e) : e.OfSelector := by
  obtain ⟨m, _, _, hquery⟩ := h.exists_node
  exact ofSelector_of_query hquery

end Graph

namespace Walk

open PageAtlas.Path

variable {ν L : Type} {g : Graph ν} {d : Driver L} {o : Options}

/-! ## A single hop -/

/-- A hop that fails for the sake of a selector fails at an offending node. -/
theorem Fails.offends {f : Frame ν L} {hop : Hop} {e : Failure} (hscoped : g.Scoped f.node)
    (h : Fails g o f hop e) (he : e.OfSelector) : g.Offends f.node [hop.name] e := by
  cases h with
  | lookup hlookup => exact absurd he (Graph.not_ofSelector_of_lookup hlookup)
  | scope => cases he
  | single => cases he
  | plain hlookup hselector _ hquery =>
      exact Graph.offends_cons_iff.2 ⟨_, hlookup, Or.inl ⟨rfl, hselector, hquery⟩⟩
  | @picked name _ n _ hlookup hcollection hquery =>
      have hat : g.nodeAt? f.node [name] = some n := Graph.nodeAt?_cons hlookup []
      have hselector := hscoped [name] n hat hcollection
      exact Graph.offends_cons_iff.2 ⟨n, hlookup, Or.inl ⟨rfl, hselector, hquery⟩⟩
  | unwritable => cases he

/-- A plain hop reaches the node of its alias, unless that offends or a single
node under several elements is refused. -/
theorem plain_cases {f : Frame ν L} {n : Node ν} {key : String}
    (hlookup : g.lookup f.node key = .ok n) :
    (∃ f', Next g d o f (.plain key) f' ∧ f'.node = n) ∨
      ∃ e, Fails g o f (.plain key) e ∧
        (g.Offends f.node [key] e ∨
          o.strict = true ∧ ∃ name scope, e = .ambiguousScope name scope) := by
  rcases step_cases (g := g) (d := d) (o := o) f (.plain key) with ⟨f', hnext⟩ | ⟨e, hfails⟩
  · have heq := hnext.lookup.symm.trans hlookup
    cases heq
    exact Or.inl ⟨f', hnext, rfl⟩
  · refine Or.inr ⟨e, hfails, ?_⟩
    cases hfails with
    | lookup herror =>
        have heq := herror.symm.trans hlookup
        cases heq
    | scope _ _ _ _ hstrict => exact Or.inr ⟨hstrict, _, _, rfl⟩
    | plain hlookup hselector _ hquery =>
        exact Or.inl (Graph.offends_cons_iff.2 ⟨_, hlookup, Or.inl ⟨rfl, hselector, hquery⟩⟩)

/-! ## A whole walk -/

/-- A walk that fails for the sake of a selector has come upon an offending path. -/
theorem offends_of_hops {f : Frame ν L} {hs : List Hop} {e : Failure} (hscoped : g.Scoped f.node)
    (h : (hops g d o f hs).result = .error e) (he : e.OfSelector) :
    ∃ keys, keys <+: hs.map Hop.name ∧ g.Offends f.node keys e := by
  induction hs generalizing f with
  | nil => cases h
  | cons hop hs ih =>
      rcases hops_cons_eq_error_iff.1 h with hfails | ⟨f', hnext, h⟩
      · exact ⟨[hop.name], ⟨hs.map Hop.name, rfl⟩, hfails.offends hscoped he⟩
      · obtain ⟨keys, hkeys, hoffends⟩ := ih (hscoped.lookup hnext.lookup) h
        refine ⟨hop.name :: keys, ?_, ?_⟩
        · rw [List.map_cons, List.prefix_cons_inj]
          exact hkeys
        · exact Graph.offends_cons_iff.2 ⟨f'.node, hnext.lookup, Or.inr hoffends⟩

theorem nodeAt?_of_hops {f f' : Frame ν L} {hs : List Hop}
    (h : (hops g d o f hs).result = .ok f') :
    g.nodeAt? f.node (hs.map Hop.name) = some f'.node := by
  induction hs generalizing f with
  | nil =>
      cases h
      rfl
  | cons hop hs ih =>
      obtain ⟨f₁, hnext, hrest⟩ := hops_cons_eq_ok_iff.1 h
      rw [List.map_cons, Graph.nodeAt?_cons hnext.lookup]
      exact ih hrest

/-- The plain hops along an offending path fail at its end, if nothing on the
way offends. -/
theorem hops_of_offends (ho : o.strict = false) {f : Frame ν L} {keys : List String} {e : Failure}
    (h : g.Offends f.node keys e)
    (hfirst : ∀ ks e', ks <+: keys → g.Offends f.node ks e' → ks = keys) :
    (hops g d o f (keys.map Hop.plain)).result = .error e := by
  induction keys generalizing f with
  | nil => exact absurd rfl h.ne_nil
  | cons key keys ih =>
      obtain ⟨n, hlookup, hcase⟩ := Graph.offends_cons_iff.1 h
      rw [List.map_cons, hops_cons_eq_error_iff]
      rcases hcase with ⟨rfl, hselector, hquery⟩ | hoffends
      · exact Or.inl (.plain hlookup hselector (by simp [ho]) hquery)
      · rcases plain_cases (d := d) (o := o) hlookup with
          ⟨f', hnext, rfl⟩ | ⟨e', _, hkey | ⟨hstrict, _⟩⟩
        · refine Or.inr ⟨f', hnext, ih hoffends ?_⟩
          intro ks e' hpre hks
          have hcons := hfirst (key :: ks) e' ((List.prefix_cons_inj key).2 hpre)
            (Graph.offends_cons_iff.2 ⟨f'.node, hlookup, Or.inr hks⟩)
          exact (List.cons.inj hcons).2
        · have hkeys := hfirst [key] e' ⟨keys, rfl⟩ hkey
          exact absurd (List.cons.inj hkeys).2.symm hoffends.ne_nil
        · rw [ho] at hstrict
          cases hstrict

/-- The plain hops along aliases reach the node that these lead to, unless one of
the nodes on the way offends or a scope is refused. -/
theorem hops_plain_cases {f : Frame ν L} {n : Node ν} {keys : List String}
    (hn : g.nodeAt? f.node keys = some n) :
    (∃ f', (hops g d o f (keys.map Hop.plain)).result = .ok f' ∧ f'.node = n) ∨
      ∃ e, (hops g d o f (keys.map Hop.plain)).result = .error e ∧
        ((∃ ks, ks <+: keys ∧ g.Offends f.node ks e) ∨
          o.strict = true ∧ ∃ name scope, e = .ambiguousScope name scope) := by
  induction keys generalizing f with
  | nil =>
      cases hn
      exact Or.inl ⟨f, rfl, rfl⟩
  | cons key keys ih =>
      obtain ⟨n', hlookup, hrest⟩ := Graph.nodeAt?_cons_eq_some_iff.1 hn
      rw [List.map_cons]
      rcases plain_cases (d := d) (o := o) hlookup with
        ⟨f₁, hnext, rfl⟩ | ⟨e, hfails, hcause⟩
      · rcases ih hrest with ⟨f', hhops, hnode⟩ | ⟨e, herror, hcause⟩
        · exact Or.inl ⟨f', hops_cons_eq_ok_iff.2 ⟨f₁, hnext, hhops⟩, hnode⟩
        · refine Or.inr ⟨e, hops_cons_eq_error_iff.2 (Or.inr ⟨f₁, hnext, herror⟩), ?_⟩
          rcases hcause with ⟨ks, hpre, hoffends⟩ | hambiguous
          · refine Or.inl ⟨key :: ks, (List.prefix_cons_inj key).2 hpre, ?_⟩
            exact Graph.offends_cons_iff.2 ⟨f₁.node, hlookup, Or.inr hoffends⟩
          · exact Or.inr hambiguous
      · refine Or.inr ⟨e, hops_cons_eq_error_iff.2 (Or.inl hfails), ?_⟩
        rcases hcause with hoffends | hambiguous
        · exact Or.inl ⟨[key], ⟨keys, rfl⟩, hoffends⟩
        · exact Or.inr hambiguous

end Walk

/-! ## Check and resolution -/

theorem offends_of_resolve {ν L : Type} {g : Graph ν} {d : Driver L} {o : Options} {root : ν}
    {hs : List Path.Hop} {e : Failure} (hscoped : g.Scoped (.component root))
    (h : (resolve g d o root hs).result = .error e) (he : e.OfSelector) :
    ∃ keys, keys <+: hs.map Path.Hop.name ∧ g.Offends (.component root) keys e := by
  rw [resolve_result] at h
  rcases Outcome.bind_eq_error_iff.1 h with hhops | ⟨f, _, hfinish⟩
  · exact Walk.offends_of_hops hscoped hhops he
  · split at hfinish
    · cases hfinish
      cases he
    · cases hfinish

theorem resolve_of_offends {ν L : Type} {g : Graph ν} {d : Driver L} {o : Options}
    (ho : o.strict = false) {root : ν} {keys : List String} {e : Failure}
    (h : g.Offends (.component root) keys e)
    (hfirst : ∀ ks e', ks <+: keys → g.Offends (.component root) ks e' → ks = keys) :
    (resolve g d o root (keys.map Path.Hop.plain)).result = .error e := by
  have hhops : (Walk.hops g d o (Walk.start root) (keys.map Path.Hop.plain)).result = .error e :=
    Walk.hops_of_offends ho h hfirst
  rw [resolve_result, hhops]
  rfl

end PageAtlas
