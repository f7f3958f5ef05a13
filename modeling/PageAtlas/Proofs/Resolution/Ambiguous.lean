import PageAtlas.Proofs.Resolution.Checked
import PageAtlas.Proofs.Resolution.Notes

/-!
# Where a scope becomes ambiguous

A walk addresses several elements since its last plain hop onto a collection. From
there a strict walk can only have gone on to groupings, which keep the elements. The
node at which it stops is then the last of these, and no longer the collection.
-/

namespace PageAtlas

open PageAtlas.Path

variable {ν L : Type} {g : Graph ν} {d : Driver L} {o : Options}

namespace Graph

/-- Aliases that lead from grouping to grouping, the last of which is the second node. -/
inductive Groupings (g : Graph ν) : Node ν → List String → Node ν → Prop
  | nil {n : Node ν} : Groupings g n [] n
  | cons {n n' m : Node ν} {key : String} {keys : List String} (hlookup : g.lookup n key = .ok n')
      (hselector : g.hasSelector n' = false) (hrest : Groupings g n' keys m) :
      Groupings g n (key :: keys) m

theorem Groupings.eq_of_nil {n m : Node ν} (h : g.Groupings n [] m) : m = n := by
  cases h
  rfl

theorem Groupings.nodeAt? {n m : Node ν} {keys : List String} (h : g.Groupings n keys m) :
    g.nodeAt? n keys = some m := by
  induction h with
  | nil => rfl
  | cons hlookup _ _ ih => rw [nodeAt?_cons hlookup, ih]

theorem Groupings.exists_of_concat {n m : Node ν} {keys : List String} {key : String}
    (h : g.Groupings n (keys ++ [key]) m) :
    ∃ n', g.Groupings n keys n' ∧ g.lookup n' key = .ok m ∧ g.hasSelector m = false := by
  induction keys generalizing n with
  | nil =>
      obtain _ | ⟨hlookup, hselector, hrest⟩ := h
      cases hrest
      exact ⟨n, .nil, hlookup, hselector⟩
  | cons key' keys ih =>
      obtain _ | ⟨hlookup, hselector, hrest⟩ := h
      obtain ⟨n', hgroupings, hlast⟩ := ih hrest
      exact ⟨n', .cons hlookup hselector hgroupings, hlast⟩

end Graph

namespace Walk

theorem hops_groupings {f : Frame ν L} {m : Node ν} {keys : List String}
    (h : g.Groupings f.node keys m) :
    (hops g d o f (keys.map .plain)).result = .ok { f with node := m } := by
  induction keys generalizing f with
  | nil =>
      cases h
      rfl
  | cons key keys ih =>
      obtain _ | ⟨hlookup, hselector, hrest⟩ := h
      exact hops_cons_eq_ok_iff.2 ⟨_, .grouping hlookup hselector, ih hrest⟩

theorem Fails.of_ambiguousScope {f : Frame ν L} {hop : Hop} {name scope : Option String}
    (h : Fails g o f hop (.ambiguousScope name scope)) :
    f.multiple = true ∧ o.strict = true ∧ ∃ key n, hop = .plain key ∧
      g.lookup f.node key = .ok n ∧ name = g.aliasOf n ∧ scope = g.aliasOf f.node := by
  cases h with
  | lookup hlookup =>
      obtain ⟨_, he⟩ := Graph.exists_of_lookup_eq_error hlookup
      cases he
  | scope hlookup _ hmultiple _ hstrict => exact ⟨hmultiple, hstrict, _, _, rfl, hlookup, rfl, rfl⟩
  | plain _ _ _ hquery => cases Graph.ofSelector_of_query hquery
  | picked _ _ hquery => cases Graph.ofSelector_of_query hquery

/-! ## Widened walks -/

/-- A walk from a frame to a collection, all of whose elements it addresses, and from
there along groupings to a node. -/
structure Widened (g : Graph ν) (d : Driver L) (o : Options) (f : Frame ν L) where
  before : List Hop
  frame : Frame ν L
  key : String
  collection : Node ν
  query : Query
  groupings : List String
  node : Node ν
  reached : (Walk.hops g d o f before).result = .ok frame
  found : g.lookup frame.node key = .ok collection
  repeated : g.isCollection collection = true
  queried : g.query collection = .ok query
  grouped : g.Groupings collection groupings node

namespace Widened

variable {f : Frame ν L} (w : Widened g d o f)

def hops : List Hop := w.before ++ .plain w.key :: w.groupings.map .plain

def scope : String := w.groupings.getLastD w.key

def narrowed (p : Pick) : List Hop := w.before ++ .picked w.key p :: w.groupings.map .plain

/-- One element of the last node is picked instead. -/
def advised (p : Pick) : List Hop := w.hops.dropLast ++ [.picked w.scope p]

theorem narrowed_ne_nil (p : Pick) : w.narrowed p ≠ [] := by simp [narrowed]

theorem advised_ne_nil (p : Pick) : w.advised p ≠ [] := by simp [advised]

theorem exists_grouping (h : w.groupings ≠ []) :
    ∃ keys n, w.groupings = keys ++ [w.scope] ∧ g.Groupings w.collection keys n ∧
      g.lookup n w.scope = .ok w.node ∧ g.hasSelector w.node = false := by
  obtain ⟨keys, key, hkeys⟩ := (List.eq_nil_or_concat' w.groupings).resolve_left h
  have hscope : w.scope = key := by simp [scope, hkeys]
  have hgrouped := w.grouped
  rw [hkeys] at hgrouped
  obtain ⟨n, hlast⟩ := hgrouped.exists_of_concat
  rw [hscope]
  exact ⟨keys, n, hkeys, hlast⟩

theorem exists_keys : ∃ keys, w.hops.map Hop.name = keys ++ [w.scope] := by
  by_cases h : w.groupings = []
  · exact ⟨w.before.map Hop.name, by simp [hops, scope, Hop.name, h]⟩
  · obtain ⟨keys, -, hkeys, -⟩ := w.exists_grouping h
    refine ⟨w.before.map Hop.name ++ w.key :: keys, ?_⟩
    simp [hops, hkeys, Hop.name, Function.comp_def]

theorem nodeAt?_collection :
    g.nodeAt? f.node (w.before.map Hop.name ++ [w.key]) = some w.collection := by
  rw [Graph.nodeAt?_append (nodeAt?_of_hops w.reached)]
  exact Graph.nodeAt?_cons w.found []

theorem nodeAt?_hops : g.nodeAt? f.node (w.hops.map Hop.name) = some w.node := by
  have hkeys : w.hops.map Hop.name = w.before.map Hop.name ++ [w.key] ++ w.groupings := by
    simp [hops, Hop.name, Function.comp_def]
  rw [hkeys, Graph.nodeAt?_append w.nodeAt?_collection, w.grouped.nodeAt?]

/-- Only without groupings is the last node the collection. -/
theorem isCollection_iff (hscoped : g.Scoped f.node) :
    g.isCollection w.node = true ↔ w.groupings = [] := by
  by_cases h : w.groupings = []
  · have hgrouped := w.grouped
    rw [h] at hgrouped
    rw [hgrouped.eq_of_nil]
    exact iff_of_true w.repeated h
  · obtain ⟨keys, n, -, -, -, hselector⟩ := w.exists_grouping h
    refine iff_of_false (fun hcollection => ?_) h
    rw [hscoped _ _ w.nodeAt?_hops hcollection] at hselector
    cases hselector

theorem hops_narrowed {p : Pick} (hp : p.Writable) :
    ∃ f', (Walk.hops g d o f (w.narrowed p)).result = .ok f' ∧ f'.node = w.node ∧
      f'.multiple = false := by
  have hpicked := Next.picked (d := d) (o := o) w.found w.repeated w.queried hp
  have hrest := hops_cons_eq_ok_iff.2 ⟨_, hpicked, hops_groupings w.grouped⟩
  exact ⟨_, hops_append_eq_ok_iff.2 ⟨w.frame, w.reached, hrest⟩, rfl, rfl⟩

theorem hops_narrowed_of_not {p : Pick} (hp : ¬p.Writable) :
    (Walk.hops g d o f (w.narrowed p)).result = .error .unwritableIndex := by
  have hpicked : Fails g o w.frame (.picked w.key p) .unwritableIndex :=
    .unwritable w.found w.repeated w.queried hp
  rw [narrowed, hops_append, Run.result_bind_of_ok w.reached]
  exact hops_cons_eq_error_iff.2 (.inl hpicked)

theorem exists_hops_plain (hscoped : g.Scoped f.node) :
    ∃ f₁, (Walk.hops g d o f (w.before ++ [.plain w.key])).result = .ok f₁ ∧
      f₁.node = w.collection := by
  have hselector := hscoped _ _ w.nodeAt?_collection w.repeated
  have hscope : ¬ (w.frame.multiple = true ∧ g.isCollection w.collection = false ∧
      o.strict = true) := by
    rintro ⟨-, hsingle, -⟩
    rw [w.repeated] at hsingle
    cases hsingle
  have hplain := Next.matched (d := d) w.found hselector hscope w.queried
  have hlast : (Walk.hops g d o w.frame [.plain w.key]).result = .ok _ :=
    hops_cons_eq_ok_iff.2 ⟨_, hplain, rfl⟩
  exact ⟨_, hops_append_eq_ok_iff.2 ⟨w.frame, w.reached, hlast⟩, rfl⟩

theorem advised_of_nil (h : w.groupings = []) (p : Pick) : w.advised p = w.narrowed p := by
  simp [advised, narrowed, hops, scope, h]

/-- A grouping is no collection, so no element of it can be picked. -/
theorem hops_advised (hscoped : g.Scoped f.node) (h : w.groupings ≠ []) (p : Pick) :
    (Walk.hops g d o f (w.advised p)).result = .error (.notACollection w.scope) := by
  obtain ⟨keys, n, hkeys, hgroupings, hlookup, -⟩ := w.exists_grouping h
  have hadvised :
      w.advised p = w.before ++ [.plain w.key] ++ (keys.map .plain ++ [.picked w.scope p]) := by
    have hhops : w.hops = w.before ++ [.plain w.key] ++ keys.map .plain ++ [.plain w.scope] := by
      simp [hops, hkeys]
    rw [advised, hhops, List.dropLast_concat]
    exact List.append_assoc _ _ _
  obtain ⟨f₁, hplain, hnode⟩ := w.exists_hops_plain hscoped
  rw [← hnode] at hgroupings
  have hsingle : g.isCollection w.node = false :=
    Bool.eq_false_iff.2 fun hcollection => h ((w.isCollection_iff hscoped).1 hcollection)
  rw [hadvised, hops_append, Run.result_bind_of_ok hplain, hops_append,
    Run.result_bind_of_ok (hops_groupings hgroupings)]
  exact hops_cons_eq_error_iff.2 (.inl (.single hlookup hsingle))

end Widened

/-- By induction on the hops: a strict walk that still addresses several elements goes
along groupings, or it is widened by the hop in front of them. -/
theorem exists_widened (ho : o.strict = true) {f f' : Frame ν L} {hs : List Hop}
    (h : (hops g d o f hs).result = .ok f') (hmultiple : f'.multiple = true) :
    (f.multiple = true ∧ ∃ keys, hs = keys.map .plain ∧ g.Groupings f.node keys f'.node) ∨
      ∃ w : Widened g d o f, hs = w.hops ∧ f'.node = w.node := by
  induction hs generalizing f with
  | nil =>
      cases h
      exact .inl ⟨hmultiple, [], rfl, .nil⟩
  | cons hop hs ih =>
      obtain ⟨f₁, hnext, hrest⟩ := hops_cons_eq_ok_iff.1 h
      rcases ih hrest with ⟨hfirst, keys, rfl, hgroupings⟩ | ⟨w, rfl, hnode⟩
      · cases hnext with
        | grouping hlookup hselector =>
            exact .inl ⟨hfirst, _ :: keys, rfl, .cons hlookup hselector hgroupings⟩
        | @matched key n q hlookup hselector hscope hquery =>
            have hrepeated : g.isCollection n = true := by
              cases hc : g.isCollection n with
              | true => rfl
              | false =>
                  change (g.isCollection n || f.multiple) = true at hfirst
                  rw [hc] at hfirst
                  exact absurd ⟨hfirst, hc, ho⟩ hscope
            exact .inr ⟨⟨[], f, key, n, q, keys, f'.node, rfl, hlookup, hrepeated, hquery,
              hgroupings⟩, rfl, rfl⟩
        | picked => cases hfirst
      · refine .inr ⟨{ w with before := hop :: w.before, reached := ?_ }, rfl, hnode⟩
        exact hops_cons_eq_ok_iff.2 ⟨f₁, hnext, w.reached⟩

/-- A walk from a root is ambiguous where it was widened. -/
theorem exists_of_ambiguousScope {root : ν} {hs : List Hop} {name scope : Option String}
    (h : (hops g d o (start root) hs).result = .error (.ambiguousScope name scope)) :
    ∃ (w : Widened g d o (start root)) (key : String) (after : List Hop) (n : Node ν),
      hs = w.hops ++ .plain key :: after ∧ g.lookup w.node key = .ok n ∧
        name = g.aliasOf n ∧ scope = g.aliasOf w.node := by
  obtain ⟨before, hop, after, f, rfl, hbefore, hfails, -⟩ := exists_of_hops_eq_error h
  obtain ⟨hmultiple, ho, key, n, rfl, hlookup, hname, hscope⟩ := hfails.of_ambiguousScope
  rcases exists_widened ho hbefore hmultiple with ⟨hstart, -⟩ | ⟨w, rfl, hnode⟩
  · cases hstart
  · rw [hnode] at hlookup hscope
    exact ⟨w, key, after, n, rfl, hlookup, hname, hscope⟩

end Walk

end PageAtlas
