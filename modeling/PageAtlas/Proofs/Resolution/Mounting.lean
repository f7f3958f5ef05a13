import PageAtlas.Proofs.Resolution.Narrowing

/-!
# Components wherever they are mounted

Hops that go on from a locator do what they would do with that locator as the
document root. A chain without texts never looks at its front, so another root
only gives it another front. Both together say that a component resolves the same
under every locator that leads to it, as long as it leads to a single one.
-/

namespace PageAtlas

open PageAtlas.Path

/-! ## Going on from a locator -/

section Under

variable {ν L : Type} {g : Graph ν} {o : Options}

def Driver.under (d : Driver L) (base : L) : Driver L := { d with root := ⟨base, []⟩ }

def Frame.on (base : L) (f : Frame ν L) : Frame ν L :=
  { f with locator := some (f.locator.getD base) }

@[simp] theorem Frame.on_node (base : L) (f : Frame ν L) : (f.on base).node = f.node := rfl

@[simp] theorem Frame.on_multiple (base : L) (f : Frame ν L) :
    (f.on base).multiple = f.multiple := rfl

namespace Walk

variable (d : Driver L) (base : L)

theorem step_on (f : Frame ν L) (hop : Hop) :
    (step g d o (f.on base) hop).result =
      (step g (d.under base) o f hop).result.map (Frame.on base) := by
  -- Both sides have the same scope, so that they locate the same.
  rw [step_result, step_result, Frame.on_node]
  cases g.lookup f.node hop.name with
  | error e => rfl
  | ok n =>
      cases hop with
      | plain name =>
          change (plain g d o (f.on base) n).result =
            (plain g (d.under base) o f n).result.map (Frame.on base)
          rw [plain_result, plain_result, Frame.on_node, Frame.on_multiple]
          split
          · rfl
          · split
            · rfl
            · cases g.query n <;> rfl
      | picked name p =>
          change (picked g d o (f.on base) n name p).result =
            (picked g (d.under base) o f n name p).result.map (Frame.on base)
          rw [picked_result, picked_result]
          split
          · rfl
          · cases g.query n with
            | error e => rfl
            | ok q =>
                by_cases hwritable : p.Writable
                · simp only [Except.bind, if_pos hwritable]
                  cases p <;> rfl
                · simp only [Except.bind, if_neg hwritable]
                  rfl

/-- Hops from a locator are hops from nowhere with that locator as the root. -/
theorem hops_on (f : Frame ν L) (hs : List Hop) :
    (hops g d o (f.on base) hs).result =
      (hops g (d.under base) o f hs).result.map (Frame.on base) := by
  induction hs generalizing f with
  | nil => rfl
  | cons hop hs ih =>
      rw [hops_cons_result, hops_cons_result, step_on]
      cases (step g (d.under base) o f hop).result with
      | error e => rfl
      | ok f' => exact ih f'

end Walk

end Under

/-! ## Chains under another root -/

namespace Chain

def belowRoot : List Part → List Part
  | .root _ :: ps => ps
  | ps => ps

theorem belowRoot_append (ps : List Part) {p : Part} (hp : belowRoot [p] = [p]) :
    belowRoot (ps ++ [p]) = belowRoot ps ++ [p] := by
  cases ps with
  | nil => exact hp
  | cons first ps => cases first <;> rfl

/-- The chain with another one in the place of the document root. -/
def rebased (base c : Chain) : Chain :=
  ⟨base.parts ++ belowRoot c.parts, if c.engine = .root then base.engine else c.engine⟩

variable (base : Chain)

theorem rebased_root (selector : String) : base.rebased ⟨[.root selector], .root⟩ = base := by
  simp [rebased, belowRoot]

theorem rebased_extend (c : Chain) {p : Part} {e : Engine} (hp : belowRoot [p] = [p])
    (he : e ≠ .root) : base.rebased (c.extend p e) = (base.rebased c).extend p e := by
  rw [rebased, extend, belowRoot_append c.parts hp, if_neg he, extend, rebased, List.append_assoc]

theorem rebased_elementAt (c : Chain) (i : Int) :
    base.rebased (c.elementAt i) = (base.rebased c).elementAt i :=
  base.rebased_extend c rfl (by decide)

theorem rebased_withText (c : Chain) (text : String) :
    base.rebased (c.withText text) = (base.rebased c).withText text :=
  base.rebased_extend c rfl (by decide)

theorem rebased_all (jsEngine : String) (scope : Chain) (q : Query) :
    base.rebased (all jsEngine scope q) = all jsEngine (base.rebased scope) q := by
  rw [all, all]
  cases q.type with
  | css => exact rebased_extend _ _ rfl (by decide)
  | xpath => exact rebased_extend _ _ rfl (by decide)
  | js => exact rebased_extend _ _ rfl (by decide)
  | cssContainingText =>
      dsimp only
      rw [rebased_extend _ _ rfl (by decide), rebased_extend _ _ rfl (by decide)]

/-- The root is never combined with a text, so neither may be what replaces it. -/
theorem rebased_combine? (hbase : base.engine ≠ .css) (c : Chain) (text : String) :
    (base.rebased c).combine? text = (c.combine? text).map base.rebased := by
  have hengine : (base.rebased c).engine = .css ↔ c.engine = .css := by
    by_cases hroot : c.engine = .root
    · simp [rebased, hroot, hbase]
    · simp [rebased, hroot]
  rw [combine?, combine?]
  by_cases hcss : c.engine = .css
  · rw [if_pos hcss, if_pos (hengine.2 hcss), Option.map_some,
      rebased_extend _ _ rfl (by decide)]
  · rw [if_neg hcss, if_neg (hengine.not.2 hcss), Option.map_none]

variable (naming : Naming)

theorem related_rebased :
    Driver.Related (fun c c' => c' = base.rebased c) (driver naming [])
      ((driver naming []).under base) where
  root := (base.rebased_root naming.rootSelector).symm
  locate := by
    rintro scope _ rfl q multiple
    have hall := base.rebased_all naming.jsEngine scope q
    cases multiple with
    | true => exact hall.symm
    | false =>
        change (all naming.jsEngine (base.rebased scope) q).first =
          base.rebased (all naming.jsEngine scope q).first
        rw [first, first, rebased_elementAt, hall]
  elementAt := by
    rintro c _ rfl i
    exact (base.rebased_elementAt c i).symm

/-- Without texts no scan meets the wanted one, under whatever root. -/
theorem chosen_rebased (hbase : base.engine ≠ .css) (combine : Bool) (c : Chain)
    (wanted : String) :
    TextMatch.chosen ((driver naming []).under base) combine (base.rebased c) wanted =
      base.rebased (TextMatch.chosen (driver naming []) combine c wanted) := by
  apply TextMatch.chosen_map (scansByPosition naming []) (scansByPosition naming [])
  · cases combine with
    | false => rfl
    | true =>
        change (((base.rebased c).combine? wanted).map _).map _ = ((c.combine? wanted).map _).map _
        rw [base.rebased_combine? hbase]
        simp [Function.comp_def]
  · exact fun l => (base.rebased_elementAt l 0).symm
  · exact (base.rebased_withText c wanted).symm
  · exact fun i => (base.rebased_elementAt c i).symm
  · rfl

end Chain

section Mounting

variable {ν : Type} {g : Graph ν} {naming : Naming} {o : Options}

theorem hops_rebased {base : Chain} (hbase : base.engine ≠ .css) (mount : ν) (hs : List Hop) :
    Alike (Frame.Related fun c c' => c' = base.rebased c)
      (Walk.hops g (Chain.driver naming []) o (Walk.start mount) hs).result
      (Walk.hops g ((Chain.driver naming []).under base) o (Walk.start mount) hs).result := by
  refine Walk.hops_related g o (Chain.related_rebased base naming) ?_ (Walk.start_related mount) hs
  rintro c _ wanted rfl
  exact Chain.chosen_rebased base naming hbase o.combine c wanted

/-- What hops from a component yield, and what they yield behind a locator that
leads to it. -/
inductive Mounted (naming : Naming) : Option Chain → Option Chain → Option Chain → Prop
  | unscoped (c : Option Chain) : Mounted naming none c c
  | kept (l : Chain) : Mounted naming (some l) none (some l)
  | moved (l : Chain) (rest : List Part) (engine : Engine) :
      Mounted naming (some l) (some ⟨.root naming.rootSelector :: rest, engine⟩)
        (some ⟨l.parts ++ rest, engine⟩)

/-- A chain that a component yields begins with the document root. -/
theorem mounted_rebased {base c : Chain} {mount : ν} {hs : List Hop}
    (h : (resolve g (Chain.driver naming []) o mount hs).result = .ok (some c)) :
    Mounted naming (some base) (some c) (some (base.rebased c)) := by
  obtain ⟨moves, _, _, hparts⟩ := (narrows_chain g naming [] o mount).front hs c h
  obtain ⟨f, hhops, hl⟩ := exists_frame_of_resolve h
  have htagged := Walk.tagged_of_hops (Chain.tags naming []) (Chain.scansByPosition naming []) hhops
  have hengine : c.engine ≠ .root := htagged.engine_ne_root hl
  obtain ⟨parts, engine⟩ := c
  change parts = .root naming.rootSelector :: _ at hparts
  subst hparts
  rw [Chain.rebased, if_neg hengine]
  exact .moved base _ engine

theorem mounted_hops {base : Chain} (hbase : base.engine ≠ .css) (mount : ν) {hs : List Hop}
    (hne : hs ≠ []) :
    Alike (Mounted naming (some base)) (resolve g (Chain.driver naming []) o mount hs).result
      ((Walk.hops g (Chain.driver naming []) o ((Walk.start mount).on base) hs).result.map
        Frame.locator) := by
  have hresolve : (resolve g (Chain.driver naming []) o mount hs).result = _ :=
    resolve_result_of_ne_nil hne
  have hunder : Alike (Frame.Related fun c c' => c' = base.rebased c)
      (Walk.hops g (Chain.driver naming []) o (Walk.start mount) hs).result _ :=
    hops_rebased hbase mount hs
  -- First the chain becomes the document root, then the root is replaced.
  rw [Walk.hops_on]
  generalize (Walk.hops g (Chain.driver naming []) o (Walk.start mount) hs).result = x
    at hresolve hunder
  generalize (Walk.hops g ((Chain.driver naming []).under base) o (Walk.start mount) hs).result = y
    at hunder
  cases hunder with
  | error e =>
      rw [hresolve]
      exact .error e
  | @ok f f' hrelated =>
      obtain ⟨locator, node, multiple⟩ := f
      obtain ⟨locator', node', multiple'⟩ := f'
      rw [hresolve]
      refine .ok ?_
      cases hrelated.locator with
      | none => exact .kept base
      | some hl =>
          subst hl
          exact mounted_rebased hresolve

/-- A dry run without texts. If hops lead to a component by a locator of a single
element, or by none, then more hops behind them fail as they do from the component,
or yield the same, but with that locator in the place of the document root. -/
theorem resolve_mounted {root mount : ν} {before after : List Hop} {l : Option Chain}
    (hbefore : (resolve g (Chain.driver naming []) o root before).result = .ok l)
    (hmount : g.nodeAt? (.component root) (before.map Hop.name) = some (.component mount))
    (hsingle : ∀ c, l = some c → c.engine = .nth) (hafter : after ≠ []) :
    Alike (Mounted naming l) (resolve g (Chain.driver naming []) o mount after).result
      (resolve g (Chain.driver naming []) o root (before ++ after)).result := by
  obtain ⟨f, hhops, hl⟩ := exists_frame_of_resolve hbefore
  have hnode : f.node = .component mount :=
    Option.some.inj ((Walk.nodeAt?_of_hops hhops).symm.trans hmount)
  have htagged := Walk.tagged_of_hops (Chain.tags naming []) (Chain.scansByPosition naming []) hhops
  have happend : (resolve g (Chain.driver naming []) o root (before ++ after)).result =
      (Walk.hops g (Chain.driver naming []) o f after).result.map Frame.locator := by
    have hne : before ++ after ≠ [] := List.append_ne_nil_of_right_ne_nil before hafter
    rw [resolve_result_of_ne_nil hne, Walk.hops_append, Run.result_bind_of_ok hhops]
  rw [happend]
  cases l with
  | none =>
      -- Only groupings were met, and the walk starts over.
      have hstart : f = Walk.start mount := by
        obtain ⟨locator, node, multiple⟩ := f
        cases hl
        cases hnode
        cases htagged.absent rfl
        rfl
      rw [hstart, resolve_result_of_ne_nil hafter]
      exact Alike.map fun f' _ => .unscoped f'.locator
  | some base =>
      have hnth : base.engine = .nth := hsingle base rfl
      have hon : f = (Walk.start mount).on base := by
        have hmultiple := htagged.multiple_eq_false hl hnth
        obtain ⟨locator, node, multiple⟩ := f
        cases hl
        cases hnode
        cases hmultiple
        rfl
      rw [hon]
      refine mounted_hops ?_ mount hafter
      rw [hnth]
      exact fun h => by cases h

/-- The name in the second row is the name in a row, behind the second row. -/
theorem resolve_mounted_rows :
    (resolve rowsStore.graph (Chain.driver {} []) {} 1 [.plain "Name"]).result =
        .ok (some ⟨[.root "html", .css "td.name", .nth 0], .nth⟩) ∧
      (resolve rowsStore.graph (Chain.driver {} []) {} 0
        ([.picked "Rows" (.index 2)] ++ [.plain "Name"])).result =
          .ok (some ⟨[.root "html", .css "tr", .nth 1, .css "td.name", .nth 0], .nth⟩) := by
  have hname : (resolve rowsStore.graph (Chain.driver {} []) {} 1 [.plain "Name"]).result =
      .ok (some ⟨[.root "html", .css "td.name", .nth 0], .nth⟩) := rfl
  have hrow : (resolve rowsStore.graph (Chain.driver {} []) {} 0
      [.picked "Rows" (.index 2)]).result =
      .ok (some ⟨[.root "html", .css "tr", .nth 1], .nth⟩) := rfl
  have hmount : rowsStore.graph.nodeAt? (.component 0) ["Rows"] = some (.component 1) := rfl
  have hsingle : ∀ c, some (⟨[.root "html", .css "tr", .nth 1], .nth⟩ : Chain) = some c →
      c.engine = .nth := by
    intro c hc
    cases hc
    rfl
  have hafter : [Hop.plain "Name"] ≠ [] := List.cons_ne_nil _ _
  have hmounted := resolve_mounted hrow hmount hsingle hafter
  rw [hname] at hmounted
  refine ⟨hname, ?_⟩
  generalize (resolve rowsStore.graph (Chain.driver {} []) {} 0
    ([.picked "Rows" (.index 2)] ++ [.plain "Name"])).result = x at hmounted ⊢
  cases hmounted with
  | ok h =>
      cases h
      rfl

end Mounting

end PageAtlas
