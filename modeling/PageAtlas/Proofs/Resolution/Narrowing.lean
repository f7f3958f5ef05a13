import PageAtlas.Proofs.Resolution.Agreement
import PageAtlas.Proofs.Resolution.Cardinality
import PageAtlas.Proofs.Resolution.Notes

/-!
# Hops narrow the scope

A plain hop onto a grouping keeps the locator. Any other hop puts moves behind
those of its scope, also where the collection is located anew together with a
text. So the root selector stands at the front only, and the locator of a path
begins with the locator of each path that it continues.
-/

namespace PageAtlas

open PageAtlas.Path

namespace Path.Hop

/-- The hop is plain and leads to a node without a selector. -/
def Groups {ν : Type} (g : Graph ν) (n : Node ν) : Hop → Prop
  | plain _ => g.hasSelector n = false
  | picked .. => False

/-- The moves that a hop adds to its scope, given the query of its node. -/
inductive Adds (jsEngine : String) (q : Query) : Hop → List Move → Prop
  | all (name : String) : Adds jsEngine q (.plain name) [.ofQuery jsEngine q]
  | first (name : String) : Adds jsEngine q (.plain name) [.ofQuery jsEngine q, .first]
  | index (name : String) (n : Int) :
      Adds jsEngine q (.picked name (.index n)) [.ofQuery jsEngine q, .element (zeroBased n)]
  | combined (name wanted : String) (hcss : q.type = .css) :
      Adds jsEngine q (.picked name (.text wanted)) [.containing q.selector wanted, .first]
  | found (name wanted : String) (i : Nat) :
      Adds jsEngine q (.picked name (.text wanted)) [.ofQuery jsEngine q, .element i]
  | unmatched (name wanted : String) :
      Adds jsEngine q (.picked name (.text wanted)) [.ofQuery jsEngine q, .withText wanted, .first]

namespace Adds

variable {jsEngine : String} {q : Query} {hop : Hop} {moves : List Move}

theorem ne_nil (h : hop.Adds jsEngine q moves) : moves ≠ [] := by
  cases h <;> exact List.cons_ne_nil _ _

theorem root_notMem (h : hop.Adds jsEngine q moves) (selector : String) :
    Move.root selector ∉ moves := by
  have hquery : Move.root selector ≠ .ofQuery jsEngine q := by
    rw [Move.ofQuery]
    cases q.type <;> simp
  cases h <;> simp [hquery]

end Adds

end Path.Hop

/-! ## On trails -/

namespace Trail

theorem combine?_ofQuery (t : Trail) (jsEngine : String) (q : Query) (wanted : String) :
    (t.extend (.ofQuery jsEngine q)).combine? wanted =
      if q.type = .css then some ⟨t.moves, .containing q.selector wanted⟩ else none := by
  rw [Move.ofQuery]
  cases q.type <;> simp [combine?, extend]

/-- A pick by text adds to the scope of its collection. -/
theorem adds_chosen (naming : Naming) (texts : Trail → List String) (combine : Bool)
    (scope : Trail) (q : Query) (name wanted : String) :
    ∃ moves, Hop.Adds naming.jsEngine q (.picked name (.text wanted)) moves ∧
      (TextMatch.chosen (driver naming texts) combine
        (scope.extend (.ofQuery naming.jsEngine q)) wanted).moves = scope.moves ++ moves := by
  cases hcombined : TextMatch.combined? (driver naming texts) combine
      (scope.extend (.ofQuery naming.jsEngine q)) wanted with
  | some query =>
      rw [TextMatch.chosen_of_combined hcombined]
      rw [TextMatch.combined?] at hcombined
      split at hcombined
      · change ((scope.extend _).combine? wanted).map _ = some query at hcombined
        rw [combine?_ofQuery] at hcombined
        split at hcombined
        · next hcss =>
          -- The combined query stands in the place of the collection.
          cases hcombined
          exact ⟨_, .combined name wanted hcss, List.append_assoc _ _ _⟩
        · cases hcombined
      · cases hcombined
  | none =>
      rw [TextMatch.chosen_of_scan (scansByPosition naming texts) hcombined]
      split
      · exact ⟨_, .found name wanted _, List.append_assoc _ _ _⟩
      · refine ⟨_, .unmatched name wanted, ?_⟩
        simp [driver, moves_extend]

end Trail

variable {ν : Type} {g : Graph ν} {naming : Naming} {texts : Trail → List String} {o : Options}

namespace Walk

/-- A hop keeps the trail, or adds to that of its scope. -/
theorem moves_of_next {f f' : Frame ν Trail} {hop : Hop}
    (h : Next g (Trail.driver naming texts) o f hop f') :
    (hop.Groups g f'.node ∧ f'.locator = f.locator) ∨
      ¬ hop.Groups g f'.node ∧ ∃ t q moves, f'.locator = some t ∧ g.query f'.node = .ok q ∧
        hop.Adds naming.jsEngine q moves ∧
        t.moves = (scopeLocator (Trail.driver naming texts) f).moves ++ moves := by
  cases h with
  | grouping hlookup hselector => exact Or.inl ⟨hselector, rfl⟩
  | @matched name n q hlookup hselector hscope hquery =>
      have hnot : ¬ Hop.Groups g n (.plain name) := by
        rw [Hop.Groups, hselector]
        exact Bool.true_eq_false.mp
      refine Or.inr ⟨hnot, ?_⟩
      cases g.isCollection n || f.multiple with
      | true => exact ⟨_, q, _, rfl, hquery, .all name, rfl⟩
      | false => exact ⟨_, q, _, rfl, hquery, .first name, List.append_assoc _ _ _⟩
  | @picked name p n q hlookup hcollection hquery =>
      refine Or.inr ⟨id, ?_⟩
      cases p with
      | index i => exact ⟨_, q, _, rfl, hquery, .index name i, List.append_assoc _ _ _⟩
      | text wanted =>
          obtain ⟨moves, hadds, hmoves⟩ := Trail.adds_chosen naming texts o.combine
            (scopeLocator (Trail.driver naming texts) f) q name wanted
          exact ⟨_, q, moves, rfl, hquery, hadds, hmoves⟩

/-- Later hops leave the moves of a trail at its front. -/
theorem prefix_of_hops {f f' : Frame ν Trail} {t : Trail} {hs : List Hop}
    (hf : f.locator = some t)
    (h : (hops g (Trail.driver naming texts) o f hs).result = .ok f') :
    ∃ t', f'.locator = some t' ∧ t.moves <+: t'.moves := by
  refine hops_induction (P := fun f' : Frame ν Trail =>
    ∃ t', f'.locator = some t' ∧ t.moves <+: t'.moves) ?_ ⟨t, hf, List.prefix_refl _⟩ h
  rintro f₁ f₂ hop ⟨t₁, hf₁, hpre⟩ hnext
  rcases moves_of_next hnext with ⟨_, hl⟩ | ⟨_, t₂, q, moves, hl, _, _, hmoves⟩
  · exact ⟨t₁, hl.trans hf₁, hpre⟩
  · rw [scopeLocator, hf₁, Option.getD_some] at hmoves
    refine ⟨t₂, hl, hpre.trans ?_⟩
    rw [hmoves]
    exact List.prefix_append _ _

/-- The root selector is the first move of a trail, and there are others. -/
theorem root_of_hops {root : ν} {f : Frame ν Trail} {t : Trail} {hs : List Hop}
    (h : (hops g (Trail.driver naming texts) o (start root) hs).result = .ok f)
    (ht : f.locator = some t) :
    ∃ moves, moves ≠ [] ∧ (∀ selector, Move.root selector ∉ moves) ∧
      t.moves = .root naming.rootSelector :: moves := by
  refine hops_induction (P := fun f : Frame ν Trail => ∀ t, f.locator = some t →
    ∃ moves, moves ≠ [] ∧ (∀ selector, Move.root selector ∉ moves) ∧
      t.moves = .root naming.rootSelector :: moves) ?_ ?_ h t ht
  · intro f₁ f₂ hop hf₁ hnext t₂ ht₂
    rcases moves_of_next hnext with ⟨_, hl⟩ | ⟨_, t', q, moves, hl, _, hadds, hmoves⟩
    · exact hf₁ t₂ (hl.symm.trans ht₂)
    · -- The scope consists of the root alone, or begins with it already.
      have hscope : ∃ front, (∀ selector, Move.root selector ∉ front) ∧
          (scopeLocator (Trail.driver naming texts) f₁).moves =
            .root naming.rootSelector :: front := by
        rw [scopeLocator]
        cases hl₁ : f₁.locator with
        | none => exact ⟨[], fun _ => List.not_mem_nil, rfl⟩
        | some t₁ =>
            obtain ⟨front, _, hfront, ht₁⟩ := hf₁ t₁ hl₁
            exact ⟨front, hfront, ht₁⟩
      obtain ⟨front, hfront, hfrontmoves⟩ := hscope
      cases hl.symm.trans ht₂
      refine ⟨front ++ moves, ?_, fun selector hmem => ?_, ?_⟩
      · simp [hadds.ne_nil]
      · exact (List.mem_append.1 hmem).elim (hfront selector) (hadds.root_notMem selector)
      · rw [hmoves, hfrontmoves, List.cons_append]
  · intro t ht
    cases ht

end Walk

/-! ## Resolved locators -/

/-- Hops narrow the scope, in the parts of a driver's locators that are the images
of moves. -/
structure Narrows {L σ : Type} (g : Graph ν) (naming : Naming) (d : Driver L) (o : Options)
    (root : ν) (parts : L → List σ) (image : Move → List σ) : Prop where
  document : parts d.root.value = image (.root naming.rootSelector)
  /-- One more hop keeps the locator if it leads to a grouping. Otherwise it adds
  to the locator, or to the document root if there is none. -/
  hop : ∀ hs x l', (resolve g d o root (hs ++ [x])).result = .ok l' → ∃ l n,
    (hs = [] → l = none) ∧ (hs ≠ [] → (resolve g d o root hs).result = .ok l) ∧
    g.nodeAt? (.component root) ((hs ++ [x]).map Hop.name) = some n ∧
    (l' = l ↔ x.Groups g n) ∧
    (¬ x.Groups g n → ∃ c q moves, l' = some c ∧ g.query n = .ok q ∧
      x.Adds naming.jsEngine q moves ∧ moves.flatMap image ≠ [] ∧
      parts c = parts (l.getD d.root.value) ++ moves.flatMap image)
  /-- The root selector stands at the front and comes from no later move. -/
  front : ∀ hs c, (resolve g d o root hs).result = .ok (some c) → ∃ moves, moves ≠ [] ∧
    (∀ selector, Move.root selector ∉ moves) ∧
    parts c = image (.root naming.rootSelector) ++ moves.flatMap image
  before : ∀ hs later l', hs ≠ [] → (resolve g d o root (hs ++ later)).result = .ok l' →
    ∃ l, (resolve g d o root hs).result = .ok l ∧
      ∀ c, l = some c → ∃ c', l' = some c' ∧ parts c <+: parts c'

theorem narrows_trails (g : Graph ν) (naming : Naming) (texts : Trail → List String) (o : Options)
    (root : ν) : Narrows g naming (Trail.driver naming texts) o root Trail.moves ([·]) where
  document := rfl
  hop := by
    intro hs x l' h
    obtain ⟨f', hhops, rfl⟩ := exists_frame_of_resolve h
    obtain ⟨f, hbefore, hlast⟩ := Walk.hops_append_eq_ok_iff.1 hhops
    obtain ⟨f₁, hnext, hnil⟩ := Walk.hops_cons_eq_ok_iff.1 hlast
    cases hnil
    refine ⟨f.locator, f'.node, ?_, ?_, Walk.nodeAt?_of_hops hhops, ?_⟩
    · rintro rfl
      cases hbefore
      rfl
    · exact fun hne => resolve_eq_ok_iff.2 ⟨hne, f, hbefore, rfl⟩
    · rcases Walk.moves_of_next hnext with ⟨hgroups, hl⟩ |
        ⟨hnot, t, q, moves, hl, hquery, hadds, hmoves⟩
      · exact ⟨iff_of_true hl hgroups, fun hnot => absurd hgroups hnot⟩
      · refine ⟨iff_of_false ?_ hnot, fun _ => ⟨t, q, moves, hl, hquery, hadds, ?_, ?_⟩⟩
        · intro heq
          rw [Walk.scopeLocator, ← heq, hl, Option.getD_some] at hmoves
          exact hadds.ne_nil (List.self_eq_append_right.1 hmoves)
        · simp [hadds.ne_nil]
        · rw [List.flatMap_singleton']
          exact hmoves
  front := by
    intro hs t h
    obtain ⟨f, hhops, hl⟩ := exists_frame_of_resolve h
    obtain ⟨moves, hne, hroot, hmoves⟩ := Walk.root_of_hops hhops hl
    refine ⟨moves, hne, hroot, ?_⟩
    rw [List.flatMap_singleton', hmoves]
    rfl
  before := by
    intro hs later l' hne h
    obtain ⟨f', hhops, rfl⟩ := exists_frame_of_resolve h
    obtain ⟨f, hbefore, hlater⟩ := Walk.hops_append_eq_ok_iff.1 hhops
    refine ⟨f.locator, resolve_eq_ok_iff.2 ⟨hne, f, hbefore, rfl⟩, fun t ht => ?_⟩
    exact Walk.prefix_of_hops ht hlater

/-- What narrows trails narrows their images. -/
theorem Narrows.map {L σ : Type} {d : Driver L} {root : ν} {parts : L → List σ}
    {image : Move → List σ}
    (h : Narrows g naming (Trail.driver naming texts) o root Trail.moves ([·])) (φ : Trail → L)
    (hroot : d.root.value = φ (Trail.driver naming texts).root.value)
    (hparts : ∀ t, parts (φ t) = t.moves.flatMap image) (himage : ∀ m, image m ≠ [])
    (hresolve : ∀ hs, (resolve g d o root hs).result =
      (resolve g (Trail.driver naming texts) o root hs).result.map (Option.map φ)) :
    Narrows g naming d o root parts image where
  document := by
    rw [hroot, hparts]
    exact List.append_nil _
  hop := by
    intro hs x l' hl'
    rw [hresolve] at hl'
    obtain ⟨t', ht', rfl⟩ := Outcome.map_eq_ok_iff.1 hl'
    obtain ⟨t, n, hnil, hbefore, hn, hkeeps, hadds⟩ := h.hop hs x t' ht'
    refine ⟨t.map φ, n, ?_, ?_, hn, ?_⟩
    · intro hs0
      rw [hnil hs0]
      rfl
    · intro hne
      rw [hresolve, hbefore hne]
      rfl
    · by_cases hgroups : x.Groups g n
      · have hsame : t'.map φ = t.map φ := congrArg (Option.map φ) (hkeeps.2 hgroups)
        exact ⟨iff_of_true hsame hgroups, fun hnot => absurd hgroups hnot⟩
      · obtain ⟨c, q, moves, rfl, hquery, hmoves, _, hc⟩ := hadds hgroups
        have hne : moves.flatMap image ≠ [] := by
          obtain ⟨m, ms, rfl⟩ := List.exists_cons_of_ne_nil hmoves.ne_nil
          simp [himage m]
        have hscope : (t.map φ).getD d.root.value =
            φ (t.getD (Trail.driver naming texts).root.value) := by
          rw [hroot]
          cases t <;> rfl
        have happend : parts (φ c) =
            parts ((t.map φ).getD d.root.value) ++ moves.flatMap image := by
          rw [hscope, hparts, hparts, hc, List.flatMap_singleton', List.flatMap_append]
        refine ⟨iff_of_false ?_ hgroups,
          fun _ => ⟨φ c, q, moves, rfl, hquery, hmoves, hne, happend⟩⟩
        intro heq
        rw [← heq] at happend
        exact hne (List.self_eq_append_right.1 happend)
  front := by
    intro hs l hl
    rw [hresolve] at hl
    obtain ⟨t, ht, hmap⟩ := Outcome.map_eq_ok_iff.1 hl
    obtain ⟨c, rfl, rfl⟩ := Option.map_eq_some_iff.1 hmap
    obtain ⟨moves, hne, hnot, hc⟩ := h.front hs c ht
    refine ⟨moves, hne, hnot, ?_⟩
    rw [hparts, hc, List.flatMap_singleton', List.flatMap_append]
    exact congrArg (· ++ _) (List.append_nil _)
  before := by
    intro hs later l' hne hl'
    rw [hresolve] at hl'
    obtain ⟨t', ht', rfl⟩ := Outcome.map_eq_ok_iff.1 hl'
    obtain ⟨t, ht, hpre⟩ := h.before hs later t' hne ht'
    refine ⟨t.map φ, ?_, fun l hl => ?_⟩
    · rw [hresolve, ht]
      rfl
    · obtain ⟨c, rfl, rfl⟩ := Option.map_eq_some_iff.1 hl
      obtain ⟨c', rfl, more, hmore⟩ := hpre c rfl
      refine ⟨φ c', rfl, ?_⟩
      rw [hparts, hparts, ← hmore, List.flatMap_append]
      exact List.prefix_append _ _

/-- What holds of the document root, and of all that hops add, holds of every part of a
locator. -/
theorem Narrows.forall_parts {L σ : Type} {d : Driver L} {root : ν} {parts : L → List σ}
    {image : Move → List σ} {P : σ → Prop} (h : Narrows g naming d o root parts image)
    (hroot : ∀ p ∈ image (.root naming.rootSelector), P p) {hs : List Hop}
    (hadds : ∀ keys n q hop moves, g.nodeAt? (.component root) keys = some n →
      g.query n = .ok q → hop ∈ hs → hop.Adds naming.jsEngine q moves →
      ∀ m ∈ moves, ∀ p ∈ image m, P p)
    {c : L} (hc : (resolve g d o root hs).result = .ok (some c)) : ∀ p ∈ parts c, P p := by
  induction hs using List.reverseRecOn generalizing c with
  | nil => exact absurd rfl (resolve_eq_ok_iff.1 hc).1
  | append_singleton hs hop ih =>
      obtain ⟨l, n, hnone, hsome, hn, hkeeps, hmore⟩ := h.hop hs hop _ hc
      have hscope : ∀ c₀, l = some c₀ → ∀ p ∈ parts c₀, P p := by
        rintro c₀ rfl
        have hne : hs ≠ [] := fun hnil => nomatch hnone hnil
        refine ih (fun keys n q x moves hn hq hx => ?_) (hsome hne)
        exact hadds keys n q x moves hn hq (List.mem_append_left _ hx)
      by_cases hgroups : hop.Groups g n
      · exact hscope c (hkeeps.2 hgroups).symm
      · obtain ⟨c₁, q, moves, hc₁, hquery, hmoves, -, hparts⟩ := hmore hgroups
        cases hc₁
        have hlast : hop ∈ hs ++ [hop] := List.mem_append_right _ List.mem_cons_self
        intro p hp
        rw [hparts, List.mem_append] at hp
        rcases hp with hp | hp
        · cases l with
          | some c₀ => exact hscope c₀ rfl p hp
          | none =>
              rw [Option.getD_none, h.document] at hp
              exact hroot p hp
        · obtain ⟨m, hm, hpm⟩ := List.mem_flatMap.1 hp
          exact hadds _ n q hop moves hn hquery hlast hmoves m hm p hpm

theorem Alike.eq_map {L : Type} {φ : Trail → L} {x : Except Failure (Option Trail)}
    {y : Except Failure (Option L)} (h : Alike (Option.Rel fun t l => l = φ t) x y) :
    y = x.map (Option.map φ) := by
  cases h with
  | error e => rfl
  | ok h =>
      cases h with
      | none => rfl
      | some h =>
          subst h
          rfl

theorem narrows_chain (g : Graph ν) (naming : Naming) (texts : Chain.Texts) (o : Options)
    (root : ν) : Narrows g naming (Chain.driver naming texts) o root Chain.parts Move.parts := by
  refine (narrows_trails g naming (Trail.textsOf naming texts) o root).map Trail.chain rfl
    (fun _ => rfl) Move.parts_ne_nil fun hs => ?_
  have hwalk := hops_chain g naming texts o (Walk.start_related root) hs
  exact (resolve_related g o root hs hwalk).eq_map

/-- A walk on a page follows the trails that know what the page shows. -/
theorem hops_page (g : Graph ν) (naming : Naming) (page : PageTexts) (o : Options) (root : ν)
    (hs : List Hop) :
    Alike (Frame.Related fun (t : Trail) l => l = t.locator)
      (Walk.hops g (Trail.driver naming fun t => page.evaluate t.locator.steps) o
        (Walk.start root) hs).result
      (Walk.hops g (PageLocator.driver naming page) o (Walk.start root) hs).result := by
  refine Walk.hops_related g o (Trail.locator_related naming _ page) ?_
    (Walk.start_related root) hs
  rintro t _ wanted rfl
  apply Trail.chosen_locator
  exact PageLocator.enumerated_eq_evaluate naming page t.locator

theorem narrows_page (g : Graph ν) (naming : Naming) (page : PageTexts) (o : Options) (root : ν) :
    Narrows g naming (PageLocator.driver naming page) o root PageLocator.steps
      fun m => [m.step] := by
  refine (narrows_trails g naming (fun t => page.evaluate t.locator.steps) o root).map
    Trail.locator rfl ?_ (fun _ => List.cons_ne_nil _ _) fun hs => ?_
  · exact fun t => List.map_eq_flatMap
  · exact (resolve_related g o root hs (hops_page g naming page o root hs)).eq_map

/-- Whatever the texts: a plain hop onto a grouping is the only one that keeps the
locator. Every other hop adds to the locator reached, or to the document root if
there was none, and adds no root selector. So a path that can be resolved has
locators for all paths which it continues, and begins with each of them, both in
the parts of a chain and in the steps on a page. -/
theorem resolve_narrows (g : Graph ν) (naming : Naming) (o : Options) (root : ν) :
    (∀ texts, Narrows g naming (Chain.driver naming texts) o root Chain.parts Move.parts) ∧
      ∀ page, Narrows g naming (PageLocator.driver naming page) o root PageLocator.steps
        fun m => [m.step] :=
  ⟨fun texts => narrows_chain g naming texts o root, fun page => narrows_page g naming page o root⟩

/-- The links are located again, together with the text, under the row that was
found before. -/
theorem resolve_narrows_table :
    ∃ l l', (resolve tableGraph (PageLocator.driver {} tablePage) {} 0
        [.picked "Rows" (.text "Total")]).result = .ok (some l) ∧
      (resolve tableGraph (PageLocator.driver {} tablePage) {} 0 tableHops).result =
        .ok (some l') ∧
      l'.steps = l.steps ++ [.select "a" (some "Home"), .first] ∧ l.steps <+: l'.steps := by
  have hrow : (resolve tableGraph (PageLocator.driver {} tablePage) {} 0
      [.picked "Rows" (.text "Total")]).result =
        .ok (some ⟨[.select "html" none, .select "xpath=//tr" none, .nth 1], .nth, none, none⟩) :=
    rfl
  have hlink : (resolve tableGraph (PageLocator.driver {} tablePage) {} 0 tableHops).result =
      .ok (some ⟨[.select "html" none, .select "xpath=//tr" none, .nth 1,
        .select "a" (some "Home"), .first], .nth, none, none⟩) := rfl
  have hnarrows := (resolve_narrows tableGraph {} {} 0).2 tablePage
  obtain ⟨l, hl, hpre⟩ := hnarrows.before [.picked "Rows" (.text "Total")]
    [.picked "Links" (.text "Home")] _ (List.cons_ne_nil _ _) hlink
  cases hl.symm.trans hrow
  obtain ⟨l', hl', hsteps⟩ := hpre _ rfl
  cases hl'
  exact ⟨_, _, hrow, hlink, rfl, hsteps⟩

end PageAtlas
