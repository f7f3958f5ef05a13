import PageAtlas.Graph.Store
import PageAtlas.Proofs.Locator.Trail

/-!
# Agreement of the dry run and the page

Resolving hops for a chain and for a page locator fails alike, whatever texts
either side knows. If the collections that are matched by text enumerate the
same texts on both sides, the two locators are images of one trail.
-/

namespace PageAtlas

namespace TextMatch

variable {L M : Type} {d : Driver L} {d' : Driver M} {φ : L → M}

/-- A map between locators that commutes with what a match by text uses of the
drivers commutes with the match, if both sides meet the same texts. -/
theorem chosen_map (hd : d.ScansByPosition) (hd' : d'.ScansByPosition) {combine : Bool}
    {collection : L} {wanted : String}
    (hcombined : (combined? d' combine (φ collection) wanted).map Called.value =
      (combined? d combine collection wanted).map fun q => φ q.value)
    (hfirst : ∀ l, d'.first (φ l) = φ (d.first l))
    (hwith : (d'.withText (φ collection) wanted).value = φ (d.withText collection wanted).value)
    (helement : ∀ i, d'.elementAt (φ collection) i = φ (d.elementAt collection i))
    (htexts : d'.enumerated (φ collection) = d.enumerated collection) :
    chosen d' combine (φ collection) wanted = φ (chosen d combine collection wanted) := by
  cases hq : combined? d combine collection wanted with
  | some q =>
      rw [hq, Option.map_some] at hcombined
      obtain ⟨q', hq', hval⟩ := Option.map_eq_some_iff.1 hcombined
      rw [chosen_of_combined hq, chosen_of_combined hq', hval, hfirst]
  | none =>
      rw [hq, Option.map_none, Option.map_eq_none_iff] at hcombined
      rw [chosen_of_scan hd hq, chosen_of_scan hd' hcombined, htexts]
      split
      · exact helement _
      · rw [hwith, hfirst]

end TextMatch

namespace Trail

/-- A trail that ends in a collection of a dry run knows the texts of its chain. -/
def textsOf (naming : Naming) (shown : Chain.Texts) (t : Trail) : List String :=
  (Chain.driver naming shown).enumerated t.chain

def recorder (naming : Naming) (shown : Chain.Texts) : Driver Trail :=
  driver naming (textsOf naming shown)

theorem chosen_chain (naming : Naming) (shown : Chain.Texts) (combine : Bool) (t : Trail)
    (wanted : String) :
    TextMatch.chosen (Chain.driver naming shown) combine t.chain wanted =
      (TextMatch.chosen (recorder naming shown) combine t wanted).chain := by
  apply TextMatch.chosen_map (scansByPosition naming _) (Chain.scansByPosition naming shown)
  · cases combine with
    | false => rfl
    | true =>
        simp only [TextMatch.combined?, Chain.driver, driver, if_true, Option.map_map,
          chain_combine?]
        rfl
  · exact fun l => (l.chain_extend .first).symm
  · exact (t.chain_extend (.withText wanted)).symm
  · exact fun i => (t.chain_extend (.element i)).symm
  · exact (enumerated_driver naming (textsOf naming shown) t).symm

theorem chosen_locator (naming : Naming) (texts : Trail → List String) (page : PageTexts)
    (combine : Bool) (t : Trail) (wanted : String)
    (htexts : (PageLocator.driver naming page).enumerated t.locator = texts t) :
    TextMatch.chosen (PageLocator.driver naming page) combine t.locator wanted =
      (TextMatch.chosen (driver naming texts) combine t wanted).locator := by
  apply TextMatch.chosen_map (scansByPosition naming _) (PageLocator.scansByPosition naming page)
  · cases combine with
    | false => rfl
    | true =>
        simp only [TextMatch.combined?, PageLocator.driver, driver, if_true,
          Option.map_map, locator_combine?]
        rfl
  · exact fun l => (l.locator_extend .first).symm
  · exact (t.locator_extend (.withText wanted)).symm
  · exact fun i => (t.locator_extend (.element i)).symm
  · exact htexts.trans (enumerated_driver naming texts t).symm

end Trail

section Agreement

variable {ν : Type} (g : Graph ν) (naming : Naming) (shown : Chain.Texts) (page : PageTexts)
  (o : Options)

/-- At every hop that picks by text, the collection of the dry run and the one
of the page enumerate the same texts. -/
def SameTexts : Frame ν Chain → Frame ν PageLocator → List Path.Hop → Prop
  | _, _, [] => True
  | fc, fp, h :: hs =>
      (∀ name wanted n q, h = .picked name (.text wanted) → g.lookup fc.node name = .ok n →
        g.isCollection n = true → g.query n = .ok q →
          (PageLocator.driver naming page).enumerated
              (Walk.matchesOf (PageLocator.driver naming page) fp q true) =
            (Chain.driver naming shown).enumerated
              (Walk.matchesOf (Chain.driver naming shown) fc q true)) ∧
      ∀ fc' fp', (Walk.step g (Chain.driver naming shown) o fc h).result = .ok fc' →
        (Walk.step g (PageLocator.driver naming page) o fp h).result = .ok fp' →
          SameTexts fc' fp' hs

/-- Whatever the texts, the two sides fail alike. -/
theorem hops_alike (root : ν) (hs : List Path.Hop) :
    Alike (Frame.Related fun _ _ => True)
      (Walk.hops g (Chain.driver naming shown) o (Walk.start root) hs).result
      (Walk.hops g (PageLocator.driver naming page) o (Walk.start root) hs).result :=
  Walk.hops_related g o ⟨trivial, fun _ _ _ => trivial, fun _ _ => trivial⟩
    (fun _ _ _ _ => trivial) (Walk.start_related root) hs

theorem hops_chain {ft : Frame ν Trail} {fc : Frame ν Chain}
    (hc : Frame.Related (fun (t : Trail) c => c = t.chain) ft fc) (hs : List Path.Hop) :
    Alike (Frame.Related fun (t : Trail) c => c = t.chain)
      (Walk.hops g (Trail.recorder naming shown) o ft hs).result
      (Walk.hops g (Chain.driver naming shown) o fc hs).result := by
  refine Walk.hops_related g o (Trail.chain_related naming _ shown) ?_ hc hs
  rintro t _ wanted rfl
  exact Trail.chosen_chain naming shown o.combine t wanted

/-- The induction follows all three walks: the texts are compared on the chain
and the page, and the trail carries both. -/
theorem hops_locator {ft : Frame ν Trail} {fc : Frame ν Chain} {fp : Frame ν PageLocator}
    (hc : Frame.Related (fun (t : Trail) c => c = t.chain) ft fc)
    (hp : Frame.Related (fun (t : Trail) l => l = t.locator) ft fp) {hs : List Path.Hop}
    (htexts : SameTexts g naming shown page o fc fp hs) :
    Alike (Frame.Related fun (t : Trail) l => l = t.locator)
      (Walk.hops g (Trail.recorder naming shown) o ft hs).result
      (Walk.hops g (PageLocator.driver naming page) o fp hs).result := by
  induction hs generalizing ft fc fp with
  | nil => exact .ok hp
  | cons h hs ih =>
      obtain ⟨hhead, htail⟩ := htexts
      have hchain := Trail.chain_related naming (Trail.textsOf naming shown) shown
      have hpage := Trail.locator_related naming (Trail.textsOf naming shown) page
      have hstepc : Alike (Frame.Related fun (t : Trail) c => c = t.chain)
          (Walk.step g (Trail.recorder naming shown) o ft h).result
          (Walk.step g (Chain.driver naming shown) o fc h).result := by
        refine Walk.step_related g o hchain hc h fun _ wanted _ q _ _ _ _ => ?_
        rw [Walk.matchesOf_related hchain hc q true]
        exact Trail.chosen_chain naming shown o.combine _ wanted
      have hstepp : Alike (Frame.Related fun (t : Trail) l => l = t.locator)
          (Walk.step g (Trail.recorder naming shown) o ft h).result
          (Walk.step g (PageLocator.driver naming page) o fp h).result := by
        refine Walk.step_related g o hpage hp h fun name wanted n q hh hn hcol hq => ?_
        have heq := hhead name wanted n q hh (hc.node ▸ hn) hcol hq
        rw [Walk.matchesOf_related hpage hp q true, Walk.matchesOf_related hchain hc q true] at heq
        rw [Walk.matchesOf_related hpage hp q true]
        exact Trail.chosen_locator naming _ page o.combine _ wanted heq
      rw [Walk.hops_cons_result, Walk.hops_cons_result]
      rcases hstepc.both hstepp with ⟨e, ht, -, hl⟩ | ⟨ft', fc', fp', ht, hc', hp', hrc, hrp⟩
      · rw [ht, hl]
        exact .error e
      · rw [ht, hp']
        exact ih hrc hrp (htail fc' fp' hc' hp')

/-- The two sides fail with the same failure or both succeed, whatever texts
they know. If the collections matched by text enumerate the same texts, there
is no locator on either side, or both locators come from the trail of the same
moves: a query with a text is two parts and one step, the first match is the
part at position zero and the step to the first, and every other move is one
part and one step. -/
theorem resolve_chain_page (root : ν) (hs : List Path.Hop) :
    (∀ e, (resolve g (Chain.driver naming shown) o root hs).result = .error e ↔
      (resolve g (PageLocator.driver naming page) o root hs).result = .error e) ∧
    (SameTexts g naming shown page o (Walk.start root) (Walk.start root) hs →
      ∀ c l, (resolve g (Chain.driver naming shown) o root hs).result = .ok c →
        (resolve g (PageLocator.driver naming page) o root hs).result = .ok l →
          (c = none ∧ l = none) ∨
          ∃ t c' l', (resolve g (Trail.recorder naming shown) o root hs).result = .ok (some t) ∧
            c = some c' ∧ l = some l' ∧
            c'.engine = l'.engine ∧ l'.engine = t.last.engine ∧
            c'.parts = t.moves.flatMap Move.parts ∧ l'.steps = t.moves.map Move.step) := by
  refine ⟨fun e => ?_, fun htexts c l hc hl => ?_⟩
  · exact (resolve_related g o root hs (hops_alike g naming shown page o root hs)).error_iff e
  · have hchain := resolve_related g o root hs
      (hops_chain g naming shown o (Walk.start_related root) hs)
    have hpage := resolve_related g o root hs
      (hops_locator g naming shown page o (Walk.start_related root) (Walk.start_related root) htexts)
    rw [hc] at hchain
    obtain ⟨t, ht, hrc⟩ := hchain.exists_right
    rw [hl, ht] at hpage
    have hrl := hpage.related
    cases hrc with
    | none =>
        cases hrl with
        | none => exact Or.inl ⟨rfl, rfl⟩
    | some hrc =>
        cases hrl with
        | some hrl =>
            subst hrc hrl
            exact Or.inr ⟨_, _, _, ht, rfl, rfl, rfl, rfl, rfl, rfl⟩

end Agreement

/-- A table whose rows are found by xpath and hold links found by css. -/
def tableGraph : Graph Nat :=
  Store.graph ⟨[
    { children := [("Rows", .component 1)] },
    { name := some "Rows", selector := some "//tr", selectorType := "xpath", repeated := true,
      children := [("Links", .leaf { name := "Links", selector := "a", repeated := true })] }]⟩

def tableHops : List Path.Hop :=
  [.picked "Rows" (.text "Total"), .picked "Links" (.text "Home")]

def tableTexts : Chain.Texts := [("html >> xpath=//tr", [some "Name", some "Total"])]

def tablePage : PageTexts := [("xpath=//tr", ["Name", "Total"])]

/-- The rows are scanned, the links are combined with the text. -/
theorem resolve_chain_page_table :
    SameTexts tableGraph {} tableTexts tablePage {} (Walk.start 0) (Walk.start 0) tableHops ∧
    ∃ t c l, (resolve tableGraph (Trail.recorder {} tableTexts) {} 0 tableHops).result =
        .ok (some t) ∧
      (resolve tableGraph (Chain.driver {} tableTexts) {} 0 tableHops).result = .ok (some c) ∧
      (resolve tableGraph (PageLocator.driver {} tablePage) {} 0 tableHops).result =
        .ok (some l) ∧
      c.engine = l.engine ∧ c.parts = t.moves.flatMap Move.parts ∧
      l.steps = t.moves.map Move.step := by
  have htexts : SameTexts tableGraph {} tableTexts tablePage {} (Walk.start 0) (Walk.start 0)
      tableHops := by
    refine ⟨?_, fun fc fp hc hp => ⟨?_, fun _ _ _ _ => trivial⟩⟩
    · intro name wanted n q hh hn _ hq
      cases hh
      cases hn
      cases hq
      decide +kernel
    · intro name wanted n q hh hn _ hq
      cases hh
      cases hc
      cases hp
      cases hn
      cases hq
      decide +kernel
  have hc : (resolve tableGraph (Chain.driver {} tableTexts) {} 0 tableHops).result =
      .ok (some ⟨[.root "html", .xpath "//tr", .nth 1, .css "a", .hasText "Home", .nth 0],
        .nth⟩) := rfl
  have hl : (resolve tableGraph (PageLocator.driver {} tablePage) {} 0 tableHops).result =
      .ok (some ⟨[.select "html" none, .select "xpath=//tr" none, .nth 1,
        .select "a" (some "Home"), .first], .nth, none, none⟩) := rfl
  refine ⟨htexts, ?_⟩
  rcases (resolve_chain_page tableGraph {} tableTexts tablePage {} 0 tableHops).2 htexts _ _ hc hl
    with ⟨h, _⟩ | ⟨t, c, l, ht, hcs, hls, he, _, hparts, hsteps⟩
  · cases h
  · exact ⟨t, c, l, ht, hcs ▸ hc, hls ▸ hl, he, hparts, hsteps⟩

end PageAtlas
