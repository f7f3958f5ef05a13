import PageAtlas.Proofs.Graph.Store
import PageAtlas.Proofs.Locator.Composed
import PageAtlas.Proofs.Resolution.Checked

/-!
# How many elements a locator addresses

A walk comes to address several elements by a plain hop onto a collection, and a
single one by a hop that picks it. The tag of a locator tells the two apart: one
that is tagged as a position addresses at most one element at any time.
-/

namespace PageAtlas

open PageAtlas.Path

def Path.Hop.IsPick : Hop → Prop
  | plain _ => False
  | picked .. => True

variable {ν L : Type} {g : Graph ν} {d : Driver L} {o : Options}

/-- Every collection that a plain hop leads to is followed by a hop that picks
one element. -/
def Graph.Narrowed (g : Graph ν) (n : Node ν) (hs : List Hop) : Prop :=
  ∀ before name after m, hs = before ++ .plain name :: after →
    g.nodeAt? n (before.map Hop.name ++ [name]) = some m → g.isCollection m = true →
      ∃ h ∈ after, h.IsPick

namespace Graph

theorem narrowed_nil (n : Node ν) : g.Narrowed n [] := by
  intro before name after m hsplit
  simp at hsplit

theorem narrowed_cons_iff {n n' : Node ν} {hop : Hop} {hs : List Hop}
    (hn : g.lookup n hop.name = .ok n') :
    g.Narrowed n (hop :: hs) ↔
      (hop.IsPick ∨ ¬ g.isCollection n' = true ∨ ∃ h ∈ hs, h.IsPick) ∧ g.Narrowed n' hs := by
  constructor
  · intro h
    constructor
    · cases hop with
      | picked name p => exact Or.inl trivial
      | plain name =>
          right
          by_cases hcol : g.isCollection n' = true
          · have hat : g.nodeAt? n [name] = some n' := nodeAt?_cons hn []
            exact Or.inr (h [] name hs n' rfl hat hcol)
          · exact Or.inl hcol
    · intro before name after m hsplit hat hcol
      refine h (hop :: before) name after m (by rw [hsplit, List.cons_append]) ?_ hcol
      rw [List.map_cons, List.cons_append, nodeAt?_cons hn]
      exact hat
  · rintro ⟨hhead, htail⟩ before name after m hsplit hat hcol
    cases before with
    | nil =>
        obtain ⟨rfl, rfl⟩ := List.cons.inj hsplit
        have hm : g.nodeAt? n' [] = some m := (nodeAt?_cons hn []).symm.trans hat
        cases hm
        rcases hhead with hpick | hsingle | hlater
        · exact hpick.elim
        · exact absurd hcol hsingle
        · exact hlater
    | cons hop' before =>
        obtain ⟨rfl, hrest⟩ := List.cons.inj hsplit
        rw [List.map_cons, List.cons_append, nodeAt?_cons hn] at hat
        exact htail before name after m hrest hat hcol

end Graph

/-! ## The cardinality of a frame -/

namespace Walk

theorem multiple_of_next {f f' : Frame ν L} {hop : Hop} (hscoped : g.Scoped f.node)
    (h : Next g d o f hop f') :
    f'.multiple = true ↔ ¬ hop.IsPick ∧ (f.multiple = true ∨ g.isCollection f'.node = true) := by
  cases h with
  | @grouping name n hlookup hselector =>
      -- A grouping is no collection, so the cardinality is inherited.
      have hcol : ¬ g.isCollection n = true := by
        intro hcol
        have hat : g.nodeAt? f.node [name] = some n := Graph.nodeAt?_cons hlookup []
        rw [hscoped [name] n hat hcol] at hselector
        cases hselector
      simp [Hop.IsPick, hcol]
  | matched => simp [Hop.IsPick, or_comm]
  | picked => simp [Hop.IsPick]

theorem multiple_of_hops {f f' : Frame ν L} {hs : List Hop} (hscoped : g.Scoped f.node)
    (h : (hops g d o f hs).result = .ok f') :
    f'.multiple = true ↔
      ¬ g.Narrowed f.node hs ∨ (f.multiple = true ∧ ¬ ∃ h ∈ hs, h.IsPick) := by
  induction hs generalizing f with
  | nil =>
      cases h
      simp [Graph.narrowed_nil]
  | cons hop hs ih =>
      obtain ⟨f₁, hnext, h⟩ := hops_cons_eq_ok_iff.1 h
      have hlater : (∃ h ∈ hop :: hs, h.IsPick) ↔ hop.IsPick ∨ ∃ h ∈ hs, h.IsPick := by
        simp
      rw [ih (hscoped.lookup hnext.lookup) h, multiple_of_next hscoped hnext,
        Graph.narrowed_cons_iff hnext.lookup, hlater]
      -- What is left is propositional in the hops that pick.
      generalize (∃ h ∈ hs, h.IsPick) = picked
      grind

/-- A walk from a root addresses several elements if and only if some collection
was not narrowed. -/
theorem multiple_iff_not_narrowed {root : ν} {f : Frame ν L} {hs : List Hop}
    (hscoped : g.Scoped (.component root))
    (h : (hops g d o (start root) hs).result = .ok f) :
    f.multiple = true ↔ ¬ g.Narrowed (.component root) hs := by
  rw [multiple_of_hops hscoped h]
  simp [start]

end Walk

/-! ## The tag of a locator -/

def Engine.OfQuery (e : Engine) : Prop := e = .css ∨ e = .xpath ∨ e = .js ∨ e = .cssText

theorem Engine.OfQuery.ne_nth {e : Engine} (h : e.OfQuery) : e ≠ .nth := by
  rintro rfl
  simp [OfQuery] at h

theorem Engine.OfQuery.ne_root {e : Engine} (h : e.OfQuery) : e ≠ .root := by
  rintro rfl
  simp [OfQuery] at h

/-- All matches of a query are tagged by its kind, and single elements as positions. -/
structure Driver.Tags (d : Driver L) : Prop where
  all : ∀ l q, (d.engine (d.locate l q true).value).OfQuery
  one : ∀ l q, d.engine (d.locate l q false).value = .nth
  elementAt : ∀ l i, d.engine (d.elementAt l i) = .nth
  first : ∀ l, d.engine (d.first l) = .nth

theorem Chain.tags (naming : Naming) (texts : Chain.Texts) : (Chain.driver naming texts).Tags where
  all := by
    intro c q
    change (Chain.all naming.jsEngine c q).engine.OfQuery
    rw [Chain.all]
    cases q.type <;> simp [Engine.OfQuery, Chain.extend]
  one := fun _ _ => rfl
  elementAt := fun _ _ => rfl
  first := fun _ => rfl

theorem PageLocator.tags (naming : Naming) (page : PageTexts) :
    (PageLocator.driver naming page).Tags where
  all := by
    intro l q
    change (PageLocator.all naming.jsEngine l q).value.engine.OfQuery
    rw [PageLocator.all]
    cases q.type <;> simp [Engine.OfQuery, PageLocator.under]
  one := fun _ _ => rfl
  elementAt := fun _ _ => rfl
  first := fun _ => rfl

theorem Driver.Tags.engine_chosen (hd : d.Tags) (hscan : d.ScansByPosition) (combine : Bool)
    (collection : L) (wanted : String) :
    d.engine (TextMatch.chosen d combine collection wanted) = .nth := by
  cases hq : TextMatch.combined? d combine collection wanted with
  | some query =>
      rw [TextMatch.chosen_of_combined hq]
      exact hd.first _
  | none =>
      rw [TextMatch.chosen_of_scan hscan hq]
      split
      · exact hd.elementAt _ _
      · exact hd.first _

/-- The tag of a frame's locator tells whether it addresses several elements. -/
structure Frame.Tagged (d : Driver L) (f : Frame ν L) : Prop where
  absent : f.locator = none → f.multiple = false
  single : ∀ l, f.locator = some l → f.multiple = false → d.engine l = .nth
  several : ∀ l, f.locator = some l → f.multiple = true → (d.engine l).OfQuery

namespace Frame.Tagged

variable {f : Frame ν L} {l : L}

theorem multiple_eq_false (hf : f.Tagged d) (hl : f.locator = some l) (hnth : d.engine l = .nth) :
    f.multiple = false := by
  cases hm : f.multiple with
  | false => rfl
  | true => exact absurd hnth (hf.several l hl hm).ne_nth

theorem engine_ne_root (hf : f.Tagged d) (hl : f.locator = some l) : d.engine l ≠ .root := by
  cases hm : f.multiple with
  | false =>
      rw [hf.single l hl hm]
      decide
  | true => exact (hf.several l hl hm).ne_root

end Frame.Tagged

namespace Walk

theorem tagged_start (root : ν) : (start root : Frame ν L).Tagged d where
  absent := fun _ => rfl
  single := fun _ h => by cases h
  several := fun _ h => by cases h

theorem tagged_of_next (hd : d.Tags) (hscan : d.ScansByPosition) {f f' : Frame ν L} {hop : Hop}
    (hf : f.Tagged d) (h : Next g d o f hop f') : f'.Tagged d := by
  cases h with
  | grouping => exact ⟨hf.absent, hf.single, hf.several⟩
  | @matched _ n q =>
      refine ⟨fun h => (by cases h), ?_, ?_⟩
      · rintro l hl hm
        cases hl
        change (g.isCollection n || f.multiple) = false at hm
        rw [hm]
        exact hd.one _ q
      · rintro l hl hm
        cases hl
        change (g.isCollection n || f.multiple) = true at hm
        rw [hm]
        exact hd.all _ q
  | @picked _ p _ q =>
      refine ⟨fun h => (by cases h), ?_, fun _ _ hm => (by cases hm)⟩
      rintro l hl -
      cases hl
      cases p with
      | index i => exact hd.elementAt _ _
      | text wanted => exact hd.engine_chosen hscan o.combine _ wanted

theorem tagged_of_hops (hd : d.Tags) (hscan : d.ScansByPosition) {root : ν} {f : Frame ν L}
    {hs : List Hop} (h : (hops g d o (start root) hs).result = .ok f) : f.Tagged d :=
  hops_induction (tagged_of_next hd hscan) (tagged_start root) h

end Walk

/-! ## Resolved locators -/

theorem exists_frame_of_resolve {root : ν} {hs : List Hop} {l : Option L}
    (h : (resolve g d o root hs).result = .ok l) :
    ∃ f, (Walk.hops g d o (Walk.start root) hs).result = .ok f ∧ f.locator = l :=
  (resolve_eq_ok_iff.1 h).2

theorem engine_of_resolve (hd : d.Tags) (hscan : d.ScansByPosition) {root : ν} {hs : List Hop}
    {l : L} (hscoped : g.Scoped (.component root))
    (h : (resolve g d o root hs).result = .ok (some l)) :
    (d.engine l = .nth ↔ g.Narrowed (.component root) hs) ∧
      (d.engine l ≠ .nth → (d.engine l).OfQuery) := by
  obtain ⟨f, hhops, hl⟩ := exists_frame_of_resolve h
  have htagged := Walk.tagged_of_hops hd hscan hhops
  have hmultiple := Walk.multiple_iff_not_narrowed hscoped hhops
  cases hm : f.multiple with
  | true =>
      have hquery := htagged.several l hl hm
      have hne := hquery.ne_nth
      have hnot := hmultiple.1 hm
      exact ⟨⟨fun hnth => absurd hnth hne, fun hnarrowed => absurd hnarrowed hnot⟩,
        fun _ => hquery⟩
  | false =>
      have hnth := htagged.single l hl hm
      have hnarrowed : g.Narrowed (.component root) hs := by
        by_contra hnot
        rw [hmultiple.2 hnot] at hm
        cases hm
      exact ⟨⟨fun _ => hnarrowed, fun _ => hnth⟩, fun hne => absurd hnth hne⟩

/-- In a graph whose repeated components have selectors, as all have that can be
built, a locator is tagged as a position if and only if every collection that a
plain hop led to was narrowed later; otherwise its tag is that of a query. On a
page a locator tagged as a position matches at most one text at any time, so
several can only be those of a collection that was never narrowed. -/
theorem resolve_cardinality {root : ν} (hscoped : g.Scoped (.component root)) (naming : Naming)
    (o : Options) (hs : List Hop) :
    (∀ texts c, (resolve g (Chain.driver naming texts) o root hs).result = .ok (some c) →
      (c.engine = .nth ↔ g.Narrowed (.component root) hs) ∧
        (c.engine ≠ .nth → c.engine.OfQuery)) ∧
    ∀ page l, (resolve g (PageLocator.driver naming page) o root hs).result = .ok (some l) →
      (l.engine = .nth ↔ g.Narrowed (.component root) hs) ∧
        (l.engine ≠ .nth → l.engine.OfQuery) ∧
        ∀ now : PageTexts,
          (l.engine = .nth → (now.evaluate l.steps).length ≤ 1) ∧
            (1 < (now.evaluate l.steps).length → ¬ g.Narrowed (.component root) hs) := by
  constructor
  · intro texts c hc
    exact engine_of_resolve (Chain.tags naming texts) (Chain.scansByPosition naming texts)
      hscoped hc
  · intro page l hl
    obtain ⟨hiff, hquery⟩ := engine_of_resolve (PageLocator.tags naming page)
      (PageLocator.scansByPosition naming page) hscoped hl
    obtain ⟨f, hhops, hf⟩ := exists_frame_of_resolve hl
    have hcomposed : Driver.Composed (PageLocator.driver naming) l :=
      Walk.composed_of_hops page hhops l hf
    have hone : ∀ now : PageTexts, l.engine = .nth → (now.evaluate l.steps).length ≤ 1 :=
      fun now hnth => (PageLocator.formed_of_composed hcomposed).length_evaluate_le_one now hnth
    refine ⟨hiff, hquery, fun now => ⟨hone now, fun hlen hnarrowed => ?_⟩⟩
    have hle := hone now (hiff.2 hnarrowed)
    omega

def rowsStore : Store :=
  ⟨[{ children := [("Rows", .component 1)] },
    { name := some "Rows", selector := some "tr", repeated := true,
      children := [("Name", .leaf { name := "Name", selector := "td.name" })] }]⟩

theorem rowsStore_built : rowsStore.Built := by
  have hroot := Store.Built.empty.add (rfl : Component.make none none "css" none false = .ok {})
  have hrows := hroot.add
    (rfl : Component.make (some "Rows") (some "tr") "css" none true =
      .ok { name := some "Rows", selector := some "tr", repeated := true })
  have hname := hrows.defineLeaf 1 { name := "Name", selector := "td.name" }
  exact hname.mount (rfl : Store.mount _ 0 1 none = .ok rowsStore)

/-- The names of all rows, and the name of the second. -/
theorem resolve_cardinality_rows :
    rowsStore.graph.Scoped (.component 0) ∧
    (∃ l, (resolve rowsStore.graph (PageLocator.driver {} []) {} 0
        [.plain "Rows", .plain "Name"]).result = .ok (some l) ∧
      l.engine = .css ∧ PageTexts.evaluate [("td.name", ["Ada", "Bob"])] l.steps = ["Ada", "Bob"] ∧
      ¬ rowsStore.graph.Narrowed (.component 0) [.plain "Rows", .plain "Name"]) ∧
    ∃ l, (resolve rowsStore.graph (PageLocator.driver {} []) {} 0
        [.picked "Rows" (.index 2), .plain "Name"]).result = .ok (some l) ∧
      l.engine = .nth ∧
      rowsStore.graph.Narrowed (.component 0) [.picked "Rows" (.index 2), .plain "Name"] ∧
      ∀ now : PageTexts, (now.evaluate l.steps).length ≤ 1 := by
  have hscoped := rowsStore_built.scoped (.component 0)
  refine ⟨hscoped, ?_, ?_⟩
  · have hl : (resolve rowsStore.graph (PageLocator.driver {} []) {} 0
        [.plain "Rows", .plain "Name"]).result =
          .ok (some ⟨[.select "html" none, .select "tr" none, .select "td.name" none], .css,
            some "td.name", some [.select "html" none, .select "tr" none]⟩) := rfl
    have h := (resolve_cardinality hscoped {} {} _).2 [] _ hl
    have heval : PageTexts.evaluate [("td.name", ["Ada", "Bob"])]
        [.select "html" none, .select "tr" none, .select "td.name" none] = ["Ada", "Bob"] := rfl
    refine ⟨_, hl, rfl, heval, ?_⟩
    apply (h.2.2 [("td.name", ["Ada", "Bob"])]).2
    rw [heval]
    decide
  · have hl : (resolve rowsStore.graph (PageLocator.driver {} []) {} 0
        [.picked "Rows" (.index 2), .plain "Name"]).result =
          .ok (some ⟨[.select "html" none, .select "tr" none, .nth 1, .select "td.name" none,
            .first], .nth, none, none⟩) := rfl
    have h := (resolve_cardinality hscoped {} {} _).2 [] _ hl
    exact ⟨_, hl, rfl, h.1.1 rfl, fun now => (h.2.2 now).1 rfl⟩

end PageAtlas
