import Mathlib.Data.List.Chain
import PageAtlas.Proofs.Resolution.Grouped
import PageAtlas.Proofs.Resolution.Narrowing
import PageAtlas.Proofs.Text.Pattern
import PageAtlas.Proofs.Text.Separated

/-!
# Printed chains

A chain is printed with ` >> ` between its parts, and the texts of a collection are
looked up by its printed form. If no text that a chain is made from holds the mark `>>`,
neither does a part: what is put around and into these texts does not make one. Then the
mark occurs in the separators only, and the printed form is cut into the parts again,
whether or not a part is empty or has blanks and single `>` at its ends.
-/

namespace PageAtlas

open PageAtlas.Path PageAtlas.Text

namespace Text

/-- The mark of the separator is not in the text. -/
def Unmarked (s : String) : Prop := contains s ">>" = false

instance (s : String) : Decidable (Unmarked s) := inferInstanceAs (Decidable (_ = _))

def Unmarked.Next (c d : Char) : Prop := ¬ (c = '>' ∧ d = '>')

variable {s t : String}

theorem unmarked_iff : Unmarked s ↔ s.toList.IsChain Unmarked.Next := by
  have hcontains : contains s ">>" = true ↔
      ∃ before after, s.toList = before ++ '>' :: '>' :: after := by
    rw [contains, occursIn_iff]
    simp
  rw [Unmarked, ← Bool.not_eq_true, hcontains, List.isChain_iff_forall_rel_of_append_cons_cons]
  constructor
  · rintro h c d before after heq ⟨rfl, rfl⟩
    exact h ⟨before, after, heq⟩
  · rintro h ⟨before, after, heq⟩
    exact h heq ⟨rfl, rfl⟩

theorem unmarked_append (hs : Unmarked s) (ht : Unmarked t)
    (hmeet : s.toList.getLast? = some '>' → t.toList.head? ≠ some '>') : Unmarked (s ++ t) := by
  rw [unmarked_iff] at hs ht ⊢
  rw [String.toList_append, List.isChain_append]
  refine ⟨hs, ht, ?_⟩
  rintro c hc d hd ⟨rfl, rfl⟩
  exact hmeet hc hd

theorem unmarked_of_notMem (h : '>' ∉ s.toList) : Unmarked s := by
  rw [unmarked_iff, List.isChain_iff_forall_rel_of_append_cons_cons]
  rintro c d before after heq ⟨rfl, -⟩
  apply h
  simp [heq]

theorem whole_of_unmarked (h : Unmarked s) : Whole Chain.separator.toList s.toList := by
  intro back hne hback
  have hnext : back.IsChain Unmarked.Next := (unmarked_iff.1 h).suffix hback
  have hseparator : Chain.separator.toList = [' ', '>', '>', ' '] := rfl
  rw [hseparator]
  match back with
  | [] => exact absurd rfl hne
  | [c] => simp
  | [c, d] => simp
  | c :: d :: e :: cs =>
      -- The separator would bring the mark with it.
      have hmark : ¬ (d = '>' ∧ e = '>') := (List.isChain_cons_cons.1
        (List.isChain_cons_cons.1 hnext).2).1
      simp only [List.cons_append, List.cons_prefix_cons, not_and]
      exact ⟨fun _ hd he _ => hmark ⟨hd.symm, he.symm⟩,
        fun _ _ hd he _ => hmark ⟨hd.symm, he.symm⟩⟩

namespace Pattern

theorem Spells.isChain_unmarked {reserved pattern cs : List Char}
    (h : Spells reserved pattern cs) (hcs : cs.IsChain Unmarked.Next) :
    pattern.IsChain Unmarked.Next ∧ (pattern.head? = some '>' → cs.head? = some '>') := by
  -- A backslash does not continue a mark, so one in the pattern is one in the text.
  induction h with
  | nil => exact ⟨.nil, id⟩
  | @escaped c pattern cs _ _ ih =>
      rw [List.isChain_cons] at hcs
      obtain ⟨hpattern, hhead⟩ := ih hcs.2
      refine ⟨?_, fun h => by simp at h⟩
      rw [List.isChain_cons_cons, List.isChain_cons]
      refine ⟨fun h => by simp at h, ?_, hpattern⟩
      rintro d hd ⟨rfl, rfl⟩
      exact hcs.1 '>' (hhead hd) ⟨rfl, rfl⟩
  | @bare c pattern cs _ _ ih =>
      rw [List.isChain_cons] at hcs
      obtain ⟨hpattern, hhead⟩ := ih hcs.2
      refine ⟨?_, id⟩
      rw [List.isChain_cons]
      refine ⟨?_, hpattern⟩
      rintro d hd ⟨rfl, rfl⟩
      exact hcs.1 '>' (hhead hd) ⟨rfl, rfl⟩

theorem unmarked_hasText {text : String} (h : Unmarked text) : Unmarked (hasText text) := by
  have hpattern : Unmarked (String.ofList (escapeSlashes (escape text.toList))) := by
    rw [unmarked_iff, String.toList_ofList]
    exact ((spells_escapeSlashes text.toList).isChain_unmarked (unmarked_iff.1 h)).1
  have hbegun : Unmarked ("internal:has-text=/" ++
      String.ofList (escapeSlashes (escape text.toList))) :=
    unmarked_append (by decide) hpattern fun hends => absurd hends (by decide)
  exact unmarked_append hbegun (by decide) fun _ => by decide

end Pattern

end Text

/-! ## Parts -/

namespace Part

theorem unmarked_xpath {selector : String} (h : Unmarked selector) :
    Unmarked (xpath selector).shown :=
  unmarked_append (by decide) h fun hends => absurd hends (by decide)

theorem unmarked_js {engine selector : String} (hengine : Unmarked engine) (h : Unmarked selector) :
    Unmarked (js engine selector).shown := by
  have hbegun : Unmarked (engine ++ "=") := unmarked_append hengine (by decide) fun _ => by decide
  refine unmarked_append hbegun h fun hends => ?_
  simp at hends

theorem unmarked_nth (index : Int) : Unmarked (nth index).shown := by
  have hindex : '>' ∉ (Numeral.ofInt index).toList := by
    intro hmem
    have hchar := Numeral.eq_or_isDigit_of_mem_ofInt hmem
    revert hchar
    decide
  exact unmarked_append (by decide) (unmarked_of_notMem hindex) fun hends => absurd hends (by decide)

end Part

variable {ν : Type} {g : Graph ν} {naming : Naming} {texts : Chain.Texts} {o : Options} {root : ν}
  {path : String}

/-- The texts that a graph and the names hold are without the mark. -/
structure Graph.Unmarked (g : Graph ν) (naming : Naming) (root : ν) : Prop where
  rootSelector : Text.Unmarked naming.rootSelector
  jsEngine : Text.Unmarked naming.jsEngine
  selector : ∀ keys n q, g.nodeAt? (.component root) keys = some n → g.query n = .ok q →
    Text.Unmarked q.selector
  text : ∀ keys n q, g.nodeAt? (.component root) keys = some n → g.query n = .ok q →
    q.type = .cssContainingText → Text.Unmarked (q.text.getD "")

namespace Graph.Unmarked

variable {keys : List String} {n : Node ν} {q : Query}

theorem ofQuery (h : g.Unmarked naming root) (hn : g.nodeAt? (.component root) keys = some n)
    (hq : g.query n = .ok q) :
    ∀ p ∈ (Move.ofQuery naming.jsEngine q).parts, Text.Unmarked p.shown := by
  have hselector := h.selector keys n q hn hq
  have htext := h.text keys n q hn hq
  rw [Move.ofQuery]
  cases htype : q.type with
  | css => exact List.forall_mem_singleton.2 hselector
  | xpath => exact List.forall_mem_singleton.2 (Part.unmarked_xpath hselector)
  | js => exact List.forall_mem_singleton.2 (Part.unmarked_js h.jsEngine hselector)
  | cssContainingText =>
      refine List.forall_mem_cons.2 ⟨hselector, List.forall_mem_singleton.2 ?_⟩
      exact Pattern.unmarked_hasText (htext htype)

theorem adds (h : g.Unmarked naming root) (hn : g.nodeAt? (.component root) keys = some n)
    (hq : g.query n = .ok q) {hop : Hop} {moves : List Move}
    (hhop : ∀ s ∈ hop.texts, separator ∉ s.toList) (hadds : hop.Adds naming.jsEngine q moves) :
    ∀ m ∈ moves, ∀ p ∈ m.parts, Text.Unmarked p.shown := by
  have hquery := h.ofQuery hn hq
  have hwanted (name wanted : String) (heq : hop = .picked name (.text wanted)) :
      Text.Unmarked (Part.hasText wanted).shown := by
    subst heq
    exact Pattern.unmarked_hasText
      (unmarked_of_notMem (hhop wanted (List.mem_cons_of_mem _ List.mem_cons_self)))
  cases hadds with
  | all => exact List.forall_mem_singleton.2 hquery
  | first =>
      refine List.forall_mem_cons.2 ⟨hquery, List.forall_mem_singleton.2 ?_⟩
      exact List.forall_mem_singleton.2 (Part.unmarked_nth 0)
  | index name i =>
      refine List.forall_mem_cons.2 ⟨hquery, List.forall_mem_singleton.2 ?_⟩
      exact List.forall_mem_singleton.2 (Part.unmarked_nth _)
  | combined name wanted hcss =>
      have hselector := h.selector keys n q hn hq
      refine List.forall_mem_cons.2 ⟨List.forall_mem_cons.2 ⟨hselector, ?_⟩, ?_⟩
      · exact List.forall_mem_singleton.2 (hwanted name wanted rfl)
      · exact List.forall_mem_singleton.2 (List.forall_mem_singleton.2 (Part.unmarked_nth 0))
  | found name wanted i =>
      refine List.forall_mem_cons.2 ⟨hquery, List.forall_mem_singleton.2 ?_⟩
      exact List.forall_mem_singleton.2 (Part.unmarked_nth _)
  | unmatched name wanted =>
      refine List.forall_mem_cons.2 ⟨hquery, List.forall_mem_cons.2 ⟨?_, ?_⟩⟩
      · exact List.forall_mem_singleton.2 (hwanted name wanted rfl)
      · exact List.forall_mem_singleton.2 (List.forall_mem_singleton.2 (Part.unmarked_nth 0))

theorem parts (h : g.Unmarked naming root) {hs : List Hop} {c : Chain}
    (hhops : ∀ hop ∈ hs, ∀ s ∈ hop.texts, separator ∉ s.toList)
    (hc : (resolve g (Chain.driver naming texts) o root hs).result = .ok (some c)) :
    ∀ p ∈ c.parts, Text.Unmarked p.shown := by
  refine (narrows_chain g naming texts o root).forall_parts
    (P := fun p => Text.Unmarked p.shown) ?_ ?_ hc
  · exact List.forall_mem_singleton.2 h.rootSelector
  · intro keys n q hop moves hn hq hhop hadds
    exact h.adds hn hq (hhops hop hhop) hadds

end Graph.Unmarked

/-- The chains that are printed for a path: the one it resolves to, and the collections of
which the texts are looked up on the way. -/
inductive Chain.OfPath (g : Graph ν) (naming : Naming) (texts : Chain.Texts) (o : Options)
    (root : ν) (path : String) : Chain → Prop
  | resolved {c : Chain}
      (h : (resolvePath g (Chain.driver naming texts) o root path).result = .ok (some c)) :
      OfPath g naming texts o root path c
  | scanned {front back : List String} {token name wanted : String} {hs : List Hop}
      {f : Frame ν Chain} {n : Node ν} {q : Query}
      (htokens : tokens path = front ++ token :: back) (hfront : Hop.parseAll front = .ok hs)
      (htoken : Hop.parse token = .ok (.picked name (.text wanted)))
      (hhops : (Walk.hops g (Chain.driver naming texts) o (Walk.start root) hs).result = .ok f)
      (hlookup : g.lookup f.node name = .ok n) (hcollection : g.isCollection n = true)
      (hquery : g.query n = .ok q)
      (hscan : TextMatch.combined? (Chain.driver naming texts) o.combine
        (Walk.matchesOf (Chain.driver naming texts) f q true) wanted = none) :
      OfPath g naming texts o root path (Walk.matchesOf (Chain.driver naming texts) f q true)

namespace Chain

theorem parts_all (jsEngine : String) (scope : Chain) (q : Query) :
    (all jsEngine scope q).parts = scope.parts ++ (Move.ofQuery jsEngine q).parts := by
  rw [all, Move.ofQuery]
  cases q.type <;> simp [extend, Move.parts]

theorem separator_notMem_of_parseAll {front back : List String} {hs : List Hop}
    (htokens : tokens path = front ++ back) (h : Hop.parseAll front = .ok hs) :
    ∀ hop ∈ hs, ∀ s ∈ hop.texts, Path.separator ∉ s.toList := by
  intro hop hhop s hs hmem
  obtain ⟨token, htoken, hparse⟩ := exists_of_forall₂ (Hop.parseAll_eq_ok_iff.1 h) hhop
  have hcut : token.toList ∈ cut path.toList := by
    have hmem : token ∈ tokens path := htokens ▸ List.mem_append_left back htoken
    rw [tokens] at hmem
    obtain ⟨cs, hcs, rfl⟩ := List.mem_map.1 hmem
    rwa [String.toList_ofList]
  exact (normal_cut path.toList).notMem _ hcut (Hop.subset_of_parse hparse s hs hmem)

theorem OfPath.unmarked {c : Chain} (h : OfPath g naming texts o root path c)
    (hunmarked : g.Unmarked naming root) :
    c.parts ≠ [] ∧ ∀ p ∈ c.parts, Text.Unmarked p.shown := by
  have hnarrows := narrows_chain g naming texts o root
  cases h with
  | resolved h =>
      obtain ⟨hs, hparse, hresolve⟩ := resolvePath_eq_ok_iff.1 h
      obtain ⟨moves, -, -, hparts⟩ := hnarrows.front hs c hresolve
      refine ⟨by simp [hparts, Move.parts], hunmarked.parts ?_ hresolve⟩
      exact separator_notMem_of_parseAll (List.append_nil _).symm hparse
  | @scanned front back token name wanted hs f n q htokens hfront _ hhops hlookup _ hquery _ =>
      have hn : g.nodeAt? (.component root) (hs.map Hop.name ++ [name]) = some n := by
        have hreached : g.nodeAt? (.component root) (hs.map Hop.name) = some f.node :=
          Walk.nodeAt?_of_hops hhops
        rw [Graph.nodeAt?_append hreached, Graph.nodeAt?_cons hlookup]
        rfl
      have hquery := hunmarked.ofQuery hn hquery
      have hscope : ∀ p ∈ (Walk.scopeLocator (driver naming texts) f).parts,
          Text.Unmarked p.shown := by
        rw [Walk.scopeLocator]
        cases hl : f.locator with
        | none => exact List.forall_mem_singleton.2 hunmarked.rootSelector
        | some c₀ =>
            have hne : hs ≠ [] := by
              rintro rfl
              cases hhops
              cases hl
            exact hunmarked.parts (separator_notMem_of_parseAll htokens hfront)
              (resolve_eq_ok_iff.2 ⟨hne, f, hhops, hl⟩)
      have hparts : (Walk.matchesOf (driver naming texts) f q true).parts =
          (Walk.scopeLocator (driver naming texts) f).parts ++
            (Move.ofQuery naming.jsEngine q).parts := parts_all _ _ _
      rw [hparts]
      refine ⟨by simp [Move.parts_ne_nil], fun p hp => ?_⟩
      exact (List.mem_append.1 hp).elim (hscope p) (hquery p)

theorem OfPath.cutAt_shown {c : Chain} (h : OfPath g naming texts o root path c)
    (hunmarked : g.Unmarked naming root) : cutAt separator c.shown = c.parts.map Part.shown := by
  obtain ⟨hne, hparts⟩ := h.unmarked hunmarked
  refine cutAt_intercalate (by decide) (by simpa using hne) fun s hs => ?_
  obtain ⟨p, hp, rfl⟩ := List.mem_map.1 hs
  exact whole_of_unmarked (hparts p hp)

/-- A printed chain determines its parts: cut at each separator it gives them back. So the
chains of two paths, in whatever graphs and for whatever names and texts, are printed alike
only if their parts are the same; and the texts of two collections are looked up by the
same key only then. -/
theorem shown_determines_parts (hunmarked : g.Unmarked naming root) {c : Chain}
    (h : OfPath g naming texts o root path c) :
    cutAt separator c.shown = c.parts.map Part.shown ∧
    ∀ (ν' : Type) (g' : Graph ν') (naming' : Naming) (texts' : Texts) (o' : Options) (root' : ν')
      (path' : String) (c' : Chain), g'.Unmarked naming' root' →
      OfPath g' naming' texts' o' root' path' c' →
      (c.shown = c'.shown ↔ c.parts.map Part.shown = c'.parts.map Part.shown) := by
  refine ⟨h.cutAt_shown hunmarked, fun ν' g' naming' texts' o' root' path' c' hunmarked' h' => ?_⟩
  constructor
  · intro heq
    rw [← h.cutAt_shown hunmarked, heq, h'.cutAt_shown hunmarked']
  · exact congrArg (String.intercalate separator)

def edgedLinks : Leaf := { name := "Links", selector := "> a", repeated := true }

/-- Selectors that begin and end with half of the mark. -/
def edgedGraph : Graph Nat :=
  Store.graph ⟨[
    { children := [("Menu", .component 1)] },
    { name := some "Menu", selector := some "ul >", children := [("Links", .leaf edgedLinks)] }]⟩

theorem unmarked_edgedGraph : edgedGraph.Unmarked {} 0 := by
  have hnodes : ∀ keys n, edgedGraph.nodeAt? (.component 0) keys = some n →
      n = .component 0 ∨ n = .component 1 ∨ n = .leaf edgedLinks := by
    intro keys n h
    refine Graph.nodeAt?_induction
      (P := fun n => n = .component 0 ∨ n = .component 1 ∨ n = .leaf edgedLinks)
      ?_ (Or.inl rfl) h
    rintro _ key n' (rfl | rfl | rfl) hlookup
    · cases List.mem_singleton.1 (Graph.mem_children_of_lookup hlookup)
      exact Or.inr (Or.inl rfl)
    · cases List.mem_singleton.1 (Graph.mem_children_of_lookup hlookup)
      exact Or.inr (Or.inr rfl)
    · cases hlookup
  refine ⟨by decide, by decide, ?_, ?_⟩
  · intro keys n q hn hq
    rcases hnodes keys n hn with rfl | rfl | rfl
    all_goals
      cases hq
      decide
  · intro keys n q hn hq htype
    rcases hnodes keys n hn with rfl | rfl | rfl
    all_goals
      cases hq
      cases htype

/-- The printed form is cut between the parts only, and tells the link from the links among
which it is looked for. -/
theorem shown_determines_parts_edged :
    ∃ c links, (resolvePath edgedGraph (driver {} []) {} 0 "Menu > #a. in Links").result =
        .ok (some c) ∧
      OfPath edgedGraph {} [] { combine := false } 0 "Menu > #a. in Links" links ∧
      c.shown = "html >> ul > >> nth=0 >> > a >> internal:has-text=/a\\./ >> nth=0" ∧
      cutAt separator c.shown =
        ["html", "ul >", "nth=0", "> a", "internal:has-text=/a\\./", "nth=0"] ∧
      c.shown ≠ links.shown := by
  have hlink : (resolvePath edgedGraph (driver {} []) {} 0 "Menu > #a. in Links").result =
      .ok (some ⟨[.root "html", .css "ul >", .nth 0, .css "> a", .hasText "a.", .nth 0], .nth⟩) :=
    rfl
  have htokens : tokens "Menu > #a. in Links" = ["Menu"] ++ "#a. in Links" :: [] := rfl
  have hmenu : (Walk.hops edgedGraph (driver {} []) { combine := false } (Walk.start 0)
      [.plain "Menu"]).result =
        .ok ⟨some ⟨[.root "html", .css "ul >", .nth 0], .nth⟩, .component 1, false⟩ := rfl
  have hlinks : OfPath edgedGraph {} [] { combine := false } 0 "Menu > #a. in Links"
      ⟨[.root "html", .css "ul >", .nth 0, .css "> a"], .css⟩ :=
    .scanned htokens rfl rfl hmenu rfl rfl rfl rfl
  obtain ⟨hcut, hsame⟩ := shown_determines_parts unmarked_edgedGraph (.resolved hlink)
  have hkeys := hsame Nat edgedGraph {} [] { combine := false } 0 _ _ unmarked_edgedGraph hlinks
  exact ⟨_, _, hlink, hlinks, by decide, hcut.trans (by decide), mt hkeys.1 (by decide)⟩

end Chain

end PageAtlas
