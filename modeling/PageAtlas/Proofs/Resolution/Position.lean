import PageAtlas.Proofs.Path.Grammar
import PageAtlas.Proofs.Resolution.Grouped
import PageAtlas.Proofs.Resolution.Narrowing

/-!
# Positions

Paths count elements from one and locators count them from zero. A hop that picks by
a position leaves it as the last part of its locator, one less than the number that is
written in the path, and no other hop makes a part out of anything but a natural number.
On a page the position means that element of the texts that the collection has then.
-/

namespace PageAtlas

open PageAtlas.Path PageAtlas.Text

namespace Path

/-- The canonical numeral of a number: a run of digits that begins with a zero only if
it is nothing else. -/
structure CanonicalRun (ds : List Char) (n : Nat) : Prop where
  run : IsRun ds
  number : numberOf ds = n
  front : ds.head? = some '0' → ds = ['0']

theorem canonicalRun_toDigits (n : Nat) : CanonicalRun (Nat.toDigits 10 n) n where
  run := isNumeral_iff.1 (Numeral.isNumeral_toDigits n)
  number := Nat.ofDigitChars_ten_toDigits
  front := by
    intro h
    cases n with
    | zero => rfl
    | succ n => exact absurd h (Numeral.head?_toDigits_ne_zero n.succ_ne_zero)

def Form.indexHop (s : Form) : Hop := .picked (String.ofList s.name) (.index (numberOf s.digits))

/-- The numeral of a form writes a position that can be read. -/
structure Form.Indexes (s : Form) : Prop where
  run : IsRun s.digits
  length : s.digits.length ≤ 4300
  one_le : 1 ≤ numberOf s.digits

namespace Hop

variable {token : String} {hop : Hop} {s : Form}

theorem indexes_of_parse (h : parse token = .ok hop) (hlast : Form.Last token.toList s)
    (hk : s.keyword = .ofWord) : s.Indexes ∧ hop = s.indexHop := by
  have hreads := reads_parse token
  rw [h] at hreads
  cases hreads with
  | plain hnone => exact absurd hlast.of (hnone s)
  | text hlast' hk' =>
      obtain rfl := hlast.unique hlast'
      rw [hk] at hk'
      cases hk'
  | index hlast' _ hrun hlength hpos =>
      obtain rfl := hlast.unique hlast'
      exact ⟨⟨hrun, hlength, hpos⟩, rfl⟩

theorem one_le_of_parse {name : String} {n : Int}
    (h : parse token = .ok (.picked name (.index n))) : 1 ≤ n := by
  have hreads := reads_parse token
  rw [h] at hreads
  cases hreads with
  | index _ _ _ _ hpos => exact Int.ofNat_le.2 hpos

end Hop

theorem exists_of_tokens {path token : String} {hs : List Hop} {before after : List String}
    (h : parse path = .ok hs) (htokens : tokens path = before ++ token :: after) :
    ∃ front hop later, hs = front ++ hop :: later ∧ front.length = before.length ∧
      later.length = after.length ∧ Hop.parse token = .ok hop := by
  have hall := Hop.parseAll_eq_ok_iff.1 h
  rw [htokens] at hall
  clear h htokens
  induction before generalizing hs with
  | nil =>
      obtain ⟨hop, later, hhop, hlater, rfl⟩ := List.forall₂_cons_left_iff.1 hall
      exact ⟨[], hop, later, rfl, rfl, hlater.length_eq.symm, hhop⟩
  | cons t before ih =>
      obtain ⟨hop', rest, _, hrest, rfl⟩ := List.forall₂_cons_left_iff.1 hall
      obtain ⟨front, hop, later, rfl, hfront, hlater, hhop⟩ := ih hrest
      exact ⟨hop' :: front, hop, later, rfl, congrArg (· + 1) hfront, hlater, hhop⟩

end Path

/-- Positions are parts of a locator by themselves, shown by their numerals. -/
structure Move.Counts {σ : Type} (image : Move → List σ) (index : Int → σ)
    (shown : σ → String) : Prop where
  element : ∀ i, image (.element i) = [index i]
  mem : ∀ m i, index i ∈ image m → m = .element i ∨ i = 0
  shown : ∀ i, shown (index i) = "nth=" ++ Numeral.ofInt i

theorem Move.counts_parts : Counts parts Part.nth Part.shown where
  element := fun _ => rfl
  mem := by
    intro m i h
    cases m <;> simp_all [parts]
  shown := fun _ => rfl

theorem Move.counts_step : Counts (fun m => [m.step]) Step.nth Step.shown where
  element := fun _ => rfl
  mem := by
    intro m i h
    cases m <;> simp_all [step]
  shown := fun _ => rfl

variable {ν L σ : Type}

section Positions

variable (g : Graph ν) (naming : Naming) (d : Driver L) (o : Options) (root : ν)
  (parts : L → List σ) (image : Move → List σ) (index : Int → σ) (shown : σ → String)

/-- A locator behind some hops and one that picks the position a form writes: there are
added the matches of the collection, and last the position, counted from zero and shown
by its canonical numeral. -/
structure EndsAtPosition (hs : List Hop) (s : Form) (c : L) : Prop where
  resolved : (resolve g d o root (hs ++ [s.indexHop])).result = .ok (some c)
  added : ∃ l n q, (hs = [] → l = none) ∧ (hs ≠ [] → (resolve g d o root hs).result = .ok l) ∧
    g.nodeAt? (.component root) ((hs ++ [s.indexHop]).map Hop.name) = some n ∧
    g.query n = .ok q ∧
    parts c = parts (l.getD d.root.value) ++ image (.ofQuery naming.jsEngine q) ++
      [index (numberOf s.digits - 1 : Nat)]
  shown : ∃ ds, CanonicalRun ds (numberOf s.digits - 1) ∧
    shown (index (numberOf s.digits - 1 : Nat)) = "nth=" ++ String.ofList ds

structure Positioned (path : String) : Prop where
  /-- Each token that is qualified by an index has one that can be read, and the locator
  begins with one that ends at that position. -/
  indexed : ∀ before token after s l,
    (resolvePath g d o root path).result = .ok l → tokens path = before ++ token :: after →
    Form.Last token.toList s → s.keyword = .ofWord → s.Indexes ∧
      ∃ hs later c c', Path.parse path = .ok (hs ++ s.indexHop :: later) ∧
        hs.length = before.length ∧ later.length = after.length ∧
        EndsAtPosition g naming d o root parts image index shown hs s c ∧
        l = some c' ∧ parts c <+: parts c'
  nonneg : ∀ c i, (resolvePath g d o root path).result = .ok (some c) →
    index i ∈ parts c → 0 ≤ i

end Positions

variable {g : Graph ν} {naming : Naming} {d : Driver L} {o : Options} {root : ν}
  {parts : L → List σ} {image : Move → List σ} {index : Int → σ} {shown : σ → String}

/-! ## Positions are not negative -/

theorem Path.Hop.Adds.nonneg {jsEngine : String} {q : Query} {hop : Hop} {moves : List Move}
    (h : hop.Adds jsEngine q moves) (hone : ∀ name n, hop = .picked name (.index n) → 1 ≤ n)
    {i : Int} (hi : Move.element i ∈ moves) : 0 ≤ i := by
  have hquery : Move.element i ≠ .ofQuery jsEngine q := by
    rw [Move.ofQuery]
    cases q.type <;> simp
  cases h with
  | index name n =>
      have hn := hone name n rfl
      simp only [List.mem_cons, hquery, false_or, Move.element.injEq, List.not_mem_nil,
        or_false] at hi
      rw [hi, zeroBased]
      omega
  | found name wanted k =>
      simp only [List.mem_cons, hquery, false_or, Move.element.injEq, List.not_mem_nil,
        or_false] at hi
      rw [hi]
      exact Int.natCast_nonneg k
  | _ => simp [hquery] at hi

theorem Narrows.nonneg (h : Narrows g naming d o root parts image)
    (hcounts : Move.Counts image index shown) {hs : List Hop} {c : L}
    (hc : (resolve g d o root hs).result = .ok (some c))
    (hone : ∀ name n, Hop.picked name (.index n) ∈ hs → 1 ≤ n) {i : Int}
    (hi : index i ∈ parts c) : 0 ≤ i := by
  refine h.forall_parts (P := fun p => ∀ i, p = index i → 0 ≤ i) ?_ ?_ hc _ hi i rfl
  · rintro _ hmem i rfl
    rcases hcounts.mem _ i hmem with hroot | rfl
    · cases hroot
    · exact Int.le_refl 0
  · rintro keys n q hop moves - - hhop hadds m hm _ hmem i rfl
    rcases hcounts.mem m i hmem with rfl | rfl
    · exact hadds.nonneg (fun name k heq => hone name k (heq ▸ hhop)) hm
    · exact Int.le_refl 0

/-! ## The last part of an indexed hop -/

theorem Narrows.endsAtPosition (h : Narrows g naming d o root parts image)
    (hcounts : Move.Counts image index shown) {hs : List Hop} {s : Form} {l : Option L}
    (hs1 : 1 ≤ numberOf s.digits) (hl : (resolve g d o root (hs ++ [s.indexHop])).result = .ok l) :
    ∃ c, l = some c ∧ EndsAtPosition g naming d o root parts image index shown hs s c := by
  obtain ⟨l₀, n, hnone, hsome, hn, -, hadds⟩ := h.hop hs s.indexHop l hl
  obtain ⟨c, q, moves, rfl, hquery, hmoves, -, hparts⟩ := hadds id
  have hposition : Hop.zeroBased (numberOf s.digits) = (numberOf s.digits - 1 : Nat) := by
    rw [Hop.zeroBased]
    omega
  refine ⟨c, rfl, hl, ⟨l₀, n, q, hnone, hsome, hn, hquery, ?_⟩, _, canonicalRun_toDigits _, ?_⟩
  · cases hmoves with
    | index =>
        rw [hparts, hposition, List.append_assoc]
        simp [hcounts.element]
  · rw [hcounts.shown]
    rfl

theorem Narrows.positioned (h : Narrows g naming d o root parts image)
    (hcounts : Move.Counts image index shown) (path : String) :
    Positioned g naming d o root parts image index shown path where
  indexed := by
    intro before token after s l hl htokens hlast hk
    obtain ⟨hs, hparse, hresolve⟩ := resolvePath_eq_ok_iff.1 hl
    obtain ⟨front, hop, later, rfl, hfront, hlater, hhop⟩ := exists_of_tokens hparse htokens
    obtain ⟨hindexes, rfl⟩ := Hop.indexes_of_parse hhop hlast hk
    rw [List.append_cons] at hresolve
    obtain ⟨l₀, hl₀, hpre⟩ := h.before (front ++ [s.indexHop]) later l (by simp) hresolve
    obtain ⟨c, rfl, hends⟩ := h.endsAtPosition hcounts hindexes.one_le hl₀
    obtain ⟨c', rfl, hprefix⟩ := hpre c rfl
    exact ⟨hindexes, front, later, c, c', hparse, hfront, hlater, hends, rfl, hprefix⟩
  nonneg := by
    intro c i hc hi
    obtain ⟨hs, hparse, hresolve⟩ := resolvePath_eq_ok_iff.1 hc
    refine h.nonneg hcounts hresolve (fun name n hmem => ?_) hi
    obtain ⟨token, -, htoken⟩ := exists_of_forall₂ (Hop.parseAll_eq_ok_iff.1 hparse) hmem
    exact Hop.one_le_of_parse htoken

/-! ## Evaluation -/

namespace PageTexts

variable (now : PageTexts)

theorem apply_ofQuery (jsEngine : String) (q : Query) (ts : List String) :
    now.apply ts (Move.ofQuery jsEngine q).step = now.current jsEngine q := by
  rw [Move.ofQuery, current]
  cases q.type with
  | cssContainingText => exact containing_eq_filter (q.text.getD "") (now.matching q.selector)
  | _ => rfl

theorem slice_eq_getElem? (ts : List String) (i : Nat) : slice ts i = ts[i]?.toList := by
  rw [slice_natCast, List.take_one, List.head?_drop]

theorem evaluate_position {steps : List Step} (hne : steps ≠ []) (jsEngine : String) (q : Query)
    (i : Nat) : now.evaluate (steps ++ [(Move.ofQuery jsEngine q).step] ++ [.nth i]) =
      (now.current jsEngine q)[i]?.toList := by
  rw [List.append_assoc, now.evaluate_append hne, ← slice_eq_getElem?, ← now.apply_ofQuery jsEngine
    q (now.evaluate steps)]
  rfl

end PageTexts

theorem Narrows.parts_ne_nil (h : Narrows g naming d o root parts image)
    (himage : ∀ m, image m ≠ []) {hs : List Hop} {l : Option L}
    (hnone : hs = [] → l = none) (hsome : hs ≠ [] → (resolve g d o root hs).result = .ok l) :
    parts (l.getD d.root.value) ≠ [] := by
  cases l with
  | none =>
      rw [Option.getD_none, h.document]
      exact himage _
  | some c =>
      have hne : hs ≠ [] := fun hnil => nomatch hnone hnil
      obtain ⟨moves, -, -, hparts⟩ := h.front hs c (hsome hne)
      rw [Option.getD_some, hparts]
      simp [himage]

theorem evaluate_of_endsAtPosition {page : PageTexts} {hs : List Hop} {s : Form} {c : PageLocator}
    (h : EndsAtPosition g naming (PageLocator.driver naming page) o root PageLocator.steps
      (fun m => [m.step]) Step.nth Step.shown hs s c) :
    ∃ n q, g.nodeAt? (.component root) ((hs ++ [s.indexHop]).map Hop.name) = some n ∧
      g.query n = .ok q ∧ ∀ now : PageTexts,
        now.evaluate c.steps = (now.current naming.jsEngine q)[numberOf s.digits - 1]?.toList := by
  obtain ⟨l, n, q, hnone, hsome, hn, hquery, hsteps⟩ := h.added
  have hscope := (narrows_page g naming page o root).parts_ne_nil (fun _ => List.cons_ne_nil _ _)
    hnone hsome
  refine ⟨n, q, hn, hquery, fun now => ?_⟩
  rw [hsteps]
  exact now.evaluate_position hscope naming.jsEngine q _

/-- Positions are counted from one in paths and exact in locators. In the locators of
either driver a token that is qualified by an index leaves, behind the matches of its
collection, its number less one as a canonical numeral, and no position is negative. On a
page that shows anything, a path that ends in such a token evaluates to that element of
what the page shows of the collection, or to nothing if there are not so many. -/
theorem resolvePath_positions (g : Graph ν) (naming : Naming) (o : Options) (root : ν)
    (path : String) :
    (∀ texts, Positioned g naming (Chain.driver naming texts) o root Chain.parts Move.parts
      Part.nth Part.shown path) ∧
    (∀ page, Positioned g naming (PageLocator.driver naming page) o root PageLocator.steps
      (fun m => [m.step]) Step.nth Step.shown path) ∧
    ∀ page before token s l,
      (resolvePath g (PageLocator.driver naming page) o root path).result = .ok l →
      tokens path = before ++ [token] → Form.Last token.toList s → s.keyword = .ofWord →
      ∃ hs c n q, Path.parse path = .ok (hs ++ [s.indexHop]) ∧ l = some c ∧
        g.nodeAt? (.component root) ((hs ++ [s.indexHop]).map Hop.name) = some n ∧
        g.query n = .ok q ∧ ∀ now : PageTexts,
          now.evaluate c.steps =
            (now.current naming.jsEngine q)[numberOf s.digits - 1]?.toList := by
  have hpage (page : PageTexts) := (narrows_page g naming page o root).positioned
    Move.counts_step path
  refine ⟨fun texts => (narrows_chain g naming texts o root).positioned Move.counts_parts path,
    hpage, fun page before token s l hl htokens hlast hk => ?_⟩
  obtain ⟨-, hs, later, c, -, hparse, -, hlater, hends, -⟩ :=
    (hpage page).indexed before token [] s l hl htokens hlast hk
  obtain rfl := List.length_eq_zero_iff.1 hlater
  have hresolve : (resolve g (PageLocator.driver naming page) o root (hs ++ [s.indexHop])).result =
      .ok l := by
    obtain ⟨_, hparse', hresolve⟩ := resolvePath_eq_ok_iff.1 hl
    cases hparse.symm.trans hparse'
    exact hresolve
  cases hends.resolved.symm.trans hresolve
  obtain ⟨n, q, hn, hquery, heval⟩ := evaluate_of_endsAtPosition hends
  exact ⟨hs, c, n, q, hparse, rfl, hn, hquery, heval⟩

def linkPath : String := "#2 of Rows > # 0002 of Links"

/-- The second link, if there are two by then, of the second row. -/
theorem resolvePath_positions_link :
    ∃ c, (resolvePath tableGraph (PageLocator.driver {} tablePage) {} 0 linkPath).result =
        .ok (some c) ∧
      Step.path c.steps = "html >> xpath=//tr >> nth=1 >> a >> nth=1" ∧
      PageTexts.evaluate [("a", ["Home", "About", "Blog"])] c.steps = ["About"] ∧
      PageTexts.evaluate [("a", ["Home"])] c.steps = [] := by
  have hof : Form.Of "# 0002 of Links".toList
      ⟨" 0002".toList, [' '], .ofWord, [' '], "Links".toList⟩ := by
    constructor <;> decide
  obtain ⟨s, hlast⟩ := Form.exists_last hof
  have hread : some _ = some (Qualifier.mk " 0002".toList .ofWord "Links".toList) :=
    hlast.read?.symm
  rw [Option.some.injEq, Qualifier.mk.injEq] at hread
  obtain ⟨hvalue, hk, -⟩ := hread
  have hnumber : numberOf s.digits = 2 := by
    rw [Form.digits, hvalue]
    decide
  have hlink : (resolvePath tableGraph (PageLocator.driver {} tablePage) {} 0 linkPath).result =
      .ok (some ⟨[.select "html" none, .select "xpath=//tr" none, .nth 1, .select "a" none,
        .nth 1], .nth, none, none⟩) := rfl
  have hlinks : Path.parse linkPath =
      .ok [.picked "Rows" (.index 2), .picked "Links" (.index 2)] := rfl
  obtain ⟨-, -, hpicked⟩ := resolvePath_positions tableGraph {} {} 0 linkPath
  obtain ⟨hs, c, n, q, hparse, hc, hn, hquery, heval⟩ :=
    hpicked tablePage ["#2 of Rows"] "# 0002 of Links" s _ hlink (by decide) hlast hk
  cases hc
  rw [← Except.ok.inj (hlinks.symm.trans hparse)] at hn
  cases hn
  cases hquery
  rw [hnumber] at heval
  exact ⟨_, hlink, by decide, heval _, heval _⟩

end PageAtlas
