import PageAtlas.Proofs.Resolution.Cardinality
import PageAtlas.Proofs.Resolution.Notes

/-!
# Strict collection scopes

Strictness refuses one kind of hop: a plain one, from several elements to a node
that stands for a single element. Up to the first such hop a strict walk does
what a lenient one does, and there it fails, whatever the lenient walk comes to.
-/

namespace PageAtlas

open PageAtlas.Path

variable {ν L : Type} {g : Graph ν} {d : Driver L} {combine : Bool}

namespace Walk

/-- The hop leads from several elements to a node with a selector of its own
that is no collection. -/
structure Ambiguous (g : Graph ν) (f : Frame ν L) (hop : Hop) (n : Node ν) : Prop where
  multiple : f.multiple = true
  plain : ∃ name, hop = .plain name ∧ g.lookup f.node name = .ok n
  selector : g.hasSelector n = true
  single : g.isCollection n = false

/-- A lenient walk along the hops before one reaches a frame from which that one
is ambiguous. -/
def AmbiguousAfter (g : Graph ν) (d : Driver L) (combine : Bool) (f : Frame ν L) (hs : List Hop)
    (before : List Hop) (f' : Frame ν L) (n : Node ν) : Prop :=
  (hops g d ⟨combine, false⟩ f before).result = .ok f' ∧
    ∃ hop after, hs = before ++ hop :: after ∧ Ambiguous g f' hop n

/-! ## One hop -/

theorem plain_strict_of_not {f : Frame ν L} {n : Node ν}
    (h : ¬ (f.multiple = true ∧ g.hasSelector n = true ∧ g.isCollection n = false)) :
    plain g d ⟨combine, true⟩ f n = plain g d ⟨combine, false⟩ f n := by
  rw [plain, plain]
  cases hselector : g.hasSelector n with
  | false => rfl
  | true =>
      have hrefused : (f.multiple && !g.isCollection n) = false := by
        cases hm : f.multiple with
        | false => rfl
        | true =>
            cases hc : g.isCollection n with
            | true => rfl
            | false => exact absurd ⟨hm, hselector, hc⟩ h
      simp only [hrefused, Bool.false_and]

theorem picked_strict (f : Frame ν L) (n : Node ν) (name : String) (p : Pick) :
    picked g d ⟨combine, true⟩ f n name p = picked g d ⟨combine, false⟩ f n name p := by
  cases p with
  | index i => rfl
  | text wanted => rfl

theorem step_strict_of_not {f : Frame ν L} {hop : Hop} (h : ∀ n, ¬ Ambiguous g f hop n) :
    step g d ⟨combine, true⟩ f hop = step g d ⟨combine, false⟩ f hop := by
  rw [step, step]
  apply Run.bind_congr_of_ok
  intro n hn
  cases hop with
  | picked name p => exact picked_strict f n name p
  | plain name =>
      refine plain_strict_of_not ?_
      rintro ⟨hmultiple, hselector, hsingle⟩
      exact h n ⟨hmultiple, ⟨name, rfl, hn⟩, hselector, hsingle⟩

theorem step_strict_of_ambiguous {f : Frame ν L} {hop : Hop} {n : Node ν}
    (h : Ambiguous g f hop n) :
    (step g d ⟨combine, true⟩ f hop).result =
      .error (.ambiguousScope (g.aliasOf n) (g.aliasOf f.node)) := by
  obtain ⟨name, rfl, hlookup⟩ := h.plain
  exact (Fails.scope hlookup h.selector h.multiple h.single rfl).result

theorem Next.lenient {f f' : Frame ν L} {hop : Hop} (h : Next g d ⟨combine, true⟩ f hop f') :
    Next g d ⟨combine, false⟩ f hop f' := by
  cases h with
  | grouping hlookup hselector => exact .grouping hlookup hselector
  | matched hlookup hselector _ hquery => exact .matched hlookup hselector (by simp) hquery
  | picked hlookup hcollection hquery hwritable =>
      exact .picked hlookup hcollection hquery hwritable

/-! ## A walk -/

theorem AmbiguousAfter.cons {f f₁ f' : Frame ν L} {hop : Hop} {hs before : List Hop} {n : Node ν}
    (hstep : (step g d ⟨combine, false⟩ f hop).result = .ok f₁)
    (h : AmbiguousAfter g d combine f₁ hs before f' n) :
    AmbiguousAfter g d combine f (hop :: hs) (hop :: before) f' n := by
  obtain ⟨hhops, hop', after, rfl, hambiguous⟩ := h
  refine ⟨?_, hop', after, rfl, hambiguous⟩
  rw [hops_cons_result, hstep]
  exact hhops

theorem hops_strict_of_not {f : Frame ν L} {hs : List Hop}
    (h : ∀ before f' n, ¬ AmbiguousAfter g d combine f hs before f' n) :
    hops g d ⟨combine, true⟩ f hs = hops g d ⟨combine, false⟩ f hs := by
  induction hs generalizing f with
  | nil => rfl
  | cons hop hs ih =>
      have hclear : ∀ n, ¬ Ambiguous g f hop n :=
        fun n hn => h [] f n ⟨rfl, hop, hs, rfl, hn⟩
      rw [hops, hops, step_strict_of_not hclear]
      apply Run.bind_congr_of_ok
      intro f₁ hstep
      exact ih fun before f' n hlater => h (hop :: before) f' n (hlater.cons hstep)

/-- By induction on the hops before the first ambiguous one, which the strict
walk passes like the lenient one. -/
theorem hops_strict_of_first {f f' : Frame ν L} {hs before : List Hop} {n : Node ν}
    (h : AmbiguousAfter g d combine f hs before f' n)
    (hfirst : ∀ before' f'' n', AmbiguousAfter g d combine f hs before' f'' n' →
      before.length ≤ before'.length) :
    (hops g d ⟨combine, true⟩ f hs).result =
      .error (.ambiguousScope (g.aliasOf n) (g.aliasOf f'.node)) := by
  induction before generalizing f hs with
  | nil =>
      obtain ⟨hhops, hop, after, rfl, hambiguous⟩ := h
      cases hhops
      rw [List.nil_append, hops_cons_result, step_strict_of_ambiguous hambiguous]
      rfl
  | cons hop before ih =>
      obtain ⟨hhops, hop', after, rfl, hambiguous⟩ := h
      rw [hops_cons_result] at hhops
      obtain ⟨f₁, hstep, hhops⟩ := Outcome.bind_eq_ok_iff.1 hhops
      have hclear : ∀ m, ¬ Ambiguous g f hop m := by
        intro m hm
        have hle := hfirst [] f m ⟨rfl, hop, before ++ hop' :: after, rfl, hm⟩
        simp at hle
      rw [List.cons_append, hops_cons_result, step_strict_of_not hclear, hstep]
      refine ih ⟨hhops, hop', after, rfl, hambiguous⟩ ?_
      intro before' f'' n' hlater
      have hle := hfirst (hop :: before') f'' n' (hlater.cons hstep)
      simpa using hle

theorem hops_of_strict {f f' : Frame ν L} {hs : List Hop}
    (h : (hops g d ⟨combine, true⟩ f hs).result = .ok f') :
    (hops g d ⟨combine, false⟩ f hs).result = .ok f' := by
  induction hs generalizing f with
  | nil => exact h
  | cons hop hs ih =>
      obtain ⟨f₁, hnext, hrest⟩ := hops_cons_eq_ok_iff.1 h
      exact hops_cons_eq_ok_iff.2 ⟨f₁, hnext.lenient, ih hrest⟩

end Walk

/-! ## A resolution -/

open Walk in
/-- Without an ambiguous hop the strict resolution is the lenient one, notes
included. Otherwise it fails at the first such hop, with the alias of the node
that the hop leads to. So what a strict resolution yields, a lenient one yields.
The last part tells by the hops alone when a frame addresses several elements. -/
theorem resolve_strict (g : Graph ν) (d : Driver L) (combine : Bool) (root : ν)
    (hs : List Hop) :
    ((∀ before f n, ¬ AmbiguousAfter g d combine (start root) hs before f n) →
      resolve g d ⟨combine, true⟩ root hs = resolve g d ⟨combine, false⟩ root hs) ∧
    (∀ before f n, AmbiguousAfter g d combine (start root) hs before f n →
      (∀ before' f' n', AmbiguousAfter g d combine (start root) hs before' f' n' →
        before.length ≤ before'.length) →
      (resolve g d ⟨combine, true⟩ root hs).result =
        .error (.ambiguousScope (g.aliasOf n) (g.aliasOf f.node))) ∧
    (∀ l, (resolve g d ⟨combine, true⟩ root hs).result = .ok l →
      (resolve g d ⟨combine, false⟩ root hs).result = .ok l) ∧
    (g.Scoped (.component root) → ∀ before f,
      (hops g d ⟨combine, false⟩ (start root) before).result = .ok f →
        (f.multiple = true ↔ ¬ g.Narrowed (.component root) before)) := by
  refine ⟨?_, ?_, ?_, ?_⟩
  · intro h
    rw [resolve, resolve, hops_strict_of_not h]
  · intro before f n h hfirst
    rw [resolve_result, hops_strict_of_first h hfirst]
    rfl
  · intro l h
    rw [resolve_result] at h ⊢
    obtain ⟨f, hhops, hfinish⟩ := Outcome.bind_eq_ok_iff.1 h
    exact Outcome.bind_eq_ok_iff.2 ⟨f, hops_of_strict hhops, hfinish⟩
  · intro hscoped before f hhops
    exact multiple_iff_not_narrowed hscoped hhops

open Walk in
/-- The name under all rows is refused, that of the second row is not. -/
theorem resolve_strict_rows :
    rowsStore.graph.Scoped (.component 0) ∧
    (∃ f : Frame Nat PageLocator,
      AmbiguousAfter rowsStore.graph (PageLocator.driver {} []) true (start 0)
        [.plain "Rows", .plain "Name"] [.plain "Rows"] f
        (.leaf { name := "Name", selector := "td.name" }) ∧
      ¬ rowsStore.graph.Narrowed (.component 0) [.plain "Rows"]) ∧
    (resolve rowsStore.graph (PageLocator.driver {} []) ⟨true, true⟩ 0
      [.plain "Rows", .plain "Name"]).result = .error (.ambiguousScope (some "Name") (some "Rows")) ∧
    resolve rowsStore.graph (PageLocator.driver {} []) ⟨true, true⟩ 0 [.plain "Rows"] =
      resolve rowsStore.graph (PageLocator.driver {} []) ⟨true, false⟩ 0 [.plain "Rows"] ∧
    ∃ l, (resolve rowsStore.graph (PageLocator.driver {} []) ⟨true, false⟩ 0
      [.picked "Rows" (.index 2), .plain "Name"]).result = .ok l := by
  have hscoped := rowsStore_built.scoped (.component 0)
  have hrows : AmbiguousAfter rowsStore.graph (PageLocator.driver {} []) true (start 0)
      [.plain "Rows", .plain "Name"] [.plain "Rows"]
      ⟨some ⟨[.select "html" none, .select "tr" none], .css, some "tr",
        some [.select "html" none]⟩, .component 1, true⟩
      (.leaf { name := "Name", selector := "td.name" }) :=
    ⟨rfl, .plain "Name", [], rfl, rfl, ⟨"Name", rfl, rfl⟩, rfl, rfl⟩
  -- Nothing is ambiguous at the start.
  have hstart : ∀ (hs : List Hop) (f : Frame Nat PageLocator) (n : Node Nat),
      ¬ AmbiguousAfter rowsStore.graph (PageLocator.driver {} []) true (start 0) hs [] f n := by
    rintro hs f n ⟨hhops, _, _, _, hambiguous⟩
    cases hhops
    cases hambiguous.multiple
  have hname := resolve_strict rowsStore.graph (PageLocator.driver {} []) true 0
    [.plain "Rows", .plain "Name"]
  refine ⟨hscoped, ⟨_, hrows, (hname.2.2.2 hscoped _ _ hrows.1).1 rfl⟩, ?_, ?_, ?_⟩
  · refine hname.2.1 _ _ _ hrows ?_
    intro before' f' n' h'
    cases before' with
    | nil => exact absurd h' (hstart _ f' n')
    | cons hop before' => simp
  · refine (resolve_strict rowsStore.graph (PageLocator.driver {} []) true 0 [.plain "Rows"]).1 ?_
    intro before f n h
    cases before with
    | nil => exact hstart _ f n h
    | cons hop before =>
        obtain ⟨_, hop', after, hsplit, _⟩ := h
        simp at hsplit
  · exact ⟨_, (resolve_strict rowsStore.graph (PageLocator.driver {} []) true 0
      [.picked "Rows" (.index 2), .plain "Name"]).2.2.1 _ rfl⟩

end PageAtlas
