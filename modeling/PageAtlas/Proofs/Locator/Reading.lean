import PageAtlas.Proofs.Locator.Scan
import PageAtlas.Proofs.Resolution.Notes

/-!
# Calls that read the page

Building a locator asks the page for nothing. A match by text reads the page only
if the text is not combined with the collection: it counts the elements, and then
fetches one text after another until one contains the wanted text. Nothing comes
between these calls.
-/

namespace PageAtlas

namespace Call

def Builds : Call → Prop
  | locator .. => True
  | filter .. => True
  | count _ => False
  | innerText _ => False

def isCount : Call → Bool
  | count _ => true
  | _ => false

def isInnerText : Call → Bool
  | innerText _ => true
  | _ => false

theorem Builds.isCount {c : Call} (h : c.Builds) : c.isCount = false := by
  cases c with
  | count on => cases h
  | _ => rfl

theorem Builds.isInnerText {c : Call} (h : c.Builds) : c.isInnerText = false := by
  cases c with
  | innerText on => cases h
  | _ => rfl

end Call

structure Scan where
  collection : List Step
  wanted : String
  deriving DecidableEq, Repr

namespace Scan

variable (page : PageTexts)

/-- The positions up to the first text that contains the wanted one, or all. -/
def positions (s : Scan) : List Nat :=
  (List.range (page.evaluate s.collection).length).take
    ((page.evaluate s.collection).findIdx (Text.contains · s.wanted) + 1)

def fetches (s : Scan) : List Call :=
  (s.positions page).map fun i => .innerText (s.collection ++ [.nth i])

/-- The elements are counted, and then their texts are fetched in order. -/
def calls (s : Scan) : List Call := .count s.collection :: s.fetches page

theorem filter_isCount_calls (s : Scan) :
    (s.calls page).filter Call.isCount = [.count s.collection] := by
  have hfetches : (s.fetches page).filter Call.isCount = [] := by
    rw [List.filter_eq_nil_iff]
    intro c hc
    obtain ⟨i, _, rfl⟩ := List.mem_map.1 hc
    exact Bool.false_ne_true
  rw [calls, List.filter_cons_of_pos rfl, hfetches]

theorem filter_isInnerText_calls (s : Scan) :
    (s.calls page).filter Call.isInnerText = s.fetches page := by
  rw [calls, List.filter_cons_of_neg Bool.false_ne_true, List.filter_eq_self]
  intro c hc
  obtain ⟨i, _, rfl⟩ := List.mem_map.1 hc
  rfl

end Scan

/-- The calls build locators, except for those of the scans, which come in this
order and each in one piece. -/
inductive Reads (page : PageTexts) : List Scan → List Call → Prop
  | built {cs : List Call} (h : ∀ c ∈ cs, c.Builds) : Reads page [] cs
  | scan {before after : List Call} {s : Scan} {ss : List Scan}
      (h : ∀ c ∈ before, c.Builds) (hafter : Reads page ss after) :
      Reads page (s :: ss) (before ++ s.calls page ++ after)

namespace Reads

variable {page : PageTexts} {ss ss' : List Scan} {cs cs' : List Call}

theorem append (h : Reads page ss cs) (h' : Reads page ss' cs') :
    Reads page (ss ++ ss') (cs ++ cs') := by
  -- What is left of the first part joins what comes before the next scan.
  induction h with
  | built hbuilt =>
      cases h' with
      | built hbuilt' =>
          refine .built fun c hc => ?_
          exact (List.mem_append.1 hc).elim (hbuilt c) (hbuilt' c)
      | scan hbefore hafter =>
          rw [List.nil_append, ← List.append_assoc, ← List.append_assoc]
          refine .scan (fun c hc => ?_) hafter
          exact (List.mem_append.1 hc).elim (hbuilt c) (hbefore c)
  | scan hbefore _ ih =>
      rw [List.append_assoc, List.cons_append]
      exact .scan hbefore ih

/-- Calls of a kind that builds no locator are those of the scans. -/
theorem filter_eq {p : Call → Bool} (hp : ∀ c : Call, c.Builds → p c = false)
    (h : Reads page ss cs) : cs.filter p = ss.flatMap fun s => (s.calls page).filter p := by
  have hnone : ∀ bs : List Call, (∀ c ∈ bs, c.Builds) → bs.filter p = [] := by
    intro bs hbs
    rw [List.filter_eq_nil_iff]
    intro c hc
    rw [hp c (hbs c hc)]
    exact Bool.false_ne_true
  induction h with
  | built hbuilt => exact hnone _ hbuilt
  | scan hbefore _ ih =>
      rw [List.filter_append, List.filter_append, hnone _ hbefore, ih, List.flatMap_cons,
        List.nil_append]

theorem filter_isCount (h : Reads page ss cs) :
    cs.filter Call.isCount = ss.map fun s => .count s.collection := by
  rw [h.filter_eq fun _ hc => hc.isCount, List.map_eq_flatMap]
  exact congrArg (ss.flatMap ·) (funext (Scan.filter_isCount_calls page))

theorem filter_isInnerText (h : Reads page ss cs) :
    cs.filter Call.isInnerText = ss.flatMap (Scan.fetches page) := by
  rw [h.filter_eq fun _ hc => hc.isInnerText]
  exact congrArg (ss.flatMap ·) (funext (Scan.filter_isInnerText_calls page))

end Reads

/-- The note is no call, or one that builds a locator. -/
def Note.Builds : Note → Prop
  | .call c => c.Builds
  | _ => True

theorem Run.Only.builds {α : Type} {x : Run α} (h : x.Only Note.Builds) :
    ∀ c ∈ x.calls, c.Builds := by
  intro c hc
  obtain ⟨n, hn, hcall⟩ := List.mem_filterMap.1 hc
  cases n with
  | call c' =>
      cases hcall
      exact h _ hn
  | lookup name => cases hcall
  | event e => cases hcall

namespace TextMatch

variable {L : Type} (d : Driver L)

/-- Texts are fetched up to the first that matches; without one, the collection
is narrowed. -/
theorem calls_scan (collection : L) (wanted : String) (scanned : Nat) (es : List (Candidate L)) :
    (scan d collection wanted scanned es).calls =
      (es.take (es.findIdx (fun e => accepts wanted e.fetch.value) + 1)).flatMap
          (fun e => e.fetch.calls) ++
        if es.any fun e => accepts wanted e.fetch.value then []
        else (d.withText collection wanted).calls := by
  induction es generalizing scanned with
  | nil =>
      rw [scan, fallback, Run.calls_bind_of_ok (Run.result_log _),
        Run.calls_bind_of_ok (Run.result_called _)]
      simp
  | cons e es ih =>
      rw [scan, Run.calls_bind_of_ok (Run.result_called e.fetch), Run.calls_called,
        List.findIdx_cons, List.any_cons]
      cases h : accepts wanted e.fetch.value with
      | true =>
          rw [if_pos rfl, Run.calls_bind_of_ok (Run.result_log _)]
          simp
      | false =>
          rw [if_neg Bool.false_ne_true, ih]
          simp

end TextMatch

/-! ## On a page -/

namespace PageLocator

variable (naming : Naming) (page : PageTexts)

theorem notes_builds : (driver naming page).Notes Note.Builds where
  event := fun _ => trivial
  root := by
    intro c hc
    rw [List.mem_singleton.1 hc]
    trivial
  locate := by
    have hunder : ∀ (on : List Step) (step : String) (text : Option String) (engine : Engine)
        (selector : String), ∀ c ∈ (under on step text engine selector).calls, c.Builds := by
      intro on step text engine selector c hc
      rw [List.mem_singleton.1 hc]
      trivial
    intro scope q multiple
    change ∀ c ∈ (all naming.jsEngine scope q).calls, c.Builds
    rw [all]
    cases q.type with
    | css => exact hunder _ _ _ _ _
    | xpath => exact hunder _ _ _ _ _
    | js => exact hunder _ _ _ _ _
    | cssContainingText => exact hunder _ _ _ _ _

/-- Only a query by css is combined with a text. -/
theorem combine?_all (jsEngine : String) (scope : PageLocator) (q : Query) (wanted : String) :
    (all jsEngine scope q).value.combine? wanted =
      if q.type = .css then some (under scope.steps q.selector (some wanted) .cssText q.selector)
      else none := by
  rw [all]
  cases q.type <;> simp [combine?, under]

theorem calls_find_of_combined {combine : Bool} {l : PageLocator} {wanted : String}
    {query : Called PageLocator}
    (hq : TextMatch.combined? (driver naming page) combine l wanted = some query) :
    (TextMatch.find (driver naming page) combine l wanted).calls = query.calls := by
  rw [TextMatch.find, hq]
  change (Run.called query >>= _).calls = _
  rw [Run.calls_bind_of_ok (Run.result_called query), Run.calls_called]
  simp [Run.calls_bind_of_ok (Run.result_log _)]

theorem findIdx_scan (l : PageLocator) (wanted : String) :
    ((driver naming page).scan l).value.findIdx
        (fun e => TextMatch.accepts wanted e.fetch.value) =
      (page.evaluate l.steps).findIdx (Text.contains · wanted) := by
  rw [← enumerated_eq_evaluate naming page l, Driver.enumerated, List.findIdx_map]
  rfl

/-- A scan that does not meet the text narrows the collection afterwards. -/
theorem calls_find_of_scan {combine : Bool} {l : PageLocator} {wanted : String}
    (hq : TextMatch.combined? (driver naming page) combine l wanted = none) :
    ∃ after, (∀ c ∈ after, c.Builds) ∧
      (TextMatch.find (driver naming page) combine l wanted).calls =
        (Scan.mk l.steps wanted).calls page ++ after := by
  have hfetches : ((((driver naming page).scan l).value.take
      (((driver naming page).scan l).value.findIdx
        (fun e => TextMatch.accepts wanted e.fetch.value) + 1)).flatMap fun e => e.fetch.calls) =
      (Scan.mk l.steps wanted).fetches page := by
    rw [findIdx_scan]
    change ((List.map (candidate page l) _).take _).flatMap _ = _
    rw [← List.map_take, List.flatMap_map, Scan.fetches, List.map_eq_flatMap]
    rfl
  rw [TextMatch.find, hq]
  change ∃ after, _ ∧ (Run.called ((driver naming page).scan l) >>= _).calls = _
  rw [Run.calls_bind_of_ok (Run.result_called _), Run.calls_called, TextMatch.calls_scan,
    hfetches, ← List.append_assoc]
  refine ⟨_, ?_, rfl⟩
  split
  · intro c hc
    cases hc
  · intro c hc
    rw [List.mem_singleton.1 hc]
    trivial

end PageLocator

end PageAtlas
