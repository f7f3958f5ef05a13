import PageAtlas.Proofs.Locator.Reading
import PageAtlas.Proofs.Resolution.Agreement

/-!
# When a resolution reads the page

Of the hops that a resolution comes to, only those read the page that pick by a
text from a collection and are not combined with it. Each of them scans its
collection, and nothing else is asked of the page.
-/

namespace PageAtlas

open PageAtlas.Path

namespace Walk

variable {ν : Type} (g : Graph ν) (naming : Naming) (page : PageTexts) (o : Options)

/-- The scan that a hop takes: it picks by a text from a collection, and the two
are not combined. -/
def scan? (f : Frame ν PageLocator) : Hop → Option Scan
  | .picked name (.text wanted) =>
      match g.lookup f.node name with
      | .error _ => none
      | .ok n =>
          match g.query n with
          | .error _ => none
          | .ok q =>
              if g.isCollection n = true ∧ ¬ (o.combine = true ∧ q.type = .css) then
                some ⟨(matchesOf (PageLocator.driver naming page) f q true).steps, wanted⟩
              else none
  | _ => none

def scans (f : Frame ν PageLocator) (hs : List Hop) : List Scan :=
  (visits g (PageLocator.driver naming page) o f hs).filterMap fun v =>
    scan? g naming page o v.1 v.2

variable {g o}

theorem calls_step (f : Frame ν PageLocator) (hop : Hop) :
    (step g (PageLocator.driver naming page) o f hop).calls =
      match g.lookup f.node hop.name with
      | .error _ => []
      | .ok n =>
          match hop with
          | .plain _ => (plain g (PageLocator.driver naming page) o f n).calls
          | .picked name p => (picked g (PageLocator.driver naming page) o f n name p).calls := by
  rw [step]
  cases hn : g.lookup f.node hop.name with
  | error e => exact Run.calls_bind_of_error (x := lookup g f.node hop.name) hn
  | ok n =>
      rw [Run.calls_bind_of_ok (x := lookup g f.node hop.name) hn]
      cases hop <;> rfl

theorem calls_picked_text {f : Frame ν PageLocator} {n : Node ν} {q : Query}
    (hcollection : g.isCollection n = true) (hquery : g.query n = .ok q) (name wanted : String) :
    (picked g (PageLocator.driver naming page) o f n name (.text wanted)).calls =
      (locate g (PageLocator.driver naming page) f n true).calls ++
        (TextMatch.find (PageLocator.driver naming page) o.combine
          (matchesOf (PageLocator.driver naming page) f q true) wanted).calls := by
  have hlocate : (locate g (PageLocator.driver naming page) f n true).result =
      .ok (matchesOf (PageLocator.driver naming page) f q true) := by
    rw [locate_result, hquery]
    rfl
  rw [picked, hcollection]
  change (locate g (PageLocator.driver naming page) f n true >>= _).calls = _
  rw [Run.calls_bind_of_ok hlocate, Run.calls_bind_of_ok (pick_result _ o name _ (.text wanted)),
    pick, Run.calls_bind_of_ok (Run.result_log _)]
  simp

theorem combined?_matchesOf (f : Frame ν PageLocator) (q : Query) (wanted : String) :
    TextMatch.combined? (PageLocator.driver naming page) o.combine
        (matchesOf (PageLocator.driver naming page) f q true) wanted =
      if o.combine = true ∧ q.type = .css then
        some (PageLocator.under (scopeLocator (PageLocator.driver naming page) f).steps q.selector
          (some wanted) .cssText q.selector)
      else none := by
  have hcombine := PageLocator.combine?_all naming.jsEngine
    (scopeLocator (PageLocator.driver naming page) f) q wanted
  rw [TextMatch.combined?]
  cases hon : o.combine with
  | false => simp
  | true =>
      rw [if_pos rfl]
      refine hcombine.trans ?_
      simp

/-- A pick by text from a collection that is there scans it, unless the two are
combined. -/
theorem reads_picked_text {f : Frame ν PageLocator} {n : Node ν} {q : Query}
    (hcollection : g.isCollection n = true) (hquery : g.query n = .ok q) (name wanted : String) :
    Reads page
      (if o.combine = true ∧ q.type = .css then []
        else [⟨(matchesOf (PageLocator.driver naming page) f q true).steps, wanted⟩])
      (picked g (PageLocator.driver naming page) o f n name (.text wanted)).calls := by
  have hlocate := (only_locate (g := g) (PageLocator.notes_builds naming page) f n true).builds
  have hcombined := combined?_matchesOf naming page (o := o) f q wanted
  rw [calls_picked_text naming page hcollection hquery]
  by_cases h : o.combine = true ∧ q.type = .css
  · rw [if_pos h] at hcombined ⊢
    rw [PageLocator.calls_find_of_combined naming page hcombined]
    refine .built fun c hc => ?_
    rcases List.mem_append.1 hc with hc | hc
    · exact hlocate c hc
    · rw [List.mem_singleton.1 hc]
      trivial
  · rw [if_neg h] at hcombined ⊢
    obtain ⟨after, hafter, hfind⟩ := PageLocator.calls_find_of_scan naming page hcombined
    rw [hfind, ← List.append_assoc]
    exact .scan hlocate (.built hafter)

/-- A pick by text that finds no collection reads nothing. -/
theorem builds_picked_text {f : Frame ν PageLocator} {n : Node ν}
    (h : g.isCollection n = false ∨ ∃ e, g.query n = .error e) (name wanted : String) :
    ∀ c ∈ (picked g (PageLocator.driver naming page) o f n name (.text wanted)).calls,
      c.Builds := by
  rw [picked]
  cases hcollection : g.isCollection n with
  | false =>
      intro c hc
      cases hc
  | true =>
      rw [hcollection] at h
      obtain ⟨e, hquery⟩ := h.resolve_left Bool.true_eq_false.mp
      have hlocate : (locate g (PageLocator.driver naming page) f n true).result = .error e := by
        rw [locate_result, hquery]
        rfl
      change ∀ c ∈ (locate g (PageLocator.driver naming page) f n true >>= _).calls, c.Builds
      rw [Run.calls_bind_of_error hlocate]
      exact (only_locate (PageLocator.notes_builds naming page) f n true).builds

theorem scan?_picked_text {f : Frame ν PageLocator} {n : Node ν} {name : String}
    (hlookup : g.lookup f.node name = .ok n) (wanted : String) :
    scan? g naming page o f (.picked name (.text wanted)) =
      match g.query n with
      | .error _ => none
      | .ok q =>
          if g.isCollection n = true ∧ ¬ (o.combine = true ∧ q.type = .css) then
            some ⟨(matchesOf (PageLocator.driver naming page) f q true).steps, wanted⟩
          else none := by
  rw [scan?, hlookup]

theorem scan?_of_lookup_eq_error {f : Frame ν PageLocator} {hop : Hop} {e : Failure}
    (hlookup : g.lookup f.node hop.name = .error e) : scan? g naming page o f hop = none := by
  cases hop with
  | plain name => rfl
  | picked name p =>
      cases p with
      | index i => rfl
      | text wanted =>
          have hname : g.lookup f.node name = .error e := hlookup
          rw [scan?, hname]

theorem reads_step (f : Frame ν PageLocator) (hop : Hop) :
    Reads page (scan? g naming page o f hop).toList
      (step g (PageLocator.driver naming page) o f hop).calls := by
  have hnotes := PageLocator.notes_builds naming page
  rw [calls_step naming page]
  cases hlookup : g.lookup f.node hop.name with
  | error e =>
      rw [scan?_of_lookup_eq_error naming page hlookup]
      exact .built fun c hc => by cases hc
  | ok n =>
      -- Only a pick by text can scan.
      cases hop with
      | plain name => exact .built (only_plain hnotes f n).builds
      | picked name p =>
          cases p with
          | index i =>
              exact .built (only_picked hnotes (only_pick_index hnotes.event name i) f n).builds
          | text wanted =>
              have hname : g.lookup f.node name = .ok n := hlookup
              have hscan := scan?_picked_text naming page (o := o) hname wanted
              rw [hscan]
              cases hquery : g.query n with
              | error e =>
                  have hnone := builds_picked_text naming page (o := o) (f := f)
                    (Or.inr ⟨e, hquery⟩) name wanted
                  exact .built hnone
              | ok q =>
                  cases hcollection : g.isCollection n with
                  | false =>
                      have hnone := builds_picked_text naming page (o := o) (f := f)
                        (Or.inl hcollection) name wanted
                      simpa using Reads.built hnone
                  | true =>
                      have htext := reads_picked_text naming page (o := o) (f := f)
                        hcollection hquery name wanted
                      by_cases hcombined : o.combine = true ∧ q.type = .css
                      · simpa [hcombined] using htext
                      · simpa [hcombined] using htext

/-- The run lemma: the hops that are visited read one after another. -/
theorem reads_hops (f : Frame ν PageLocator) (hs : List Hop) :
    Reads page (scans g naming page o f hs)
      (hops g (PageLocator.driver naming page) o f hs).calls := by
  -- Over any visits: a hop that fails ends the scans and the calls alike.
  have hvisits : ∀ vs : List (Frame ν PageLocator × Hop),
      Reads page (vs.filterMap fun v => scan? g naming page o v.1 v.2)
        (vs.flatMap fun v => (step g (PageLocator.driver naming page) o v.1 v.2).calls) := by
    intro vs
    induction vs with
    | nil => exact .built fun c hc => by cases hc
    | cons v vs ih =>
        rw [List.flatMap_cons, List.filterMap_cons]
        have hstep := (reads_step (g := g) (o := o) naming page v.1 v.2).append ih
        cases hscan : scan? g naming page o v.1 v.2 with
        | none => simpa [hscan] using hstep
        | some s => simpa [hscan] using hstep
  have hcalls := hvisits (visits g (PageLocator.driver naming page) o f hs)
  rw [Run.calls, Run.callsIn, notes_hops, List.filterMap_flatMap]
  exact hcalls

end Walk

/-- Whether it succeeds or fails: of the calls of a resolution, those that count
and fetch are made by the scans of the hops that it came to, one count each. A
scan fetches the texts right after the count, in order and up to the first that
contains the wanted one. All other calls build locators. -/
theorem resolve_reads {ν : Type} (g : Graph ν) (naming : Naming) (page : PageTexts) (o : Options)
    (root : ν) (hs : List Hop) :
    Reads page (Walk.scans g naming page o (Walk.start root) hs)
        (resolve g (PageLocator.driver naming page) o root hs).calls ∧
      (resolve g (PageLocator.driver naming page) o root hs).calls.filter Call.isCount =
        (Walk.scans g naming page o (Walk.start root) hs).map (fun s => .count s.collection) ∧
      (resolve g (PageLocator.driver naming page) o root hs).calls.filter Call.isInnerText =
        (Walk.scans g naming page o (Walk.start root) hs).flatMap (Scan.fetches page) := by
  have hcalls : (resolve g (PageLocator.driver naming page) o root hs).calls =
      (Walk.hops g (PageLocator.driver naming page) o (Walk.start root) hs).calls := by
    rw [resolve]
    cases hhops : (Walk.hops g (PageLocator.driver naming page) o (Walk.start root) hs).result with
    | error e => exact Run.calls_bind_of_error hhops
    | ok f =>
        have hfinish : (Walk.finish g root hs.length f).calls = [] := by
          rw [Walk.finish]
          split
          · rfl
          · rfl
        rw [Run.calls_bind_of_ok hhops, hfinish, List.append_nil]
  have hreads := Walk.reads_hops (g := g) (o := o) naming page (Walk.start root) hs
  rw [hcalls]
  exact ⟨hreads, hreads.filter_isCount, hreads.filter_isInnerText⟩

/-- The rows are scanned up to the second, and the links are not. -/
theorem resolve_reads_table :
    Walk.scans tableGraph {} tablePage {} (Walk.start 0) tableHops =
        [⟨[.select "html" none, .select "xpath=//tr" none], "Total"⟩] ∧
      (resolve tableGraph (PageLocator.driver {} tablePage) {} 0 tableHops).calls.filter
          Call.isInnerText =
        [.innerText [.select "html" none, .select "xpath=//tr" none, .nth 0],
          .innerText [.select "html" none, .select "xpath=//tr" none, .nth 1]] := by
  have hscans : Walk.scans tableGraph {} tablePage {} (Walk.start 0) tableHops =
      [⟨[.select "html" none, .select "xpath=//tr" none], "Total"⟩] := rfl
  refine ⟨hscans, ?_⟩
  rw [(resolve_reads tableGraph {} tablePage {} 0 tableHops).2.2, hscans]
  decide +kernel

end PageAtlas
