import PageAtlas.Proofs.Command.Visit
import PageAtlas.Proofs.Log.History
import PageAtlas.Proofs.Log.Traced

/-!
# Resolving at the command line

However a resolution ends, the page is unbound again, and the browser is closed
before it is stopped. A failure is reported in one line, the same one with and
without a browser, unless logging it is what fails or the line cannot be printed.
-/

namespace PageAtlas

theorem Logging.unbind_bind {l : Logging} {name : String} (h : name ∉ l.context.keys)
    (value : Json) : (l.bind [(name, value)]).unbind [name] = l := by
  change { l with context := (l.context.insert name value).erase name } = l
  rw [Ordered.erase_insert_of_notMem h]

/-- An outcome is to print a line and nothing else, which fails if the line cannot be
printed. -/
structure Outcome.Tells (o : Outcome) (status : Nat) (line : String) : Prop where
  printed : ∀ text, Text.Spelling.print line = .ok text →
    o.status = status ∧ o.output = text ++ "\n" ∧ o.obstacle = none
  unprinted : ∀ e, Text.Spelling.print line = .error e →
    o.status = 1 ∧ o.output = "" ∧ o.obstacle = some (.unprintable e)

theorem Outcome.tells_said (w : Workplace) (status : Nat) (line : String)
    (events : List BrowserEvent) (calls : List Call) :
    Tells { said w status [line] with events, calls } status line where
  printed text h := by
    rw [said, Text.Spelling.printLines_singleton, h]
    exact ⟨rfl, rfl, rfl⟩
  unprinted e h := by
    rw [said, Text.Spelling.printLines_singleton, h]
    exact ⟨rfl, rfl, rfl⟩

namespace Workplace

open Text.Spelling (ofText)

def selected (w : Workplace) (definition : String) (page : Option String) :
    Except LoadFault Block :=
  let file := FilePath.ofText definition
  match PageDef.load w.env file.shown (w.tree.read file) with
  | .error e => .error e
  | .ok ps => PageDef.buildSelected definition (page.map ofText) ps

/-- What the resolution itself comes to, before it is reported. -/
def attempt (w : Workplace) (root : Block) (path : String) (url : Option String)
    (strict : Option Bool) : Except Obstacle String :=
  match nonEmpty? url with
  | none => w.dryRun root (ofText path) strict
  | some address =>
      (w.liveRun root (ofText path) address strict).outcome.map fun n =>
        "OK  " ++ ofText path ++ "  ->  " ++ Text.Numeral.ofNat n ++ " match(es) at " ++
          ofText address

def eventsOf (w : Workplace) (root : Block) (path : String) (url : Option String)
    (strict : Option Bool) : List BrowserEvent :=
  match nonEmpty? url with
  | none => []
  | some address => (w.liveRun root (ofText path) address strict).events

def noteFault? (w : Workplace) (f : Failure) : Option Markup.MarkFault :=
  (failureNote? f).bind w.logging.traceFault?

variable {w : Workplace} {definition path : String} {page url : Option String}
  {strict : Option Bool} {root : Block}

theorem resolve_eq : w.resolve definition path page url strict =
    (match w.selected definition page with
    | .error e => .said w 1 ["ERR " ++ ofText definition ++ "  ->  " ++ e.message]
    | .ok root =>
        let path := ofText path
        let w := { w with logging := w.logging.bind [(pageKey, .str root.header.name)] }
        match nonEmpty? url with
        | none => w.conclude path (w.dryRun root path strict) [] []
        | some url =>
            let live := w.liveRun root path url strict
            let result := live.outcome.map fun n =>
              "OK  " ++ path ++ "  ->  " ++ Text.Numeral.ofNat n ++ " match(es) at " ++
                ofText url
            w.conclude path result live.events live.calls) := by
  rfl

theorem resolve_of_error {e : LoadFault} (h : w.selected definition page = .error e) :
    w.resolve definition path page url strict =
      .said w 1 ["ERR " ++ ofText definition ++ "  ->  " ++ e.message] := by
  rw [resolve_eq]
  rw [h]

theorem resolve_of_ok (h : w.selected definition page = .ok root) (path : String)
    (url : Option String) (strict : Option Bool) :
    ∃ calls, w.resolve definition path page url strict =
      { w with logging := w.logging.bind [(pageKey, .str root.header.name)] }.conclude (ofText path)
        (w.attempt root path url strict) (w.eventsOf root path url strict) calls := by
  rw [resolve_eq, attempt, eventsOf]
  rw [h]
  dsimp only
  generalize ofText path = spelled
  -- What is bound plays no part in what can be logged, so both attempts are the same.
  cases nonEmpty? url with
  | none => exact ⟨[], rfl⟩
  | some address => exact ⟨_, rfl⟩

/-! ## The end of a resolution -/

section Conclude

variable {result : Except Obstacle String} {events : List BrowserEvent} {calls : List Call}

theorem conclude_logging :
    (w.conclude path result events calls).logging = w.logging.unbind [pageKey] := by
  rw [conclude]
  dsimp only
  split
  · exact Outcome.logging_said _ _ _
  · split
    · exact Outcome.logging_said _ _ _
    · rfl

theorem conclude_events : (w.conclude path result events calls).events = events := rfl

/-- A failure is told in one line, unless logging it is what fails. -/
theorem conclude_of_failure {f : Failure} {name : String} (hname : f.reportName? = some name)
    (w : Workplace) (path : String) (events : List BrowserEvent) (calls : List Call) :
    let o := w.conclude path (.error (.failure f)) events calls
    o.status = 1 ∧
      (w.noteFault? f = none →
        o.Tells 1 ("ERR " ++ path ++ "  ->  " ++ name ++ ": " ++ f.message)) ∧
      ∀ fault, w.noteFault? f = some fault →
        o.output = "" ∧ o.obstacle = some (.marks fault) := by
  intro o
  cases hnote : w.noteFault? f with
  | none =>
      have hnoted : w.noted (.error (.failure f)) = .error (.failure f) := by
        rw [noteFault?] at hnote
        rw [noted, hnote]
      have hline : obstacleLine? path (.failure f) =
          some ("ERR " ++ path ++ "  ->  " ++ name ++ ": " ++ f.message) := by
        rw [obstacleLine?, hname]
        rfl
      have ho : o = { Outcome.said { w with logging := w.logging.unbind [pageKey] } 1
          ["ERR " ++ path ++ "  ->  " ++ name ++ ": " ++ f.message] with events, calls } := by
        change w.conclude path (.error (.failure f)) events calls = _
        rw [conclude, hnoted]
        dsimp only
        rw [hline]
      rw [ho]
      refine ⟨Outcome.status_said_one _ _, fun _ => Outcome.tells_said _ 1 _ events calls, ?_⟩
      intro fault hfault
      cases hfault
  | some fault =>
      have hnoted : w.noted (.error (.failure f)) = .error (.marks fault) := by
        rw [noteFault?] at hnote
        rw [noted, hnote]
      have ho : o = { status := 1, obstacle := some (.marks fault),
                      logging := w.logging.unbind [pageKey], events, calls } := by
        change w.conclude path (.error (.failure f)) events calls = _
        rw [conclude, hnoted]
        rfl
      rw [ho]
      refine ⟨rfl, ?_, ?_⟩
      · intro hnone
        cases hnone
      · intro _ hfault
        cases hfault
        exact ⟨rfl, rfl⟩

/-- What is printed depends on how a failed resolution failed, and on nothing else. -/
theorem conclude_congr {o : Obstacle} {events' : List BrowserEvent} {calls' : List Call} :
    (w.conclude path (.error o) events calls).status =
        (w.conclude path (.error o) events' calls').status ∧
      (w.conclude path (.error o) events calls).output =
        (w.conclude path (.error o) events' calls').output :=
  ⟨rfl, rfl⟩

end Conclude

/-! ## With and without a browser -/

theorem dryRun_eq_failure_iff {f : Failure} :
    w.dryRun root path strict = .error (.failure f) ↔
      let run := resolvePath definitionGraph (Chain.driver w.settings.naming [])
        (w.settings.options strict) root path
      w.logging.cut? run.notes = none ∧ run.result = .error f := by
  rw [dryRun]
  dsimp only
  split
  next h => simp [h]
  next h =>
    split
    next hresult => simp [hresult]
    next hresult => simp [h, hresult]

theorem liveRun_eq_failure_iff {site : Site} {address : String} {f : Failure}
    (hsite : w.site = some site) (hrefusal : site.refusal = none)
    (hregistered : w.logging.traceFault? (LiveRun.registered w.settings.jsEngine) = none) :
    (w.liveRun root path address strict).outcome = .error (.failure f) ↔
      let run := resolvePath definitionGraph (PageLocator.driver w.settings.naming site.texts)
        (w.settings.options strict) root path
      w.logging.cut? run.notes = none ∧ run.result = .error f := by
  rw [liveRun, hsite]
  dsimp only
  rw [LiveRun.run, hregistered, hrefusal]
  dsimp only
  rw [LiveRun.count]
  split
  next h => simp [h]
  next h =>
    split
    next hresult => simp [h, hresult]
    next hresult => simp [hresult]
    next hresult => simp [hresult]

/-- With a page that loads, a resolution fails in the browser exactly as it fails
without one. -/
theorem dryRun_eq_failure_iff_liveRun {site : Site} {address : String} {f : Failure}
    (hsite : w.site = some site) (hrefusal : site.refusal = none)
    (hregistered : w.logging.traceFault? (LiveRun.registered w.settings.jsEngine) = none) :
    w.dryRun root path strict = .error (.failure f) ↔
      (w.liveRun root path address strict).outcome = .error (.failure f) := by
  have htwins := resolvePath_twins definitionGraph (Chain.driver w.settings.naming [])
    (PageLocator.driver w.settings.naming site.texts) (w.settings.options strict) root path
  rw [dryRun_eq_failure_iff, liveRun_eq_failure_iff hsite hrefusal hregistered]
  refine and_congr ⟨?_, ?_⟩ (htwins.result.error_iff f)
  · exact w.logging.cut?_eq_none_of_marks htwins.marks
  · exact w.logging.cut?_eq_none_of_marks htwins.marks.symm

theorem events_liveRun {site : Site} (address : String) (hsite : w.site = some site) :
    (w.liveRun root path address strict).events =
      if w.logging.traceFault? (LiveRun.registered w.settings.jsEngine) = none then
        LiveRun.session w.settings address
      else [.register w.settings.jsEngine, .stop] := by
  rw [liveRun, hsite]
  dsimp only
  rw [LiveRun.run]
  split
  next h => rw [h, if_neg (by simp)]
  next h _ => rw [h, if_pos rfl]
  next h _ => rw [h, if_pos rfl]

theorem attempt_none :
    w.attempt root path none strict = w.dryRun root (ofText path) strict := rfl

theorem attempt_eq_error_iff {address : String} (hurl : nonEmpty? url = some address)
    {o : Obstacle} : w.attempt root path url strict = .error o ↔
      (w.liveRun root (ofText path) address strict).outcome = .error o := by
  rw [attempt, hurl]
  dsimp only
  cases (w.liveRun root (ofText path) address strict).outcome with
  | error o' => simp [Except.map]
  | ok n => simp [Except.map]

/-! ## A resolution -/

theorem resolve_logging (hpage : pageKey ∉ w.logging.context.keys) :
    (w.resolve definition path page url strict).logging = w.logging := by
  cases h : w.selected definition page with
  | error e => rw [resolve_of_error h, Outcome.logging_said]
  | ok root =>
      obtain ⟨calls, ho⟩ := resolve_of_ok h path url strict
      rw [ho, conclude_logging]
      exact Logging.unbind_bind hpage _

theorem resolve_events {site : Site} {address : String}
    (hroot : w.selected definition page = .ok root) (hsite : w.site = some site)
    (hurl : nonEmpty? url = some address) :
    (w.resolve definition path page url strict).events =
      if w.logging.traceFault? (LiveRun.registered w.settings.jsEngine) = none then
        LiveRun.session w.settings address
      else [.register w.settings.jsEngine, .stop] := by
  obtain ⟨calls, ho⟩ := resolve_of_ok hroot path url strict
  rw [ho, conclude_events, eventsOf, hurl]
  exact events_liveRun address hsite

/-- The two attempts print the same, however different the browser's calls are. -/
theorem resolve_alike {o : Obstacle} (hroot : w.selected definition page = .ok root)
    (hdry : w.attempt root path none strict = .error o)
    (hlive : w.attempt root path url strict = .error o) :
    (w.resolve definition path page none strict).status =
        (w.resolve definition path page url strict).status ∧
      (w.resolve definition path page none strict).output =
        (w.resolve definition path page url strict).output := by
  obtain ⟨calls, hresolve⟩ := resolve_of_ok hroot path none strict
  obtain ⟨calls', hresolve'⟩ := resolve_of_ok hroot path url strict
  rw [hresolve, hresolve', hdry, hlive]
  exact conclude_congr

def debugging : Workplace :=
  { Workplace.holding [("pages.yaml", "page: P\n")] with
    logging := { configured := true, level := 10, browserLevel := 30, handlers := [.console true] }
    site := some {} }

def debuggedPage : Block := ⟨{ name := "P" }, []⟩

theorem selected_debugging : debugging.selected "pages.yaml" none = .ok debuggedPage :=
  PageAtlas.Outcome.eq_ok_of_toOption (by decide +kernel)

end Workplace

end PageAtlas
