import PageAtlas.Command.Element
import PageAtlas.Proofs.Command.Resolve
import PageAtlas.Proofs.Resolution.Grouped
import PageAtlas.Proofs.Resolution.Narrowing

/-!
# Paths without a locator, as they are used

A path that leads to groupings only has no locator. Asking a page in a browser for its
element then fails, and a dry run prints the word for nothing, which is not the printed
form of any chain that a path leads to.
-/

namespace PageAtlas

open PageAtlas.Path

/-! ## The word for nothing -/

theorem Chain.shown_of_two_parts {c : Chain} {p : Part} {ps : List Part} (hps : ps ≠ [])
    (h : c.parts = p :: ps) : ∃ rest, c.shown = p.shown ++ " >> " ++ rest := by
  have hmap : ps.map Part.shown ≠ [] := mt List.map_eq_nil_iff.1 hps
  rw [shown, h, List.map_cons, String.intercalate_cons_of_ne_nil hmap]
  exact ⟨_, rfl⟩

theorem print_chainText_eq_iff {ν : Type} {g : Graph ν} {naming : Naming} {texts : Chain.Texts}
    {o : Options} {root : ν} {hs : List Hop} {located : Option Chain}
    (h : (resolve g (Chain.driver naming texts) o root hs).result = .ok located) :
    Text.Spelling.print (Workplace.chainText located) = .ok "None" ↔ located = none := by
  refine ⟨fun hprint => ?_, fun heq => heq ▸ Text.Spelling.print_of_notMem (by decide)⟩
  cases located with
  | none => rfl
  | some c =>
      -- A chain has a part behind the root, and so the mark between two parts.
      obtain ⟨moves, hmoves, -, hparts⟩ := (narrows_chain g naming texts o root).front hs c h
      have hrest : moves.flatMap Move.parts ≠ [] := by
        obtain ⟨m, ms, rfl⟩ := List.exists_cons_of_ne_nil hmoves
        simp [Move.parts_ne_nil]
      obtain ⟨rest, hshown⟩ := Chain.shown_of_two_parts hrest hparts
      have hmark : '>' ∈ (Workplace.chainText (some c)).toList := by
        rw [Workplace.chainText, hshown]
        simp
      exact absurd (Text.Spelling.mem_of_print hprint (by decide) (by decide) hmark) (by decide)

namespace Workplace

open Text.Spelling (ofText ofText_append ofText_of_notMem print_ofText_append_eq_ok_iff)

variable {w : Workplace} {definition path : String} {page url : Option String}
  {strict : Option Bool} {root : Block}

theorem conclude_output_of_ok (w : Workplace) (path line : String) (events : List BrowserEvent)
    (calls : List Call) :
    (w.conclude path (.ok line) events calls).output = Report.printed [line] := by
  change (Outcome.said _ 0 [line]).output = _
  exact Outcome.output_said _ _ _

theorem err_ne_ok (s t : String) : "ERR " ++ s ≠ "OK  " ++ t := by
  intro h
  have hlist := congrArg String.toList h
  simp at hlist

theorem nothing_ne_ok (t : String) : "" ≠ "OK  " ++ t := by
  intro h
  have hlist := congrArg String.toList h
  simp at hlist

theorem printed_err_ne_ok (s t : String) : Report.printed ["ERR " ++ s] ≠ "OK  " ++ t := by
  rw [Report.printed, Text.Spelling.printLines_singleton]
  cases h : Text.Spelling.print ("ERR " ++ s) with
  | error e => exact nothing_ne_ok t
  | ok text =>
      obtain ⟨v, -, rfl⟩ := (Text.Spelling.print_append_eq_ok_iff (by decide)).1 h
      dsimp only
      rw [String.append_assoc]
      exact err_ne_ok _ t

/-- What is printed of a resolution that failed is no line of one that succeeded. -/
theorem conclude_output_of_error (w : Workplace) (path : String) (o : Obstacle)
    (events : List BrowserEvent) (calls : List Call) (line : String) :
    (w.conclude path (.error o) events calls).output ≠ "OK  " ++ line := by
  have hnoted : ∃ o', w.noted (.error o) = .error o' := by
    cases o with
    | failure f =>
        rw [noted]
        split <;> exact ⟨_, rfl⟩
    | _ => exact ⟨_, rfl⟩
  obtain ⟨o', ho'⟩ := hnoted
  rw [conclude, ho']
  dsimp only
  cases hline : obstacleLine? path o' with
  | none => exact nothing_ne_ok line
  | some told =>
      have herr : ∃ rest, told = "ERR " ++ rest := by
        cases o' with
        | failure f =>
            rw [obstacleLine?, Option.map_eq_some_iff] at hline
            obtain ⟨name, -, rfl⟩ := hline
            exact ⟨path ++ "  ->  " ++ name ++ ": " ++ f.message, by simp [String.append_assoc]⟩
        | _ => cases hline
      obtain ⟨rest, rfl⟩ := herr
      dsimp only
      rw [Outcome.output_said]
      exact printed_err_ne_ok rest line

theorem dryRun_eq_ok_iff {line : String} :
    w.dryRun root path strict = .ok line ↔
      let run := resolvePath definitionGraph (Chain.driver w.settings.naming [])
        (w.settings.options strict) root path
      w.logging.cut? run.notes = none ∧ ∃ located, run.result = .ok located ∧
        line = "OK  " ++ path ++ "  ->  " ++ chainText located := by
  rw [dryRun]
  dsimp only
  split
  next h => simp [h]
  next h =>
    split
    next hresult => simp [h, hresult, eq_comm]
    next hresult => simp [hresult]

/-- What follows a path in a line is printed on its own. -/
theorem print_told {t u : String} :
    Text.Spelling.print ("OK  " ++ ofText path ++ "  ->  " ++ t) =
        .ok ("OK  " ++ path ++ "  ->  " ++ u) ↔
      Text.Spelling.print t = .ok u := by
  have hfront : "OK  " ++ ofText path ++ "  ->  " = ofText ("OK  " ++ path ++ "  ->  ") := by
    rw [ofText_append, ofText_append]
    rw [ofText_of_notMem (by decide : Text.Spelling.mark ∉ ("OK  " : String).toList),
      ofText_of_notMem (by decide : Text.Spelling.mark ∉ ("  ->  " : String).toList)]
  rw [hfront, print_ofText_append_eq_ok_iff]
  simp [String.append_right_inj]

/-- A command without an address prints a line exactly if the dry run comes to one that is
printed so. -/
theorem output_resolve_eq_iff {text : String} (hroot : w.selected definition page = .ok root)
    (hurl : nonEmpty? url = none) :
    (w.resolve definition path page url strict).output = "OK  " ++ text ++ "\n" ↔
      ∃ line, w.dryRun root (ofText path) strict = .ok line ∧
        Text.Spelling.print line = .ok ("OK  " ++ text) := by
  obtain ⟨calls, ho⟩ := resolve_of_ok hroot path url strict
  have hattempt : w.attempt root path url strict = w.dryRun root (ofText path) strict := by
    rw [attempt, hurl]
  rw [ho, hattempt]
  cases w.dryRun root (ofText path) strict with
  | ok line => simp [conclude_output_of_ok, Report.printed_singleton_eq_iff]
  | error o =>
      refine iff_of_false ?_ (by simp)
      rw [String.append_assoc]
      exact conclude_output_of_error _ (ofText path) o _ calls _

/-- A dry run prints the word for nothing exactly if all hops lead to groupings. -/
theorem resolve_prints_none_iff (hurl : nonEmpty? url = none) :
    (w.resolve definition path page url strict).output = "OK  " ++ path ++ "  ->  None\n" ↔
      ∃ root hs, w.selected definition page = .ok root ∧ Path.parse (ofText path) = .ok hs ∧
        definitionGraph.OnlyGroupings root hs ∧
        w.logging.cut? (resolvePath definitionGraph (Chain.driver w.settings.naming [])
          (w.settings.options strict) root (ofText path)).notes = none := by
  cases hselected : w.selected definition page with
  | error e =>
      refine iff_of_false ?_ (by simp)
      rw [resolve_of_error hselected, Outcome.output_said]
      simp only [String.append_assoc]
      exact printed_err_ne_ok _ _
  | ok root =>
      have hline : "OK  " ++ path ++ "  ->  None\n" =
          "OK  " ++ (path ++ "  ->  " ++ "None") ++ "\n" := by
        simp [String.append_assoc]
      have htold : "OK  " ++ (path ++ "  ->  " ++ "None") =
          "OK  " ++ path ++ "  ->  " ++ "None" := by
        simp only [String.append_assoc]
      rw [hline, output_resolve_eq_iff hselected hurl, htold]
      constructor
      · rintro ⟨line, hrun, hprint⟩
        obtain ⟨hcut, located, hresult, rfl⟩ := dryRun_eq_ok_iff.1 hrun
        obtain ⟨hs, hparse, hresolve⟩ := resolvePath_eq_ok_iff.1 hresult
        obtain rfl := (print_chainText_eq_iff hresolve).1 (print_told.1 hprint)
        exact ⟨root, hs, rfl, hparse, (resolve_eq_none_iff.1 hresolve).2, hcut⟩
      · rintro ⟨root', hs, hroot, hparse, honly, hcut⟩
        cases hroot
        refine ⟨_, dryRun_eq_ok_iff.2 ⟨hcut, none, ?_, rfl⟩, ?_⟩
        · exact resolvePath_eq_none_iff.2 ⟨hs, hparse, honly⟩
        · exact print_told.2 (Text.Spelling.print_of_notMem (by decide))

end Workplace

/-! ## Elements of a page in a browser -/

namespace PageObject

variable {ν L N : Type} {g : Graph ν} {l : Logging} {o : Options} {root : ν} {path : String}

/-- The outcome is that of the resolution, unless a line cannot be logged. -/
theorem outcome_element (a : Attached L N) :
    ((⟨root, some a⟩ : PageObject ν L N).element g l o path).outcome =
      let run := resolvePath g a.driver o root path
      match l.cut? (.event (.requested path) :: run.notes) with
      | some (_, fault) => .error (.obstacle (.marks fault))
      | none =>
          match run.result with
          | .error f => .error (.obstacle (.failure f))
          | .ok located => (a.unwrap located).mapError .obstacle := by
  simp only [element, Logging.cut?, Run.cut?]
  cases l.traceFault? (Event.message "" (.requested path)) with
  | some fault => rfl
  | none =>
      dsimp only [Option.map_none]
      cases Run.cut? (fun e => l.traceFault? (e.message ""))
        (resolvePath g a.driver o root path).notes with
      | some cut => rfl
      | none =>
          cases (resolvePath g a.driver o root path).result with
          | error f => rfl
          | ok located =>
              dsimp only [Option.map_none]
              cases a.unwrap located <;> rfl

variable {naming : Naming} {texts : PageTexts} {steps : List Step}

theorem element_eq_ok_iff :
    ((⟨root, some (PageLocator.attached naming texts)⟩ : PageObject ν _ _).element
        g l o path).outcome = .ok steps ↔
      let run := resolvePath g (PageLocator.driver naming texts) o root path
      l.cut? (.event (.requested path) :: run.notes) = none ∧
        ∃ located, run.result = .ok (some located) ∧ steps = located.steps := by
  rw [outcome_element, PageLocator.attached]
  dsimp only
  split
  next h => simp [h]
  next h =>
    cases hresult : (resolvePath g (PageLocator.driver naming texts) o root path).result with
    | error f => simp
    | ok located => cases located <;> simp [h, Except.mapError, eq_comm]

theorem element_eq_noLocator_iff :
    ((⟨root, some (PageLocator.attached naming texts)⟩ : PageObject ν _ _).element
        g l o path).outcome = .error (.obstacle .noLocator) ↔
      let run := resolvePath g (PageLocator.driver naming texts) o root path
      l.cut? (.event (.requested path) :: run.notes) = none ∧ run.result = .ok none := by
  rw [outcome_element, PageLocator.attached]
  dsimp only
  split
  next h => simp [h]
  next h =>
    cases hresult : (resolvePath g (PageLocator.driver naming texts) o root path).result with
    | error f => simp
    | ok located => cases located <;> simp [h, Except.mapError]

end PageObject

/-- A path has no locator exactly if all its hops are plain and lead to components without a
selector. For these paths, and for no others that can be resolved, a page in a browser gives
no element, and a dry run prints the word for nothing. -/
theorem resolve_without_locator {ν L : Type} (g : Graph ν) (d : Driver L) (o : Options)
    (root : ν) :
    (∀ hs located, hs ≠ [] → (resolve g d o root hs).result = .ok located →
      (located = none ↔ g.OnlyGroupings root hs)) ∧
    (∀ (naming : Naming) (texts : PageTexts) (l : Logging) (path : String),
      let page : PageObject ν PageLocator (List Step) :=
        ⟨root, some (PageLocator.attached naming texts)⟩
      let run := resolvePath g (PageLocator.driver naming texts) o root path
      let logged := l.cut? (.event (.requested path) :: run.notes) = none
      (∀ steps, (page.element g l o path).outcome = .ok steps ↔ logged ∧
        ∃ hs located, Path.parse path = .ok hs ∧ ¬g.OnlyGroupings root hs ∧
          (resolve g (PageLocator.driver naming texts) o root hs).result = .ok (some located) ∧
          steps = located.steps) ∧
      ((page.element g l o path).outcome = .error (.obstacle .noLocator) ↔ logged ∧
        ∃ hs, Path.parse path = .ok hs ∧ g.OnlyGroupings root hs)) ∧
    ∀ (w : Workplace) (definition path : String) (page url : Option String)
      (strict : Option Bool), nonEmpty? url = none →
        ((w.resolve definition path page url strict).output = "OK  " ++ path ++ "  ->  None\n" ↔
          ∃ root hs, w.selected definition page = .ok root ∧
            Path.parse (Text.Spelling.ofText path) = .ok hs ∧
            definitionGraph.OnlyGroupings root hs ∧
            w.logging.cut? (resolvePath definitionGraph (Chain.driver w.settings.naming [])
              (w.settings.options strict) root (Text.Spelling.ofText path)).notes = none) := by
  refine ⟨fun hs located hne h => ?_, fun naming texts l path => ⟨fun steps => ?_, ?_⟩,
    fun w definition path page url strict => Workplace.resolve_prints_none_iff⟩
  · constructor
    · rintro rfl
      exact (resolve_eq_none_iff.1 h).2
    · intro honly
      exact Except.ok.inj (h.symm.trans (resolve_eq_none_iff.2 ⟨hne, honly⟩))
  · rw [PageObject.element_eq_ok_iff]
    refine and_congr_right fun _ => ?_
    constructor
    · rintro ⟨located, hresult, hsteps⟩
      obtain ⟨hs, hparse, hresolve⟩ := resolvePath_eq_ok_iff.1 hresult
      refine ⟨hs, located, hparse, fun honly => ?_, hresolve, hsteps⟩
      cases hresolve.symm.trans (resolve_eq_none_iff.2 ⟨Path.ne_nil_of_parse hparse, honly⟩)
    · rintro ⟨hs, located, hparse, -, hresolve, hsteps⟩
      exact ⟨located, resolvePath_eq_ok_iff.2 ⟨hs, hparse, hresolve⟩, hsteps⟩
  · rw [PageObject.element_eq_noLocator_iff, ← resolvePath_eq_none_iff]

def linkGroup : Block :=
  ⟨{ name := "P" }, [.component { name := "Group" } [.leaf { name := "Link", selector := "a" }]]⟩

def linkGroupPlace : Workplace :=
  .holding [("pages.yaml", String.intercalate "\n"
    ["page: P", "nodes:", "- type: component", "  alias: Group", "  nodes:",
      "  - type: element", "    alias: Link", "    selector: a", ""])]

theorem selected_linkGroup : linkGroupPlace.selected "pages.yaml" none = .ok linkGroup :=
  Outcome.eq_ok_of_toOption (by decide +kernel)

theorem resolve_without_locator_group :
    let page : PageObject Block PageLocator (List Step) :=
      ⟨linkGroup, some (PageLocator.attached {} [])⟩
    (page.element definitionGraph {} {} "Group").outcome = .error (.obstacle .noLocator) ∧
    (page.element definitionGraph {} {} "Group > Link").outcome =
      .ok [.select "html" none, .select "a" none, .first] ∧
    (linkGroupPlace.resolve "pages.yaml" "Group" none none none).output =
      "OK  Group  ->  None\n" := by
  intro page
  obtain ⟨hnone, helement, hprinted⟩ :=
    resolve_without_locator definitionGraph (PageLocator.driver {} []) {} linkGroup
  have honly : definitionGraph.OnlyGroupings linkGroup [.plain "Group"] :=
    ⟨["Group"], _, rfl, .cons rfl rfl .nil⟩
  have hlink : (resolve definitionGraph (PageLocator.driver {} []) {} linkGroup
      [.plain "Group", .plain "Link"]).result = .ok (some _) := rfl
  refine ⟨(helement {} [] {} "Group").2.2 ⟨rfl, _, rfl, honly⟩, ?_, ?_⟩
  · refine ((helement {} [] {} "Group > Link").1 _).2 ⟨rfl, _, _, rfl, fun honly => ?_, hlink, rfl⟩
    cases (hnone _ _ (List.cons_ne_nil _ _) hlink).2 honly
  · exact (hprinted linkGroupPlace "pages.yaml" "Group" none none none rfl).2
      ⟨linkGroup, _, selected_linkGroup, rfl, honly, rfl⟩

end PageAtlas
