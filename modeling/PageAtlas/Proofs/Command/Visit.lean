import PageAtlas.Command.Run
import PageAtlas.Proofs.Definition.Built
import PageAtlas.Proofs.Resolution.Outcome
import PageAtlas.Proofs.Text.Spelling

/-!
# Visits to definition files

A visit says of each file what is said of that file alone, one file after the
other: a page that was loaded can be built, so nothing ends the visit, and what
has been said before changes nothing. All of it is printed, and the visit ends
well exactly if every file is sound. Only a line that cannot be printed cuts this
short: a page whose name holds a surrogate is loaded, and what is said of it and
of all that comes after it is lost.
-/

namespace PageAtlas

namespace Report

def printed (lines : List String) : String := (Text.Spelling.printLines lines).1

def unprintable? (lines : List String) : Option Text.EncodeFault :=
  (Text.Spelling.printLines lines).2

end Report

/-- What is said of a page: that it is sound, or each of its problems. -/
def PageDef.verdict (file : String) (p : PageDef) : List String :=
  match p.problems with
  | [] => [Report.soundLine file p]
  | ps => ps.map (Report.problemLine file p.page)

namespace Source

/-- What is said of a file: why it does not load, or what is said of its pages. -/
def verdict (env : Environment) (file : String) (source : Source) : List String :=
  match PageDef.load env file source with
  | .error e => [Report.faultLine file e]
  | .ok ps => ps.flatMap (PageDef.verdict file)

/-- The file loads, and there is no problem in its pages. -/
def Sound (env : Environment) (file : String) (source : Source) : Prop :=
  ∃ ps, PageDef.load env file source = .ok ps ∧ ∀ p ∈ ps, p.problems = []

/-- Nothing that is said of a file holds a surrogate, so all of it can be printed. -/
def Printable (env : Environment) (file : String) (source : Source) : Prop :=
  ∀ line ∈ source.verdict env file, Text.Spelling.hasSurrogate line = false

theorem printable_iff {env : Environment} {file : String} {source : Source} :
    source.Printable env file ↔ Report.unprintable? (source.verdict env file) = none :=
  Text.Spelling.printLines_snd_eq_none_iff.symm

end Source

/-- The verdicts on files, each from what the tree holds under its path, as they are printed. -/
def FileTree.verdicts (tree : FileTree) (env : Environment) (files : List FilePath) : String :=
  String.join (files.map fun f => Report.printed ((tree.read f).verdict env f.shown))

namespace Report

/-- A report goes on with some lines, and its soundness depends on `ok` as well. -/
structure Adds (r : Report) (lines : List String) (ok : Prop) (r' : Report) : Prop where
  lines : r'.lines = r.lines ++ lines
  sound : r'.sound = true ↔ r.sound = true ∧ ok

variable {r r' r'' : Report} {file : String}

theorem Adds.nothing (r : Report) : Adds r [] True r :=
  ⟨(List.append_nil _).symm, by simp⟩

theorem Adds.trans {ls ls' : List String} {ok ok' : Prop} (h : Adds r ls ok r')
    (h' : Adds r' ls' ok' r'') : Adds r (ls ++ ls') (ok ∧ ok') r'' := by
  refine ⟨?_, ?_⟩
  · rw [h'.lines, h.lines, List.append_assoc]
  · rw [h'.sound, h.sound, and_assoc]

/-! ## Steps of a visit -/

theorem adds_fault (r : Report) (file : String) (e : LoadFault) :
    Adds r [faultLine file e] False (r.fault file e) :=
  ⟨rfl, by simp [fault]⟩

theorem adds_page (r : Report) (file : String) (p : PageDef) :
    Adds r (p.verdict file) (p.problems = []) (r.page file p) := by
  rw [page, PageDef.verdict]
  cases p.problems with
  | nil => exact ⟨rfl, by simp⟩
  | cons q qs => exact ⟨rfl, by simp⟩

/-! ## Whole visits -/

theorem adds_pages {ps : List PageDef} (hps : ∀ p ∈ ps, p.Accepted) (r : Report) :
    ∃ r', r.pages file ps = (r', none) ∧
      Adds r (ps.flatMap (PageDef.verdict file)) (∀ p ∈ ps, p.problems = []) r' := by
  induction ps generalizing r with
  | nil => exact ⟨r, rfl, by simpa using Adds.nothing r⟩
  | cons p ps ih =>
      obtain ⟨hp, hrest⟩ := List.forall_mem_cons.1 hps
      obtain ⟨r', hr', hadds⟩ := ih hrest (r.page file p)
      refine ⟨r', ?_, ?_⟩
      · rw [pages, hp.build]
        exact hr'
      · rw [List.flatMap_cons, List.forall_mem_cons]
        exact (adds_page r file p).trans hadds

/-- One file changes a report by its own verdict, whatever it holds. -/
theorem adds_file (env : Environment) (tree : FileTree) (f : FilePath) (fs : List FilePath)
    (r : Report) :
    ∃ r', Adds r ((tree.read f).verdict env f.shown) ((tree.read f).Sound env f.shown) r' ∧
      r.files env tree (f :: fs) = r'.files env tree fs := by
  rw [files, Source.verdict]
  cases hload : PageDef.load env f.shown (tree.read f) with
  | error e =>
      refine ⟨r.fault f.shown e, ?_, rfl⟩
      have hsound : ¬ (tree.read f).Sound env f.shown := by
        rintro ⟨ps, hps, _⟩
        rw [hload] at hps
        cases hps
      rw [iff_false_intro hsound]
      exact adds_fault r f.shown e
  | ok ps =>
      obtain ⟨r', hr', hadds⟩ := adds_pages (PageDef.accepted_of_load hload) r
      have hsound : (tree.read f).Sound env f.shown ↔ ∀ p ∈ ps, p.problems = [] := by
        rw [Source.Sound, hload]
        simp
      refine ⟨r', ?_, ?_⟩
      · rw [hsound]
        exact hadds
      · dsimp only
        rw [hr']

theorem adds_files (env : Environment) (tree : FileTree) (fs : List FilePath) (r : Report) :
    ∃ r', r.files env tree fs = (r', none) ∧
      Adds r (fs.flatMap fun f => (tree.read f).verdict env f.shown)
        (∀ f ∈ fs, (tree.read f).Sound env f.shown) r' := by
  induction fs generalizing r with
  | nil => exact ⟨r, rfl, by simpa using Adds.nothing r⟩
  | cons f fs ih =>
      obtain ⟨r', hadds, hfiles⟩ := adds_file env tree f fs r
      obtain ⟨r'', hr'', hrest⟩ := ih r'
      refine ⟨r'', hfiles.trans hr'', ?_⟩
      rw [List.flatMap_cons, List.forall_mem_cons]
      exact hadds.trans hrest

/-! ## What is printed of some lines -/

section Printed

variable {α : Type} {g : α → List String} {l : List α} {ls ls' : List String}
  {line text : String} {e : Text.EncodeFault}

theorem printed_singleton_eq_iff :
    printed [line] = text ++ "\n" ↔ Text.Spelling.print line = .ok text := by
  rw [printed, Text.Spelling.printLines_singleton]
  cases Text.Spelling.print line with
  | error e =>
      refine iff_of_false (fun h => ?_) (by simp)
      have hlist := congrArg String.toList h
      simp at hlist
  | ok t => simp [String.append_left_inj]

theorem printed_append (h : unprintable? ls = none) (ls' : List String) :
    printed (ls ++ ls') = printed ls ++ printed ls' := by
  rw [printed, Text.Spelling.printLines_append_of_none h]
  rfl

theorem unprintable?_append (h : unprintable? ls = none) (ls' : List String) :
    unprintable? (ls ++ ls') = unprintable? ls' := by
  rw [unprintable?, Text.Spelling.printLines_append_of_none h]
  rfl

theorem unprintable?_append_of_some (h : unprintable? ls = some e) (ls' : List String) :
    unprintable? (ls ++ ls') = some e := by
  rw [unprintable?, Text.Spelling.printLines_append_of_some h]
  exact h

theorem printed_append_of_some (h : unprintable? ls = some e) (ls' : List String) :
    printed (ls ++ ls') = printed ls := by
  rw [printed, Text.Spelling.printLines_append_of_some h]
  rfl

theorem unprintable?_append_eq_none_iff :
    unprintable? (ls ++ ls') = none ↔ unprintable? ls = none ∧ unprintable? ls' = none := by
  cases h : unprintable? ls with
  | none => simp [unprintable?_append h]
  | some e => simp [unprintable?_append_of_some h]

theorem unprintable?_flatMap_eq_none_iff :
    unprintable? (l.flatMap g) = none ↔ ∀ a ∈ l, unprintable? (g a) = none := by
  induction l with
  | nil => simp [unprintable?, Text.Spelling.printLines]
  | cons a l ih =>
      rw [List.flatMap_cons, unprintable?_append_eq_none_iff, ih, List.forall_mem_cons]

theorem printed_flatMap (h : ∀ a ∈ l, unprintable? (g a) = none) :
    printed (l.flatMap g) = String.join (l.map fun a => printed (g a)) := by
  induction l with
  | nil => rfl
  | cons a l ih =>
      obtain ⟨ha, hrest⟩ := List.forall_mem_cons.1 h
      rw [List.flatMap_cons, printed_append ha, ih hrest, List.map_cons, String.join_cons]

end Printed

end Report

namespace FileTree

variable {tree tree' : FileTree} {env : Environment}

theorem printed_verdicts {files : List FilePath}
    (h : ∀ f ∈ files, (tree.read f).Printable env f.shown) :
    Report.printed (files.flatMap fun f => (tree.read f).verdict env f.shown) =
      tree.verdicts env files :=
  Report.printed_flatMap fun f hf => Source.printable_iff.1 (h f hf)

theorem verdicts_append_cons (before : List FilePath) (f : FilePath) (after : List FilePath) :
    tree.verdicts env (before ++ f :: after) =
      tree.verdicts env before ++ Report.printed ((tree.read f).verdict env f.shown) ++
        tree.verdicts env after := by
  rw [verdicts, List.map_append, List.map_cons, String.join_append, String.join_cons,
    ← String.append_assoc]
  rfl

theorem verdicts_congr {files : List FilePath} (h : ∀ f ∈ files, tree'.read f = tree.read f) :
    tree'.verdicts env files = tree.verdicts env files := by
  rw [verdicts, verdicts]
  congr 1
  refine List.map_congr_left fun f hf => ?_
  rw [h f hf]

end FileTree

namespace Outcome

variable {w : Workplace} {status : Nat} {lines : List String} {e : Text.EncodeFault}

theorem said_eq (w : Workplace) (status : Nat) (lines : List String) :
    said w status lines =
      { status := if (Report.unprintable? lines).isSome then 1 else status,
        output := Report.printed lines,
        obstacle := (Report.unprintable? lines).map .unprintable,
        logging := w.logging } := by
  rw [said, Report.printed, Report.unprintable?]
  cases Text.Spelling.printLines lines with
  | mk output fault => cases fault <;> rfl

theorem said_of_none (h : Report.unprintable? lines = none) :
    said w status lines = { status, output := Report.printed lines, logging := w.logging } := by
  rw [said_eq, h]
  rfl

theorem said_of_some (h : Report.unprintable? lines = some e) :
    said w status lines =
      { status := 1, output := Report.printed lines, obstacle := some (.unprintable e),
        logging := w.logging } := by
  rw [said_eq, h]
  rfl

theorem obstacle_said (w : Workplace) (status : Nat) (lines : List String) :
    (said w status lines).obstacle = (Report.unprintable? lines).map .unprintable := by
  rw [said_eq]

theorem status_said_one (w : Workplace) (lines : List String) : (said w 1 lines).status = 1 := by
  rw [said_eq]
  exact ite_self 1

theorem logging_said (w : Workplace) (status : Nat) (lines : List String) :
    (said w status lines).logging = w.logging := by
  rw [said_eq]

theorem events_said (w : Workplace) (status : Nat) (lines : List String) :
    (said w status lines).events = [] := by
  rw [said_eq]

theorem unbuilt_said (w : Workplace) (status : Nat) (lines : List String) :
    (said w status lines).unbuilt = none := by
  rw [said_eq]

theorem output_said (w : Workplace) (status : Nat) (lines : List String) :
    (said w status lines).output = Report.printed lines := by
  rw [said_eq]

end Outcome

namespace Workplace

variable {w : Workplace} {targets : List String} {dir : Option String} {recursive : Bool}
  {files : List FilePath}

/-- The lines of a visit are those of its files, whether they can be printed or not. -/
theorem validate_eq (hvisit : w.tree.visited w.settings targets dir recursive = .ok (some files))
    (hfiles : files ≠ []) : ∃ status,
      (status = 0 ∨ status = 1) ∧
      (status = 0 ↔ ∀ f ∈ files, (w.tree.read f).Sound w.env f.shown) ∧
      w.validate targets dir recursive =
        .said w status (files.flatMap fun f => (w.tree.read f).verdict w.env f.shown) := by
  obtain ⟨f, fs, rfl⟩ := List.exists_cons_of_ne_nil hfiles
  obtain ⟨r, hr, hadds⟩ := Report.adds_files w.env w.tree (f :: fs) {}
  refine ⟨if r.sound then 0 else 1, ?_, ?_, ?_⟩
  · cases r.sound <;> simp
  · have hsound : r.sound = true ↔ ∀ g ∈ f :: fs, (w.tree.read g).Sound w.env g.shown := by
      rw [hadds.sound]
      simp
    rw [← hsound]
    cases r.sound <;> simp
  · rw [validate, hvisit]
    dsimp only
    rw [hr]
    dsimp only
    rw [hadds.lines, List.nil_append]

theorem validate_unbuilt (w : Workplace) (targets : List String) (dir : Option String)
    (recursive : Bool) : (w.validate targets dir recursive).unbuilt = none := by
  cases hvisit : w.tree.visited w.settings targets dir recursive with
  | error path => rw [validate, hvisit]
  | ok visited =>
      match visited with
      | none => rw [validate, hvisit]; rfl
      | some [] => rw [validate, hvisit]; rfl
      | some (f :: fs) =>
          obtain ⟨status, -, -, ho⟩ := validate_eq hvisit (List.cons_ne_nil f fs)
          rw [ho]
          exact Outcome.unbuilt_said w status _

/-- A visit ends with an obstacle exactly if something said of a file cannot be printed. -/
theorem obstacle_validate_eq_none_iff
    (hvisit : w.tree.visited w.settings targets dir recursive = .ok (some files))
    (hfiles : files ≠ []) : (w.validate targets dir recursive).obstacle = none ↔
      ∀ f ∈ files, (w.tree.read f).Printable w.env f.shown := by
  obtain ⟨status, -, -, ho⟩ := validate_eq hvisit hfiles
  rw [ho, Outcome.obstacle_said, Option.map_eq_none_iff, Report.unprintable?_flatMap_eq_none_iff]
  simp only [Source.printable_iff]

theorem output_validate
    (hvisit : w.tree.visited w.settings targets dir recursive = .ok (some files))
    (hfiles : files ≠ []) (h : ∀ f ∈ files, (w.tree.read f).Printable w.env f.shown) :
    (w.validate targets dir recursive).output = w.tree.verdicts w.env files := by
  obtain ⟨status, -, -, ho⟩ := validate_eq hvisit hfiles
  rw [ho, Outcome.output_said, FileTree.printed_verdicts h]

theorem status_validate
    (hvisit : w.tree.visited w.settings targets dir recursive = .ok (some files))
    (hfiles : files ≠ []) (h : ∀ f ∈ files, (w.tree.read f).Printable w.env f.shown) :
    ((w.validate targets dir recursive).status = 0 ↔
      ∀ f ∈ files, (w.tree.read f).Sound w.env f.shown) ∧
    ((w.validate targets dir recursive).status = 0 ∨
      (w.validate targets dir recursive).status = 1) := by
  obtain ⟨status, hstatus, hsound, ho⟩ := validate_eq hvisit hfiles
  have hlines := Report.unprintable?_flatMap_eq_none_iff.2 fun f hf =>
    Source.printable_iff.1 (h f hf)
  rw [ho, Outcome.said_of_none hlines]
  exact ⟨hsound, hstatus⟩

/-- The first file with something that cannot be printed ends a visit there. -/
theorem validate_cut {before after : List FilePath} {f : FilePath} {e : Text.EncodeFault}
    (hvisit : w.tree.visited w.settings targets dir recursive = .ok (some files))
    (hsplit : files = before ++ f :: after)
    (hbefore : ∀ g ∈ before, (w.tree.read g).Printable w.env g.shown)
    (hf : Report.unprintable? ((w.tree.read f).verdict w.env f.shown) = some e) :
    (w.validate targets dir recursive).output = w.tree.verdicts w.env (before ++ [f]) ∧
    (w.validate targets dir recursive).status = 1 ∧
    (w.validate targets dir recursive).obstacle = some (.unprintable e) := by
  have hfiles : files ≠ [] := by simp [hsplit]
  obtain ⟨status, -, -, ho⟩ := validate_eq hvisit hfiles
  have hprintable := fun g hg => Source.printable_iff.1 (hbefore g hg)
  have hfront := Report.unprintable?_flatMap_eq_none_iff.2 hprintable
  have hlines : Report.unprintable?
      (files.flatMap fun f => (w.tree.read f).verdict w.env f.shown) = some e := by
    rw [hsplit, List.flatMap_append, List.flatMap_cons, Report.unprintable?_append hfront,
      Report.unprintable?_append_of_some hf]
  rw [ho, Outcome.said_of_some hlines]
  refine ⟨?_, rfl, rfl⟩
  dsimp only
  rw [hsplit, List.flatMap_append, List.flatMap_cons, Report.printed_append hfront,
    Report.printed_append_of_some hf, Report.printed_flatMap hprintable, FileTree.verdicts,
    List.map_append, String.join_append]
  simp [String.join]

/-- A visit is never ended by a page that cannot be built. If all that is said of its files
can be printed, it prints the verdicts on them one after the other and ends well exactly if
all of them are sound; what one of the files holds changes nothing that is printed before
and after its own verdict. Otherwise it prints the verdicts up to the first line that cannot
be printed, and what is said after that line is lost. -/
theorem validate_reports
    (hvisit : w.tree.visited w.settings targets dir recursive = .ok (some files))
    (hfiles : files ≠ []) :
    (w.validate targets dir recursive).unbuilt = none ∧
    ((∀ f ∈ files, (w.tree.read f).Printable w.env f.shown) →
      (w.validate targets dir recursive).output = w.tree.verdicts w.env files ∧
      ((w.validate targets dir recursive).status = 0 ↔
        ∀ f ∈ files, (w.tree.read f).Sound w.env f.shown) ∧
      ((w.validate targets dir recursive).status = 0 ∨
        (w.validate targets dir recursive).status = 1) ∧
      (w.validate targets dir recursive).obstacle = none ∧
      ∀ (w' : Workplace) (before : List FilePath) (f : FilePath) (after : List FilePath),
        files = before ++ f :: after → w'.env = w.env →
        w'.tree.visited w'.settings targets dir recursive = .ok (some files) →
        (w'.tree.read f).Printable w.env f.shown →
        (∀ g ∈ before ++ after, w'.tree.read g = w.tree.read g) →
        ∃ head tail,
          (w.validate targets dir recursive).output =
            head ++ Report.printed ((w.tree.read f).verdict w.env f.shown) ++ tail ∧
          (w'.validate targets dir recursive).output =
            head ++ Report.printed ((w'.tree.read f).verdict w.env f.shown) ++ tail) ∧
    ∀ (before : List FilePath) (f : FilePath) (after : List FilePath) (e : Text.EncodeFault),
      files = before ++ f :: after →
      (∀ g ∈ before, (w.tree.read g).Printable w.env g.shown) →
      Report.unprintable? ((w.tree.read f).verdict w.env f.shown) = some e →
      (w.validate targets dir recursive).output = w.tree.verdicts w.env (before ++ [f]) ∧
      (w.validate targets dir recursive).status = 1 ∧
      (w.validate targets dir recursive).obstacle = some (.unprintable e) := by
  refine ⟨w.validate_unbuilt targets dir recursive, fun hprintable => ?_,
    fun before f after e hsplit hbefore hf => validate_cut hvisit hsplit hbefore hf⟩
  obtain ⟨hsound, hstatus⟩ := status_validate hvisit hfiles hprintable
  refine ⟨output_validate hvisit hfiles hprintable, hsound, hstatus,
    (obstacle_validate_eq_none_iff hvisit hfiles).2 hprintable, ?_⟩
  intro w' before f after hsplit henv hvisit' hf hread
  obtain ⟨hbefore, hafter⟩ := List.forall_mem_append.1 hread
  have hprintable' : ∀ g ∈ files, (w'.tree.read g).Printable w'.env g.shown := by
    intro g hg
    rw [hsplit, List.mem_append, List.mem_cons] at hg
    rcases hg with hg | rfl | hg
    · rw [henv, hbefore g hg]
      exact hprintable g (by simp [hsplit, hg])
    · rw [henv]
      exact hf
    · rw [henv, hafter g hg]
      exact hprintable g (by simp [hsplit, hg])
  refine ⟨w.tree.verdicts w.env before, w.tree.verdicts w.env after, ?_, ?_⟩
  · rw [output_validate hvisit hfiles hprintable, hsplit, FileTree.verdicts_append_cons]
  · rw [output_validate hvisit' hfiles hprintable', henv, hsplit, FileTree.verdicts_append_cons,
      FileTree.verdicts_congr hbefore, FileTree.verdicts_congr hafter]

def holding (files : List (String × String)) : Workplace where
  settings :=
    { rootSelector := "html", jsEngine := "pagepath-js", combineText := true, strictScope := false,
      headless := true, browser := .chromium, loadTimeout := 30000,
      pagesDir := ⟨"/", ["work", "pages"]⟩, logLevel := .info, logToFile := false,
      logFile := ⟨"/", ["work", "run.log"]⟩, colorized := true }
  env := []
  tree :=
    { cwd := ["work"], files := files.map fun (name, text) => (["work", name], Text.encode text) }
  logging := {}

/-- Of three files that are visited the first is refused and the second is missing. -/
def mixed : Workplace := .holding [("bad.yaml", "page: ''"), ("good.yaml", "page: P")]

def mixedFiles : List FilePath :=
  [⟨"/", ["work", "bad.yaml"]⟩, ⟨"/", ["work", "absent.yaml"]⟩, ⟨"/", ["work", "good.yaml"]⟩]

theorem validate_reports_mixed :
    (mixed.validate ["bad.yaml", "absent.yaml", "good.yaml"] none true).output =
      "ERR /work/bad.yaml  ->  Invalid page definition '/work/bad.yaml' (document 1):\n" ++
      "  - page: Value error, page cannot be empty\n" ++
      "ERR /work/absent.yaml  ->  Page definition file not found: /work/absent.yaml\n" ++
      "OK  /work/good.yaml  ->  [P] (0 nodes)\n" ∧
    (mixed.validate ["bad.yaml", "absent.yaml", "good.yaml"] none true).status = 1 := by
  have hvisit : mixed.tree.visited mixed.settings ["bad.yaml", "absent.yaml", "good.yaml"] none
      true = .ok (some mixedFiles) := rfl
  have hprintable : ∀ f ∈ mixedFiles, (mixed.tree.read f).Printable mixed.env f.shown := by
    rw [mixedFiles, List.forall_mem_cons, List.forall_mem_cons, List.forall_mem_singleton]
    refine ⟨?_, ?_, ?_⟩
    all_goals
      rw [Source.printable_iff]
      decide +kernel
  obtain ⟨-, hall, -⟩ := validate_reports hvisit (List.cons_ne_nil _ _)
  obtain ⟨houtput, hsound, hstatus, -⟩ := hall hprintable
  refine ⟨?_, ?_⟩
  · rw [houtput]
    decide +kernel
  · refine hstatus.resolve_left fun hzero => ?_
    obtain ⟨ps, hps, -⟩ := hsound.1 hzero ⟨"/", ["work", "absent.yaml"]⟩ (by decide)
    cases hps

/-- The name of a page is a surrogate, and another file follows. -/
def garbled : Workplace := .holding [("a.yaml", "page: \"\\uD800\"\n"), ("b.yaml", "page: Q\n")]

def garbledFiles : List FilePath := [⟨"", ["a.yaml"]⟩, ⟨"", ["b.yaml"]⟩]

def garbledPage : PageDef := { page := Text.Spelling.ofPoints [.surrogate 0] }

/-- Both files are sound, but nothing is said of the second. -/
theorem not_reported_garbled :
    garbled.tree.visited garbled.settings [] (some ".") true = .ok (some garbledFiles) ∧
    (∀ f ∈ garbledFiles, (garbled.tree.read f).Sound garbled.env f.shown) ∧
    (garbled.tree.read ⟨"", ["b.yaml"]⟩).verdict garbled.env "b.yaml" =
      ["OK  b.yaml  ->  [Q] (0 nodes)"] ∧
    (garbled.validate [] (some ".") true).output = "" ∧
    (garbled.validate [] (some ".") true).status = 1 ∧
    (garbled.validate [] (some ".") true).obstacle = some (.unprintable ⟨0, 17, 0⟩) := by
  have hvisit : garbled.tree.visited garbled.settings [] (some ".") true =
      .ok (some garbledFiles) := by
    have hsorted : garbledFiles.Pairwise fun f g => FilePath.precedes f g = true := by
      decide +kernel
    change Except.ok (some (garbledFiles.mergeSort FilePath.precedes)) = _
    rw [List.mergeSort_of_pairwise hsorted]
  have hfirst : PageDef.load garbled.env "a.yaml" (garbled.tree.read ⟨"", ["a.yaml"]⟩) =
      .ok [garbledPage] := by
    apply Outcome.eq_ok_of_toOption
    decide +kernel
  have hsecond : PageDef.load garbled.env "b.yaml" (garbled.tree.read ⟨"", ["b.yaml"]⟩) =
      .ok [{ page := "Q" }] := by
    apply Outcome.eq_ok_of_toOption
    decide +kernel
  have hverdict : (garbled.tree.read ⟨"", ["a.yaml"]⟩).verdict garbled.env "a.yaml" =
      [Report.soundLine "a.yaml" garbledPage] := by
    rw [Source.verdict, hfirst]
    rfl
  have hcut : Report.unprintable? [Report.soundLine "a.yaml" garbledPage] = some ⟨0, 17, 0⟩ := by
    decide +kernel
  have hsplit : garbledFiles = [] ++ ⟨"", ["a.yaml"]⟩ :: [⟨"", ["b.yaml"]⟩] := rfl
  obtain ⟨houtput, hstatus, hobstacle⟩ :=
    validate_cut hvisit hsplit (List.forall_mem_nil _) (hverdict ▸ hcut)
  refine ⟨hvisit, ?_, ?_, ?_, hstatus, hobstacle⟩
  · rw [garbledFiles, List.forall_mem_cons, List.forall_mem_singleton]
    exact ⟨⟨_, hfirst, List.forall_mem_singleton.2 rfl⟩,
      ⟨_, hsecond, List.forall_mem_singleton.2 rfl⟩⟩
  · rw [Source.verdict, hsecond]
    rfl
  · rw [houtput, List.nil_append]
    change String.join [Report.printed
      ((garbled.tree.read ⟨"", ["a.yaml"]⟩).verdict garbled.env "a.yaml")] = _
    rw [hverdict]
    decide +kernel

end Workplace

/-! ## Loaded definitions -/

/-- Whatever the documents and the environment are, each page that is loaded
from them can be built, and its graph is in order; so no visit is cut short. -/
theorem PageDef.build_of_ofDocuments {env : Environment} {file : String} {docs : List Data}
    {ps : List PageDef} (h : PageDef.ofDocuments env file docs = .ok ps) :
    (∀ p ∈ ps, p.build = .ok p.root ∧ p.root.WellBuilt) ∧
    (∀ (r : Report) (shown : String), (r.pages shown ps).2 = none) ∧
    ∀ (w : Workplace) (targets : List String) (dir : Option String) (recursive : Bool),
      (w.validate targets dir recursive).unbuilt = none := by
  have haccepted : ∀ p ∈ ps, p.Accepted := PageDef.accepted_of_ofDocuments h
  refine ⟨?_, ?_, Workplace.validate_unbuilt⟩
  · intro p hp
    exact ⟨(haccepted p hp).build, (haccepted p hp).wellBuilt⟩
  · intro r shown
    obtain ⟨r', hr', -⟩ := Report.adds_pages haccepted r
    rw [hr']

/-- Documents of which the first is empty, and the second takes the selector of a
repeated component from the environment. -/
def rowsDocuments : List Data :=
  [.null,
    .table
      [(.text "page", .text " ${TITLE} "),
        (.text "nodes", .list
          [.table
            [(.text "type", .text "component"), (.text "alias", .text "Rows"),
              (.text "selector", .text "${ROW}"), (.text "collection", .text "yes"),
              (.text "nodes", .list
                [.table
                  [(.text "type", .text "element"), (.text "alias", .text "Name"),
                    (.text "selector", .text " a ")]])]])]]

def rowsPage : PageDef where
  page := "Shop"
  nodes := [.component { name := "Rows", selector := some "tr", repeated := true }
    [.leaf { name := "Name", selector := "a" }]]

theorem PageDef.build_of_ofDocuments_rows :
    PageDef.ofDocuments [("ROW", "tr"), ("TITLE", "Shop")] "pages.yaml" rowsDocuments =
      .ok [rowsPage] ∧
    rowsPage.build = .ok rowsPage.root ∧ rowsPage.root.WellBuilt := by
  have hload : PageDef.ofDocuments [("ROW", "tr"), ("TITLE", "Shop")] "pages.yaml" rowsDocuments =
      .ok [rowsPage] := by
    apply Outcome.eq_ok_of_toOption
    decide +kernel
  obtain ⟨hbuild, -⟩ := PageDef.build_of_ofDocuments hload
  exact ⟨hload, hbuild rowsPage (List.mem_singleton_self _)⟩

end PageAtlas
