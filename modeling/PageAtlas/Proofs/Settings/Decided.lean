import PageAtlas.Proofs.Checked
import PageAtlas.Proofs.Settings.Assignments
import PageAtlas.Settings.Load

/-!
# How settings are decided

The text for a setting is taken from the environment, else from the file of variables.
Each setting is its default or what its own check makes of its own text, and the settings
are refused exactly if one of the texts is.
-/

namespace PageAtlas

namespace Settings

/-! ## Sources -/

def folded (name : String) : String := String.ofList (name.toList.map Char.toLower)

/-- What a source says under a name, whatever the case of its letters. -/
def said? (source : List (String × String)) (name : String) : Option String :=
  (source.find? fun e => folded e.1 == folded name).map Prod.snd

def chosen? (env : Environment) (vars : List (String × String)) (name : String) : Option String :=
  (said? env name).or (said? vars name)

/-- An environment, and a file of plain assignments without references. In neither do two
names differ in letter case only. -/
structure Sources (env : Environment) (file : Option (List UInt8))
    (vars : List (String × String)) : Prop where
  distinct : (env.map fun e => folded e.1).Nodup
  assigns : Dotenv.FileAssigns file vars
  assignedOnce : (vars.map fun e => folded e.1).Nodup
  plain : ∀ e ∈ vars, ¬ ['$', '\x7b'] <:+: e.2.toList

/-! ## Specifications -/

section Specifications

variable {α : Type}

/-- A setting is its default if no text is chosen for it, and else what the check makes of
the text. -/
def Decided (chosen : Option String) (default : α) (check : String → Except SettingComplaint α)
    (a : α) : Prop :=
  match chosen with
  | none => a = default
  | some text => check text = .ok a

def complaint? (check : String → Except SettingComplaint α) (text : String) :
    Option SettingComplaint :=
  match check text with
  | .ok _ => none
  | .error c => some c

end Specifications

/-- Every setting is decided by the text that is given for it. -/
structure Composed (cwd : FilePath) (given : String → Option String) (s : Settings) : Prop where
  rootSelector : Decided (given "ROOT_SELECTOR") "html" Field.word s.rootSelector
  jsEngine : Decided (given "JS_ENGINE_NAME") "pagepath-js" Field.word s.jsEngine
  combineText : Decided (given "TEXT_MATCH_REWRITE") true Field.truth s.combineText
  strictScope : Decided (given "STRICT_COLLECTION_SCOPE") false Field.truth s.strictScope
  headless : Decided (given "HEADLESS") true Field.truth s.headless
  browser : Decided (given "BROWSER_TYPE") .chromium Field.browser s.browser
  loadTimeout :
    Decided (given "PAGE_LOAD_TIMEOUT") 30000 (Field.atLeast leastTimeout) s.loadTimeout
  pagesDir :
    Decided (given "PAGES_DIR") (cwd.within (FilePath.ofText "./pages")) (Field.path cwd) s.pagesDir
  logLevel : Decided (given "LOG_LEVEL") .info Field.level s.logLevel
  logToFile : Decided (given "LOG_TO_FILE") false Field.truth s.logToFile
  logFile :
    Decided (given "LOG_FILE") (cwd.within (FilePath.ofText "./pagepath.log")) (Field.path cwd)
      s.logFile
  colorized : Decided (given "COLORIZED_OUTPUT") true Field.truth s.colorized

/-- The names of the settings in the order of their declaration, and what each of them
finds wrong with a text. -/
def checks (cwd : FilePath) : List (String × (String → Option SettingComplaint)) :=
  [("ROOT_SELECTOR", complaint? Field.word),
    ("JS_ENGINE_NAME", complaint? Field.word),
    ("TEXT_MATCH_REWRITE", complaint? Field.truth),
    ("STRICT_COLLECTION_SCOPE", complaint? Field.truth),
    ("HEADLESS", complaint? Field.truth),
    ("BROWSER_TYPE", complaint? Field.browser),
    ("PAGE_LOAD_TIMEOUT", complaint? (Field.atLeast leastTimeout)),
    ("PAGES_DIR", complaint? (Field.path cwd)),
    ("LOG_LEVEL", complaint? Field.level),
    ("LOG_TO_FILE", complaint? Field.truth),
    ("LOG_FILE", complaint? (Field.path cwd)),
    ("COLORIZED_OUTPUT", complaint? Field.truth)]

def refusal? (given : String → Option String)
    (check : String × (String → Option SettingComplaint)) : Option SettingIssue :=
  ((given check.1).bind check.2).map fun c => ⟨check.1, c⟩

def refusals (cwd : FilePath) (given : String → Option String) : List SettingIssue :=
  (checks cwd).filterMap (refusal? given)

/-- Where a path that is written in a text leads from a directory. -/
structure Placed (cwd : FilePath) (text : String) (p : FilePath) : Prop where
  absolute : p.isAbsolute = true
  stays : text.toList.head? = some '/' → p = FilePath.ofText text
  under : text.toList.head? ≠ some '/' → p = ⟨cwd.root, cwd.parts ++ (FilePath.ofText text).parts⟩

structure WellFormed (cwd : FilePath) (given : String → Option String) (s : Settings) :
    Prop where
  rootSelector : Text.Stripped s.rootSelector
  jsEngine : Text.Stripped s.jsEngine
  loadTimeout : 1000 ≤ s.loadTimeout
  pagesDir : Placed cwd ((given "PAGES_DIR").getD "./pages") s.pagesDir
  logFile : Placed cwd ((given "LOG_FILE").getD "./pagepath.log") s.logFile

/-! ## What the sources say -/

section Sources

variable {env : Environment} {source vars : List (String × String)} {file : Option (List UInt8)}

theorem find?_folded (source : List (String × String)) (name : String) :
    Ordered.find? (folded name) (source.map fun e => (folded e.1, some e.2)) =
      (said? source name).map some := by
  induction source with
  | nil => rfl
  | cons e source ih =>
      rw [List.map_cons, Ordered.find?, said?, List.find?_cons]
      by_cases he : folded e.1 = folded name
      · simp [he]
      · simp only [he, if_false, beq_eq_false_iff_ne.2 he]
        exact ih

/-- Lowering keeps a source whose names differ in more than letter case. -/
theorem find?_lowered (h : (source.map fun e => folded e.1).Nodup) (name : String) :
    (lowered (source.map fun e => (e.1, some e.2))).find? (folded name) =
      (said? source name).map some := by
  have hkeys : (Ordered.keys (source.map fun e => (folded e.1, some e.2))).Nodup := by
    rwa [Ordered.keys, List.map_map]
  have hlowered : lowered (source.map fun e => (e.1, some e.2)) =
      Ordered.ofList (source.map fun e => (folded e.1, some e.2)) := by
    rw [lowered, Ordered.ofList, Ordered.update, List.foldl_map, List.foldl_map]
    rfl
  rw [hlowered, Ordered.ofList_of_nodup hkeys, find?_folded]

theorem given?_eq_chosen? (henv : (env.map fun e => folded e.1).Nodup)
    (hvars : (vars.map fun e => folded e.1).Nodup) :
    given? env (vars.map fun e => (e.1, some e.2)) = chosen? env vars := by
  funext name
  have hsaid := find?_lowered henv name
  have hfile := find?_lowered hvars name
  simp only [folded] at hsaid hfile
  rw [given?, chosen?]
  simp only [hsaid, hfile]
  cases said? env name with
  | none =>
      rw [Option.none_or]
      cases said? vars name <;> rfl
  | some text => rfl

namespace Sources

theorem nodup_names (h : Sources env file vars) : (vars.map Prod.fst).Nodup := by
  apply List.Nodup.of_map folded
  rw [List.map_map]
  exact h.assignedOnce

/-- Settings are loaded from the texts that are chosen. -/
theorem load_eq (h : Sources env file vars) (cwd : FilePath) :
    load cwd env file = (check cwd (chosen? env vars)).mapError .refused := by
  have hgiven := given?_eq_chosen? h.distinct h.assignedOnce
  have hofText {text : String} (hread : Dotenv.read env text = vars.map fun e => (e.1, some e.2)) :
      ofText cwd env text = (check cwd (chosen? env vars)).mapError .refused := by
    rw [ofText, hread, hgiven]
    cases check cwd (chosen? env vars) <;> rfl
  cases h.assigns with
  | absent => exact hofText rfl
  | lines htext hlines =>
      rw [load]
      simp only [htext]
      exact hofText (Dotenv.read_of_lines env hlines h.nodup_names h.plain)

end Sources

end Sources

/-! ## Single settings -/

section Fields

variable {α : Type} {given : String → Option String} {name : String} {default a : α}
  {check : String → Except SettingComplaint α}

theorem field_eq_ok_iff :
    field given name default check = .ok a ↔ Decided (given name) default check a := by
  unfold field Decided
  cases given name with
  | none => exact ⟨fun h => (Except.ok.inj h).symm, fun h => congrArg Except.ok h.symm⟩
  | some text => cases hcheck : check text <;> simp [hcheck]

theorem issues_field (given : String → Option String) (name : String) (default : α)
    (check : String → Except SettingComplaint α) :
    (field given name default check).issues =
      (refusal? given (name, complaint? check)).toList := by
  rw [field, refusal?]
  cases given name with
  | none => rfl
  | some text =>
      unfold complaint?
      dsimp only [Option.bind_some]
      cases check text <;> rfl

theorem telling_field (given : String → Option String) (name : String) (default : α)
    (check : String → Except SettingComplaint α) :
    (field given name default check).Telling := by
  rw [field]
  split
  · exact Checked.telling_ok default
  · split
    · exact Checked.telling_ok _
    · exact nofun

end Fields

/-! ## All settings -/

section Check

variable {cwd : FilePath} {given : String → Option String} {s : Settings}

theorem check_eq_ok_iff : check cwd given = .ok s ↔ Composed cwd given s := by
  simp only [check, Checked.map_eq_ok_iff, Checked.both_eq_ok_iff, field_eq_ok_iff]
  constructor
  · rintro ⟨_, ⟨⟨hroot, hengine, hcombine, hstrict⟩, ⟨hheadless, hbrowser, htimeout⟩, hpages,
      hlevel, htoFile, hfile, hcolor⟩, rfl⟩
    exact ⟨hroot, hengine, hcombine, hstrict, hheadless, hbrowser, htimeout, hpages, hlevel,
      htoFile, hfile, hcolor⟩
  · rintro ⟨hroot, hengine, hcombine, hstrict, hheadless, hbrowser, htimeout, hpages, hlevel,
      htoFile, hfile, hcolor⟩
    exact ⟨((_, _, _, _), (_, _, _), _, _, _, _, _),
      ⟨⟨hroot, hengine, hcombine, hstrict⟩, ⟨hheadless, hbrowser, htimeout⟩, hpages, hlevel,
        htoFile, hfile, hcolor⟩, rfl⟩

theorem issues_check (cwd : FilePath) (given : String → Option String) :
    (check cwd given).issues = refusals cwd given := by
  simp only [check, Checked.issues_map, Checked.issues_both, issues_field, refusals, checks,
    List.filterMap_eq_flatMap_toList, List.flatMap_cons, List.flatMap_nil, List.append_nil,
    List.append_assoc]

theorem telling_check (cwd : FilePath) (given : String → Option String) :
    (check cwd given).Telling := by
  unfold check
  refine Checked.Telling.map ?_ _
  repeat' apply Checked.Telling.both
  all_goals exact telling_field given _ _ _

theorem refusals_eq_nil_iff :
    refusals cwd given = [] ↔
      ∀ check ∈ checks cwd, ∀ text, given check.1 = some text → check.2 text = none := by
  rw [refusals, List.filterMap_eq_nil_iff]
  refine forall₂_congr fun check _ => ?_
  rw [refusal?, Option.map_eq_none_iff, Option.bind_eq_none_iff]

/-- A check has a result if nothing is refused, and else reports what is. -/
theorem check_cases (cwd : FilePath) (given : String → Option String) :
    (refusals cwd given = [] ∧ ∃ s, check cwd given = .ok s) ∨
      (refusals cwd given ≠ [] ∧ check cwd given = .error (refusals cwd given)) := by
  have hissues := issues_check cwd given
  have htelling := telling_check cwd given
  cases hcheck : check cwd given with
  | ok s =>
      rw [hcheck] at hissues
      exact Or.inl ⟨hissues.symm, s, rfl⟩
  | error es =>
      rw [hcheck] at hissues htelling
      obtain rfl : es = refusals cwd given := hissues
      exact Or.inr ⟨htelling.ne_nil, rfl⟩

theorem check_congr {given' : String → Option String}
    (h : ∀ check ∈ checks cwd, given' check.1 = given check.1) :
    check cwd given' = check cwd given := by
  simp only [checks, List.forall_mem_cons] at h
  obtain ⟨hroot, hengine, hcombine, hstrict, hheadless, hbrowser, htimeout, hpages, hlevel,
    htoFile, hfile, hcolor, -⟩ := h
  simp only [check, field, hroot, hengine, hcombine, hstrict, hheadless, hbrowser, htimeout,
    hpages, hlevel, htoFile, hfile, hcolor]

end Check

/-! ## Settings within their bounds -/

section Bounds

variable {cwd p : FilePath} {s : String}

theorem isAbsolute_ofText (text : String) :
    (FilePath.ofText text).isAbsolute = true ↔ text.toList.head? = some '/' := by
  rw [FilePath.isAbsolute, FilePath.ofText, bne_iff_ne]
  dsimp only
  rw [FilePath.rootOf]
  cases text.toList with
  | nil => simp
  | cons c cs =>
      by_cases hc : c = '/'
      · subst hc
        rw [List.takeWhile_cons_of_pos rfl, List.length_cons]
        split
        next h => exact absurd h (Nat.succ_ne_zero _)
        · simp
        · simp
      · rw [List.takeWhile_cons_of_neg (by simpa using hc)]
        simp [hc]

theorem placed_within (hcwd : cwd.isAbsolute = true) (text : String) :
    Placed cwd text (cwd.within (FilePath.ofText text)) := by
  have habsolute := isAbsolute_ofText text
  rw [FilePath.within]
  by_cases h : (FilePath.ofText text).isAbsolute = true
  · rw [if_pos h]
    exact ⟨h, fun _ => rfl, fun hnot => absurd (habsolute.1 h) hnot⟩
  · rw [if_neg h]
    exact ⟨hcwd, fun hslash => absurd (habsolute.2 hslash) h, fun _ => rfl⟩

theorem stripped_of_word {text : String} (h : Field.word text = .ok s) : Text.Stripped s := by
  unfold Field.word at h
  extract_lets at h
  split at h
  · cases h
  next hne =>
    cases h
    exact Text.stripped_of_trim (by simpa using hne)

theorem le_of_atLeast {least : Nat} {text : String} {n : Int}
    (h : Field.atLeast least text = .ok n) : (least : Int) ≤ n := by
  rw [Field.atLeast] at h
  split at h
  · cases h
  · split at h
    · cases h
    next hle =>
      cases h
      exact Int.not_lt.1 hle

end Bounds

section Decided

variable {α : Type} {chosen : Option String} {default a : α}
  {check : String → Except SettingComplaint α}

/-- What holds of the default, and of whatever the check makes of a text, holds of a
setting. -/
theorem Decided.induction {P : α → Prop} (h : Decided chosen default check a) (hdefault : P default)
    (hcheck : ∀ text b, check text = .ok b → P b) : P a := by
  unfold Decided at h
  split at h
  next => exact h ▸ hdefault
  next text => exact hcheck text a h

theorem Decided.path {cwd p : FilePath} {otherwise : String}
    (h : Decided chosen (cwd.within (FilePath.ofText otherwise)) (Field.path cwd) p) :
    p = cwd.within (FilePath.ofText (chosen.getD otherwise)) := by
  unfold Decided at h
  split at h
  next => exact h
  next text => exact (Except.ok.inj h).symm

end Decided

theorem Composed.wellFormed {cwd : FilePath} {given : String → Option String} {s : Settings}
    (h : Composed cwd given s) (hcwd : cwd.isAbsolute = true) : WellFormed cwd given s where
  rootSelector :=
    h.rootSelector.induction ⟨by decide, by decide, by decide⟩ fun _ _ => stripped_of_word
  jsEngine := h.jsEngine.induction ⟨by decide, by decide, by decide⟩ fun _ _ => stripped_of_word
  loadTimeout := h.loadTimeout.induction (by decide) fun _ _ => le_of_atLeast
  pagesDir := by
    rw [h.pagesDir.path]
    exact placed_within hcwd _
  logFile := by
    rw [h.logFile.path]
    exact placed_within hcwd _

/-- Settings are made of what is chosen for each of them. There are none exactly if one of
the chosen texts is refused, and then all that are refused are reported in the order of
declaration. What is not chosen, or bears another name, is of no effect. -/
theorem load_decides {env : Environment} {file : Option (List UInt8)}
    {vars : List (String × String)} {cwd : FilePath} (h : Sources env file vars)
    (hcwd : cwd.isAbsolute = true) :
    (∀ s, load cwd env file = .ok s ↔ Composed cwd (chosen? env vars) s) ∧
      ((∃ s, load cwd env file = .ok s) ↔
        ∀ check ∈ checks cwd, ∀ text, chosen? env vars check.1 = some text →
          check.2 text = none) ∧
      (∀ fault, load cwd env file = .error fault ↔
        fault = .refused (refusals cwd (chosen? env vars)) ∧
          refusals cwd (chosen? env vars) ≠ []) ∧
      (∀ env' file' vars', Sources env' file' vars' →
        (∀ check ∈ checks cwd, chosen? env' vars' check.1 = chosen? env vars check.1) →
        load cwd env' file' = load cwd env file) ∧
      ∀ s, load cwd env file = .ok s → WellFormed cwd (chosen? env vars) s := by
  have hload (s : Settings) : load cwd env file = .ok s ↔ Composed cwd (chosen? env vars) s := by
    rw [h.load_eq, ← check_eq_ok_iff]
    cases check cwd (chosen? env vars) <;> simp [Except.mapError]
  refine ⟨hload, ?_, ?_, ?_, fun s hs => ((hload s).1 hs).wellFormed hcwd⟩
  · rw [← refusals_eq_nil_iff, h.load_eq]
    rcases check_cases cwd (chosen? env vars) with ⟨hnil, s, hs⟩ | ⟨hne, herror⟩
    · simp [hs, hnil, Except.mapError]
    · simp [herror, hne, Except.mapError]
  · intro fault
    rw [h.load_eq]
    rcases check_cases cwd (chosen? env vars) with ⟨hnil, s, hs⟩ | ⟨hne, herror⟩
    · simp [hs, hnil, Except.mapError]
    · simp [herror, hne, Except.mapError, eq_comm]
  · intro env' file' vars' h' hagree
    rw [h'.load_eq, h.load_eq, check_congr hagree]

/-- The level in the file is no level, but the environment decides it. -/
theorem load_decides_overridden :
    load ⟨"/", ["home"]⟩ [("log_level", "DEBUG"), ("LEVEL", "loud")]
        (some ("LOG_LEVEL=loud\nPages_Dir='defs'\n".toList.map fun c => UInt8.ofNat c.toNat)) =
      .ok
        { rootSelector := "html", jsEngine := "pagepath-js", combineText := true,
          strictScope := false, headless := true, browser := .chromium, loadTimeout := 30000,
          pagesDir := ⟨"/", ["home", "defs"]⟩, logLevel := .debug, logToFile := false,
          logFile := ⟨"/", ["home", "pagepath.log"]⟩, colorized := true } := by
  have hhead : (Dotenv.skipGap "loud".toList).head? = some 'l' := rfl
  have hhash : '#' ∉ "loud".toList := by decide
  have hloud : Dotenv.Gives "loud".toList "loud".toList :=
    .bare (by simp [Dotenv.isLineEnd]) (by rw [hhead]; simp) fun _ _ hin =>
      hhash (hin.subset (by simp))
  have hdefs : Dotenv.Gives "'defs'".toList "defs".toList :=
    @Dotenv.Gives.quoted '\'' [] "defs".toList [] (Or.inl rfl) (List.forall_mem_nil _)
      (List.forall_mem_nil _) (by simp [Dotenv.isLineEnd])
  have hlevel : Dotenv.Assigns "LOG_LEVEL=loud".toList ("LOG_LEVEL", "loud") :=
    @Dotenv.Assigns.intro "LOG_LEVEL".toList _ _ (by decide) (List.all_eq_true.1 rfl) (by decide)
      hloud
  have hpages : Dotenv.Assigns "Pages_Dir='defs'".toList ("Pages_Dir", "defs") :=
    @Dotenv.Assigns.intro "Pages_Dir".toList _ _ (by decide) (List.all_eq_true.1 rfl) (by decide)
      hdefs
  have h : Sources [("log_level", "DEBUG"), ("LEVEL", "loud")]
      (some ("LOG_LEVEL=loud\nPages_Dir='defs'\n".toList.map fun c => UInt8.ofNat c.toNat))
      [("LOG_LEVEL", "loud"), ("Pages_Dir", "defs")] :=
    ⟨by decide, @Dotenv.FileAssigns.lines _ "LOG_LEVEL=loud\nPages_Dir='defs'\n" _ rfl
      (.assignment hlevel (.assignment hpages (.blank rfl .nil))), by decide, by decide⟩
  exact ((load_decides h rfl).1 _).2
    ⟨rfl, rfl, rfl, rfl, rfl, rfl, rfl, rfl, rfl, rfl, rfl, rfl⟩

end Settings

end PageAtlas
