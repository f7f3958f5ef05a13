import PageAtlas.Log.Request
import PageAtlas.Proofs.Ordered

/-!
# Logging is set up once

Loggers are asked for, the level is set and handlers are added, in any order. The first
request that finds settings sets logging up and clears away what was there; from then on
handlers are only added, and only the level that is asked for is set.
-/

namespace PageAtlas

structure LogScene where
  settings : Except Settings.Fault Settings
  tree : FileTree

/-- What is done to logging. Each request may find other settings and files. -/
inductive LogCall where
  | get (scene : LogScene) (name : Option String)
  | setLevel (scene : LogScene) (name : String)
  | addHandler (id : Nat)

namespace LogCall

def scene? : LogCall → Option LogScene
  | get scene _ => some scene
  | setLevel scene _ => some scene
  | addHandler _ => none

def number? : LogCall → Option Nat
  | setLevel _ name => LogLevel.numberOf? (Text.upper name)
  | _ => none

def added? : LogCall → Option Nat
  | addHandler id => some id
  | _ => none

end LogCall

namespace Logging

/-- What a call leaves of logging, and why it fails if it does. -/
def call (l : Logging) : LogCall → Logging × Option LogFault
  | .get scene name =>
      match l.get scene.settings name scene.tree with
      | (l, _, .ok _) => (l, none)
      | (l, _, .error fault) => (l, some fault)
  | .setLevel scene name =>
      match l.demandLevel scene.settings name scene.tree with
      | (l, _, fault) => (l, fault)
  | .addHandler id => (l.addHandler id, none)

def run (l : Logging) (calls : List LogCall) : Logging := calls.foldl (fun l c => (l.call c).1) l

/-- The level that a call sets. It sets none if it fails. -/
def setNow (l : Logging) (c : LogCall) : List Nat :=
  match (l.call c).2 with
  | none => c.number?.toList
  | some _ => []

def levelsSet (l : Logging) : List LogCall → List Nat
  | [] => []
  | c :: calls => l.setNow c ++ levelsSet (l.call c).1 calls

/-- A call is the first one that leaves logging set up. -/
structure FirstSetUp (l : Logging) (calls before : List LogCall) (first : LogCall)
    (after : List LogCall) : Prop where
  split : calls = before ++ first :: after
  notYet : (l.run before).configured = false
  done : (l.run (before ++ [first])).configured = true

def ownHandlers (s : Settings) : List LogHandler :=
  .console s.colorized :: if s.logToFile then [.file] else []

/-- Logging was set up from the settings. Since then these handlers were added and these
levels set. -/
structure Kept (s : Settings) (added levels : List Nat) (l : Logging) : Prop where
  configured : l.configured = true
  handlers : ∃ ids, Ordered.Firsts added ids ∧ l.handlers = ownHandlers s ++ ids.map .other
  level : l.level = levels.getLast?.getD s.logLevel.number

/-! ## One call -/

inductive Readied (scene : LogScene) (l : Logging) : Logging → Option LogFault → Prop
  | already (h : l.configured = true) : Readied scene l l none
  | refused {fault : Settings.Fault} (h : l.configured = false)
      (hsettings : scene.settings = .error fault) : Readied scene l l (some (.settings fault))
  | blocked {s : Settings} {l' : Logging} {fault : FileTree.MakeFault} (h : l.configured = false)
      (hsettings : scene.settings = .ok s) (hfile : s.logToFile = true)
      (htree : (scene.tree.make s.logFile.parent).2 = some fault) (h' : l'.configured = false) :
      Readied scene l l' (some (.directory fault))
  | done {s : Settings} {l' : Logging} (h : l.configured = false)
      (hsettings : scene.settings = .ok s)
      (htree : s.logToFile = true → (scene.tree.make s.logFile.parent).2 = none)
      (h' : Kept s [] [] l') : Readied scene l l' none

inductive Called (l : Logging) : LogCall → Logging → Option LogFault → Prop
  | get {scene : LogScene} {l' : Logging} {fault : Option LogFault} (name : Option String)
      (h : Readied scene l l' fault) : Called l (.get scene name) l' fault
  | unready {scene : LogScene} {l' : Logging} {fault : LogFault} (name : String)
      (h : Readied scene l l' (some fault)) : Called l (.setLevel scene name) l' (some fault)
  | level {scene : LogScene} {l' : Logging} {name : String} {n : Nat} (h : Readied scene l l' none)
      (hname : LogLevel.numberOf? (Text.upper name) = some n) :
      Called l (.setLevel scene name) { l' with level := n } none
  | unknown {scene : LogScene} {l' : Logging} {name : String} (h : Readied scene l l' none)
      (hname : LogLevel.numberOf? (Text.upper name) = none) :
      Called l (.setLevel scene name) l' (some (.level (LogLevel.unknown (Text.upper name))))
  | addHandler (id : Nat) : Called l (.addHandler id) (l.addHandler id) none

theorem readied (scene : LogScene) (l : Logging) :
    Readied scene l (l.ready scene.settings scene.tree).1
      (l.ready scene.settings scene.tree).2.2 := by
  unfold ready
  by_cases h : l.configured = true
  · rw [if_pos h]
    exact .already h
  · rw [if_neg h]
    rw [Bool.not_eq_true] at h
    cases hsettings : scene.settings with
    | error fault => exact .refused h hsettings
    | ok s =>
        have hconfigured : ¬ l.configured = true := by simp [h]
        dsimp only
        rw [configure, if_neg hconfigured]
        by_cases hfile : s.logToFile = true
        · rw [if_pos hfile]
          cases hmake : scene.tree.make s.logFile.parent with
          | mk tree fault =>
              cases fault with
              | none =>
                  refine .done h hsettings (fun _ => by rw [hmake]) ⟨rfl, ?_, rfl⟩
                  exact ⟨[], .nil, by simp [ownHandlers, hfile]⟩
              | some fault => exact .blocked h hsettings hfile (by rw [hmake]) h
        · rw [if_neg hfile]
          refine .done h hsettings (fun hyes => absurd hyes hfile) ⟨rfl, ?_, rfl⟩
          exact ⟨[], .nil, by simp [ownHandlers, hfile]⟩

theorem called (l : Logging) (c : LogCall) : Called l c (l.call c).1 (l.call c).2 := by
  cases c with
  | get scene name =>
      have h := readied scene l
      rw [call, get]
      cases hready : l.ready scene.settings scene.tree with
      | mk l' rest =>
          obtain ⟨tree, fault⟩ := rest
          rw [hready] at h
          cases fault with
          | none => exact .get name h
          | some fault => exact .get name h
  | setLevel scene name =>
      have h := readied scene l
      rw [call, demandLevel]
      cases hready : l.ready scene.settings scene.tree with
      | mk l' rest =>
          obtain ⟨tree, fault⟩ := rest
          rw [hready] at h
          cases fault with
          | none =>
              dsimp only
              rw [Logging.setLevel]
              cases hname : LogLevel.numberOf? (Text.upper name) with
              | none => exact .unknown h hname
              | some n => exact .level h hname
          | some fault => exact .unready name h
  | addHandler id => exact .addHandler id

variable {l l' : Logging} {c : LogCall} {scene : LogScene} {s : Settings} {added levels : List Nat}
  {calls : List LogCall} {fault : Option LogFault}

/-- Once logging is set up, no settings are asked for. -/
theorem Readied.eq_of_configured (h : Readied scene l l' fault) (hl : l.configured = true) :
    l' = l ∧ fault = none := by
  cases h with
  | already => exact ⟨rfl, rfl⟩
  | refused hnot => rw [hnot] at hl; cases hl
  | blocked hnot => rw [hnot] at hl; cases hl
  | done hnot => rw [hnot] at hl; cases hl

theorem addHandler_configured (id : Nat) (l : Logging) :
    (l.addHandler id).configured = l.configured := by
  rw [addHandler]
  split <;> rfl

theorem Kept.addHandler (h : Kept s added levels l) (id : Nat) :
    Kept s (added ++ [id]) levels (l.addHandler id) := by
  obtain ⟨hconfigured, ⟨ids, hids, hhandlers⟩, hlevel⟩ := h
  have hmem : .other id ∈ l.handlers ↔ id ∈ ids := by
    rw [hhandlers, ownHandlers]
    cases s.logToFile <;> simp
  rw [Logging.addHandler]
  by_cases hid : id ∈ ids
  · rw [if_pos (hmem.2 hid)]
    exact ⟨hconfigured, ⟨ids, hids.concat_of_mem hid, hhandlers⟩, hlevel⟩
  · rw [if_neg (mt hmem.1 hid)]
    refine ⟨hconfigured, ⟨ids ++ [id], hids.concat_of_notMem hid, ?_⟩, hlevel⟩
    simp [hhandlers]

theorem Kept.setLevel (h : Kept s added levels l) (n : Nat) :
    Kept s added (levels ++ [n]) { l with level := n } :=
  ⟨h.configured, h.handlers, by simp⟩

theorem Kept.call (h : Kept s added levels l) (c : LogCall) :
    Kept s (added ++ c.added?.toList) (levels ++ l.setNow c) (l.call c).1 := by
  have hcalled := called l c
  rw [setNow]
  generalize l.call c = result at hcalled
  obtain ⟨l', fault⟩ := result
  dsimp only at hcalled ⊢
  cases hcalled with
  | get name hready =>
      obtain ⟨rfl, rfl⟩ := hready.eq_of_configured h.configured
      simpa [LogCall.added?, LogCall.number?] using h
  | unready name hready => cases (hready.eq_of_configured h.configured).2
  | level hready hname =>
      obtain ⟨rfl, -⟩ := hready.eq_of_configured h.configured
      simpa [LogCall.added?, LogCall.number?, hname] using h.setLevel _
  | unknown hready hname =>
      obtain ⟨rfl, -⟩ := hready.eq_of_configured h.configured
      simpa [LogCall.added?] using h
  | addHandler id => simpa [LogCall.added?, LogCall.number?] using h.addHandler id

/-- Logging gets ready from the settings that a request finds, or not at all. -/
theorem Readied.kept (h : Readied scene l l' fault) (hl : l.configured = false)
    (hdone : l'.configured = true) :
    fault = none ∧ ∃ s, scene.settings = .ok s ∧ Kept s [] [] l' := by
  cases h with
  | already hyes => rw [hyes] at hl; cases hl
  | refused hnot => rw [hnot] at hdone; cases hdone
  | blocked _ _ _ _ hnot => rw [hnot] at hdone; cases hdone
  | done _ hsettings _ hkept => exact ⟨rfl, _, hsettings, hkept⟩

/-- The call that sets logging up starts from its settings. -/
theorem kept_of_call (hl : l.configured = false) (hdone : (l.call c).1.configured = true) :
    ∃ scene s, c.scene? = some scene ∧ scene.settings = .ok s ∧
      Kept s [] (l.setNow c) (l.call c).1 := by
  have hcalled := called l c
  rw [setNow]
  generalize l.call c = result at hcalled hdone
  obtain ⟨l', fault⟩ := result
  dsimp only at hcalled hdone ⊢
  cases hcalled with
  | @get scene _ _ name hready =>
      obtain ⟨rfl, s, hsettings, hkept⟩ := hready.kept hl hdone
      exact ⟨scene, s, rfl, hsettings, hkept⟩
  | unready name hready => cases (hready.kept hl hdone).1
  | @level scene _ name n hready hname =>
      obtain ⟨-, s, hsettings, hkept⟩ := hready.kept hl hdone
      refine ⟨scene, s, rfl, hsettings, ?_⟩
      simpa [LogCall.number?, hname] using hkept.setLevel n
  | @unknown scene _ name hready hname =>
      obtain ⟨-, s, hsettings, hkept⟩ := hready.kept hl hdone
      exact ⟨scene, s, rfl, hsettings, hkept⟩
  | addHandler id =>
      rw [addHandler_configured, hl] at hdone
      cases hdone

/-- A request gets logging ready first, and if that fails it fails. Whether logging is set up
is not changed by anything else. -/
theorem Called.exists_readied (h : Called l c l' fault) (hscene : c.scene? = some scene) :
    ∃ ready fault', Readied scene l ready fault' ∧ l'.configured = ready.configured ∧
      (fault = none → fault' = none) := by
  cases h with
  | get name hready =>
      cases hscene
      exact ⟨_, _, hready, rfl, id⟩
  | unready name hready =>
      cases hscene
      exact ⟨_, _, hready, rfl, nofun⟩
  | level hready hname =>
      cases hscene
      exact ⟨_, _, hready, rfl, fun _ => rfl⟩
  | unknown hready hname =>
      cases hscene
      exact ⟨_, _, hready, rfl, fun _ => rfl⟩
  | addHandler id => cases hscene

theorem configured_call (h : l.configured = true) (c : LogCall) :
    (l.call c).1.configured = true := by
  cases hscene : c.scene? with
  | none =>
      cases c with
      | addHandler id => exact (addHandler_configured id l).trans h
      | get scene name => cases hscene
      | setLevel scene name => cases hscene
  | some scene =>
      obtain ⟨ready, fault, hready, hsame, -⟩ := (called l c).exists_readied hscene
      rw [hsame, (hready.eq_of_configured h).1, h]

theorem Readied.configured (h : Readied scene l l' none) : l'.configured = true := by
  cases h with
  | already h => exact h
  | done _ _ _ hkept => exact hkept.configured

theorem configured_of_succeeds (hscene : c.scene? = some scene) (h : (l.call c).2 = none) :
    (l.call c).1.configured = true := by
  obtain ⟨ready, fault, hready, hsame, hnone⟩ := (called l c).exists_readied hscene
  rw [hnone h] at hready
  rw [hsame]
  exact hready.configured

/-- A request sets logging up if it finds settings, and can make the directory that they
call for. -/
theorem Readied.configured_iff (h : Readied scene l l' fault) (hl : l.configured = false) :
    l'.configured = true ↔ ∃ s, scene.settings = .ok s ∧
      (s.logToFile = true → (scene.tree.make s.logFile.parent).2 = none) := by
  cases h with
  | already hyes => rw [hyes] at hl; cases hl
  | refused hnot hsettings => simp [hnot, hsettings]
  | blocked _ hsettings hfile htree hnot => simp [hnot, hsettings, hfile, htree]
  | done _ hsettings htree hkept => exact iff_of_true hkept.configured ⟨_, hsettings, htree⟩

theorem configured_call_iff (hscene : c.scene? = some scene) (hl : l.configured = false) :
    (l.call c).1.configured = true ↔ ∃ s, scene.settings = .ok s ∧
      (s.logToFile = true → (scene.tree.make s.logFile.parent).2 = none) := by
  obtain ⟨ready, fault, hready, hsame, -⟩ := (called l c).exists_readied hscene
  rw [hsame]
  exact hready.configured_iff hl

theorem call_of_refused {e : Settings.Fault} (hscene : c.scene? = some scene)
    (hl : l.configured = false) (hsettings : scene.settings = .error e) :
    l.call c = (l, some (.settings e)) := by
  have hready : l.ready scene.settings scene.tree =
      (l, scene.tree, some (.settings e)) := by
    rw [hsettings]
    unfold ready
    rw [if_neg (by rw [hl]; exact nofun)]
  cases c with
  | get scene name =>
      cases hscene
      simp only [call, get, hready]
  | setLevel scene name =>
      cases hscene
      simp only [call, demandLevel, hready]
  | addHandler id => cases hscene

/-- A name without a level is refused, and nothing is changed once logging is set up. -/
theorem call_of_unknown {name : String} (hl : l.configured = true)
    (hname : LogLevel.numberOf? (Text.upper name) = none) (scene : LogScene) :
    l.call (.setLevel scene name) =
      (l, some (.level (LogLevel.unknown (Text.upper name)))) := by
  have hready : l.ready scene.settings scene.tree = (l, scene.tree, none) := by
    unfold ready
    rw [if_pos hl]
  simp only [call, demandLevel, hready, Logging.setLevel, hname]

theorem call_unknown_ne_none {name : String} (hname : LogLevel.numberOf? (Text.upper name) = none)
    (scene : LogScene) (l : Logging) : (l.call (.setLevel scene name)).2 ≠ none := by
  intro hnone
  have hcalled := called l (.setLevel scene name)
  rw [hnone] at hcalled
  generalize (l.call (.setLevel scene name)).1 = l' at hcalled
  cases hcalled with
  | level _ hsome =>
      rw [hname] at hsome
      cases hsome

theorem configured_of_setNow (h : l.setNow c ≠ []) : (l.call c).1.configured = true := by
  rw [setNow] at h
  cases hfault : (l.call c).2 with
  | some fault => exact absurd (by rw [hfault]) h
  | none =>
      cases c with
      | get scene name => exact configured_of_succeeds rfl hfault
      | setLevel scene name => exact configured_of_succeeds rfl hfault
      | addHandler id => exact absurd (by rw [hfault]; rfl) h

/-! ## A whole run -/

theorem run_append (l : Logging) (calls calls' : List LogCall) :
    l.run (calls ++ calls') = (l.run calls).run calls' := List.foldl_append

theorem levelsSet_append (l : Logging) (calls calls' : List LogCall) :
    l.levelsSet (calls ++ calls') = l.levelsSet calls ++ (l.run calls).levelsSet calls' := by
  induction calls generalizing l with
  | nil => rfl
  | cons c calls ih =>
      rw [List.cons_append, levelsSet, levelsSet, ih, List.append_assoc]
      rfl

theorem configured_run (h : l.configured = true) (calls : List LogCall) :
    (l.run calls).configured = true := by
  induction calls generalizing l with
  | nil => exact h
  | cons c calls ih => exact ih (configured_call h c)

/-- As long as logging is not set up, no level has been set. -/
theorem levelsSet_eq_nil (h : (l.run calls).configured = false) : l.levelsSet calls = [] := by
  induction calls generalizing l with
  | nil => rfl
  | cons c calls ih =>
      rw [levelsSet, ih h, List.append_nil]
      by_contra hset
      rw [← Bool.not_eq_true] at h
      exact h (configured_run (configured_of_setNow hset) calls)

theorem Kept.run (h : Kept s added levels l) (calls : List LogCall) :
    Kept s (added ++ calls.filterMap LogCall.added?) (levels ++ l.levelsSet calls)
      (l.run calls) := by
  induction calls generalizing l added levels with
  | nil =>
      rw [List.filterMap_nil, levelsSet, List.append_nil, List.append_nil]
      exact h
  | cons c calls ih =>
      have hcall := ih (h.call c)
      rw [List.append_assoc, List.append_assoc] at hcall
      rwa [levelsSet, List.filterMap_eq_flatMap_toList, List.flatMap_cons,
        ← List.filterMap_eq_flatMap_toList]

theorem exists_firstSetUp (hl : l.configured = false) (h : (l.run calls).configured = true) :
    ∃ before first after, FirstSetUp l calls before first after := by
  induction calls using List.reverseRecOn with
  | nil => rw [show l.run [] = l from rfl, hl] at h; cases h
  | append_singleton calls c ih =>
      -- Logging was set up before the last call, or the last call does it.
      by_cases hearlier : (l.run calls).configured = true
      · obtain ⟨before, first, after, hsplit, hnot, hdone⟩ := ih hearlier
        exact ⟨before, first, after ++ [c], by rw [hsplit]; simp, hnot, hdone⟩
      · exact ⟨calls, c, [], rfl, by simpa using hearlier, h⟩

/-- What the first set-up makes is kept, whatever is called afterwards. -/
theorem FirstSetUp.kept {before after : List LogCall} {first : LogCall}
    (h : FirstSetUp l calls before first after) :
    ∃ scene s, first.scene? = some scene ∧ scene.settings = .ok s ∧
      Kept s (after.filterMap LogCall.added?) (l.levelsSet calls) (l.run calls) := by
  obtain ⟨rfl, hnot, hdone⟩ := h
  rw [run_append] at hdone
  -- The invariant starts behind the first request that sets logging up; no level was set before.
  obtain ⟨scene, s, hscene, hsettings, hfirst⟩ := kept_of_call hnot hdone
  have hkept := hfirst.run after
  rw [List.nil_append] at hkept
  refine ⟨scene, s, hscene, hsettings, ?_⟩
  rw [run_append, levelsSet_append, levelsSet_eq_nil hnot, List.nil_append]
  exact hkept

/-- A request that finds no settings fails and changes nothing until logging is set up. The
first request that can set it up does, from its settings: their console and file are the
first handlers from then on, followed by all handlers that are added, and the level is theirs
until one is set. A level without a known name never is. -/
theorem run_set_up_once (l : Logging) (calls : List LogCall) :
    (∀ c scene, c.scene? = some scene → (l.run calls).configured = false →
      (∀ e, scene.settings = .error e →
        (l.run calls).call c = (l.run calls, some (.settings e))) ∧
      (((l.run calls).call c).1.configured = true ↔ ∃ s, scene.settings = .ok s ∧
        (s.logToFile = true → (scene.tree.make s.logFile.parent).2 = none))) ∧
    (l.configured = false → (l.run calls).configured = true →
      ∃ before first after, FirstSetUp l calls before first after) ∧
    (∀ before first after, FirstSetUp l calls before first after →
      ∃ scene s, first.scene? = some scene ∧ scene.settings = .ok s ∧
        (∃ ids, Ordered.Firsts (after.filterMap LogCall.added?) ids ∧
          (l.run calls).handlers =
            .console s.colorized :: (if s.logToFile then [.file] else []) ++ ids.map .other) ∧
        (l.run calls).level = (l.levelsSet calls).getLast?.getD s.logLevel.number) ∧
    ∀ name, LogLevel.numberOf? (Text.upper name) = none → ∀ scene,
      ((l.run calls).call (.setLevel scene name)).2 ≠ none ∧
      ((l.run calls).configured = true → (l.run calls).call (.setLevel scene name) =
        (l.run calls, some (.level (LogLevel.unknown (Text.upper name))))) := by
  refine ⟨fun c scene hscene hl => ?_, exists_firstSetUp, ?_, fun name hname scene => ?_⟩
  · exact ⟨fun e => call_of_refused hscene hl, configured_call_iff hscene hl⟩
  · intro before first after h
    obtain ⟨scene, s, hscene, hsettings, hkept⟩ := h.kept
    exact ⟨scene, s, hscene, hsettings, hkept.handlers, hkept.level⟩
  · exact ⟨call_unknown_ne_none hname scene _, fun hl => call_of_unknown hl hname scene⟩

/-- A handler from before the set-up is cleared away, and kept when it is added again. The
request that sets logging up asks for no known level; a later one does. -/
theorem run_set_up_once_cleared :
    let refused : LogScene := ⟨.error (.refused [⟨"LOG_LEVEL", .notLevel⟩]), {}⟩
    let found : LogScene :=
      ⟨.ok { rootSelector := "html", jsEngine := "text", combineText := true, strictScope := false,
             headless := true, browser := .chromium, loadTimeout := 30000,
             pagesDir := ⟨"/", ["pages"]⟩, logLevel := .info, logToFile := true,
             logFile := ⟨"/", ["run.log"]⟩, colorized := true }, {}⟩
    let l := ({} : Logging).run [.addHandler 7, .get refused none, .setLevel found "loud",
      .addHandler 7, .setLevel refused "debug", .addHandler 8, .addHandler 7, .get found none]
    l.handlers = [.console true, .file, .other 7, .other 8] ∧ l.level = 10 := by
  intro refused found l
  obtain ⟨-, -, hkept, -⟩ := run_set_up_once {} [.addHandler 7, .get refused none,
    .setLevel found "loud", .addHandler 7, .setLevel refused "debug", .addHandler 8, .addHandler 7,
    .get found none]
  obtain ⟨_, s, hscene, hsettings, ⟨ids, hids, hhandlers⟩, hlevel⟩ :=
    hkept [.addHandler 7, .get refused none] (.setLevel found "loud") _ ⟨rfl, rfl, rfl⟩
  cases hscene
  cases hsettings
  have hadded : Ordered.Firsts [7, 8, 7] [7, 8] :=
    ((Ordered.Firsts.of_nodup (by decide) : Ordered.Firsts [7, 8] [7, 8])).concat_of_mem (by decide)
  rw [hids.unique hadded] at hhandlers
  exact ⟨hhandlers, hlevel⟩

end Logging

end PageAtlas
