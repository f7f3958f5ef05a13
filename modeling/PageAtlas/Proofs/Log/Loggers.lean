import PageAtlas.Proofs.Log.History

/-!
# Loggers over a run of steps

Values are bound and unbound, loggers are asked for, scoped and used in any
order. Loggers that were asked for share what is bound; a scoped one has what
the steps before it left bound, overlaid with values of its own.
-/

namespace PageAtlas

/-- What is done with logging, one thing at a time. Settings that are not valid
are none. -/
inductive LogStep where
  | bind (values : LogContext)
  | unbind (names : List String)
  | get (settings : Option Settings) (name : Option String)
  | scope (of : Nat) (values : LogContext)
  | emit (of level : Nat) (message : String) (created : Moment)
  | setLevel (settings : Option Settings) (name : String)
  | addHandler (id : Nat)

def LogStep.bindings : LogStep → List Binding
  | bind values => Binding.ofValues values
  | unbind names => names.map .unbound
  | _ => []

def LogStep.history (steps : List LogStep) : List Binding := steps.flatMap LogStep.bindings

structure LogBench where
  logging : Logging := {}
  tree : FileTree := {}
  loggers : List Logger := []

namespace LogBench

/-- Goes on with logging set up, which settings are needed for only the first time. -/
def whenReady (settings : Option Settings) (next : LogBench → LogBench) (b : LogBench) :
    LogBench :=
  match settings with
  | none => if b.logging.configured then next b else b
  | some s =>
      match b.logging.configure s b.tree with
      | (logging, tree, none) => next { b with logging, tree }
      | (logging, tree, some _) => { b with logging, tree }

def add (g : Logger) (b : LogBench) : LogBench := { b with loggers := b.loggers ++ [g] }

def setLevel (name : String) (b : LogBench) : LogBench :=
  match b.logging.setLevel name with
  | .ok logging => { b with logging }
  | .error _ => b

def step (b : LogBench) : LogStep → LogBench
  | .bind values => { b with logging := b.logging.bind values }
  | .unbind names => { b with logging := b.logging.unbind names }
  | .get settings name => b.whenReady settings (add (Logging.logger name))
  | .scope of values =>
      match b.loggers[of]? with
      | some g => b.add (b.logging.snapshot g values)
      | none => b
  | .emit of level message created =>
      match b.loggers[of]? with
      | some g => { b with tree := (b.logging.emit g level message created b.tree).1 }
      | none => b
  | .setLevel settings name => b.whenReady settings (setLevel name)
  | .addHandler id => { b with logging := b.logging.addHandler id }

def run (b : LogBench) (steps : List LogStep) : LogBench := steps.foldl step b

theorem run_concat (b : LogBench) (steps : List LogStep) (s : LogStep) :
    b.run (steps ++ [s]) = (b.run steps).step s := List.foldl_concat ..

end LogBench

theorem LogStep.history_concat (steps : List LogStep) (s : LogStep) :
    history (steps ++ [s]) = history steps ++ s.bindings := by
  simp [history]

namespace Logging

theorem configure_context (s : Settings) (tree : FileTree) (l : Logging) :
    (l.configure s tree).1.context = l.context := by
  rw [configure]
  split
  · rfl
  · split
    · split <;> rfl
    · rfl

/-- What is logged through the logger is handed on with this context, and with
nothing left out. -/
def Carries (g : Logger) (c : LogContext) (l : Logging) : Prop :=
  l.contextOf g = c ∧ ∀ level message created tree, l.isEnabled g level = true →
    (l.emit g level message created tree).1 =
      (deliver l.file
        { created, level := LogLevel.nameOf level, logger := g.name, message, context := c }
        tree l.handlers).1

theorem carries_contextOf (g : Logger) (l : Logging) : Carries g (l.contextOf g) l := by
  refine ⟨rfl, fun level message created tree henabled => ?_⟩
  rw [emit, if_pos henabled]
  dsimp only
  split
  next h => rw [h]
  next h => rw [h]

end Logging

namespace LogBench

variable {b : LogBench}

/-! ## One step -/

theorem whenReady_cases (settings : Option Settings) (next : LogBench → LogBench)
    (b : LogBench) : ∃ b' : LogBench, b'.loggers = b.loggers ∧
      b'.logging.context = b.logging.context ∧
      (b.whenReady settings next = b' ∨ b.whenReady settings next = next b') := by
  cases settings with
  | none =>
      refine ⟨b, rfl, rfl, ?_⟩
      rw [whenReady]
      split
      · exact Or.inr rfl
      · exact Or.inl rfl
  | some s =>
      refine ⟨{ b with logging := (b.logging.configure s b.tree).1,
                       tree := (b.logging.configure s b.tree).2.1 }, rfl,
        Logging.configure_context s b.tree b.logging, ?_⟩
      rw [whenReady]
      split
      next h =>
        rw [h]
        exact Or.inr rfl
      next h =>
        rw [h]
        exact Or.inl rfl

theorem setLevel_context (name : String) (b : LogBench) :
    (b.setLevel name).logging.context = b.logging.context := by
  rw [setLevel]
  split
  next logging h =>
    rw [Logging.setLevel] at h
    split at h
    · cases h
      rfl
    · cases h
  next => rfl

theorem setLevel_loggers (name : String) (b : LogBench) :
    (b.setLevel name).loggers = b.loggers := by
  rw [setLevel]
  split <;> rfl

theorem step_context (b : LogBench) (s : LogStep) :
    (b.step s).logging.context = s.bindings.foldl Binding.apply b.logging.context := by
  cases s with
  | bind values => exact Binding.update_eq_foldl b.logging.context values
  | unbind names => exact Binding.foldl_erase_eq_foldl b.logging.context names
  | get settings name =>
      rw [step]
      obtain ⟨b', -, hcontext, h | h⟩ := whenReady_cases settings (add (Logging.logger name)) b
      · rw [h, hcontext]
        rfl
      · rw [h]
        exact hcontext
  | scope of values =>
      rw [step]
      split <;> rfl
  | emit of level message created =>
      rw [step]
      split <;> rfl
  | setLevel settings name =>
      rw [step]
      obtain ⟨b', -, hcontext, h | h⟩ := whenReady_cases settings (setLevel name) b
      · rw [h, hcontext]
        rfl
      · rw [h, setLevel_context, hcontext]
        rfl
  | addHandler id =>
      rw [step, Logging.addHandler]
      split <;> rfl

/-- A step makes the logger: one that is asked for, or a scoped one. -/
inductive Makes (b : LogBench) : LogStep → Logger → Prop
  | get (settings : Option Settings) (name : Option String) :
      Makes b (.get settings name) (Logging.logger name)
  | scope {of : Nat} {g : Logger} (values : LogContext) (h : b.loggers[of]? = some g) :
      Makes b (.scope of values) (b.logging.snapshot g values)

/-- Loggers stay as they are, and a step makes at most one more. -/
theorem step_loggers (b : LogBench) (s : LogStep) :
    (b.step s).loggers = b.loggers ∨
      ∃ g, b.Makes s g ∧ (b.step s).loggers = b.loggers ++ [g] := by
  cases s with
  | bind values => exact Or.inl rfl
  | unbind names => exact Or.inl rfl
  | get settings name =>
      rw [step]
      obtain ⟨b', hloggers, -, h | h⟩ := whenReady_cases settings (add (Logging.logger name)) b
      · rw [h]
        exact Or.inl hloggers
      · rw [h, ← hloggers]
        exact Or.inr ⟨_, .get settings name, rfl⟩
  | scope of values =>
      rw [step]
      split
      next g hg => exact Or.inr ⟨_, .scope values hg, rfl⟩
      next => exact Or.inl rfl
  | emit of level message created =>
      rw [step]
      split <;> exact Or.inl rfl
  | setLevel settings name =>
      rw [step]
      obtain ⟨b', hloggers, -, h | h⟩ := whenReady_cases settings (setLevel name) b
      · rw [h]
        exact Or.inl hloggers
      · rw [h, setLevel_loggers]
        exact Or.inl hloggers
  | addHandler id => exact Or.inl rfl

/-! ## A whole run -/

variable {steps : List LogStep}

theorem describes_run (h : Binding.Describes [] b.logging.context) (steps : List LogStep) :
    Binding.Describes (LogStep.history steps) (b.run steps).logging.context := by
  induction steps using List.reverseRecOn with
  | nil => exact h
  | append_singleton steps s ih =>
      rw [LogStep.history_concat, run_concat, step_context]
      exact ih.foldl_apply s.bindings

/-- The logger in that place was made by the step behind the ones before it. -/
structure MadeBy (b : LogBench) (steps before : List LogStep) (s : LogStep) (i : Nat) (g : Logger) :
    Prop where
  part : before ++ [s] <+: steps
  place : (b.run before).loggers.length = i
  makes : (b.run before).Makes s g
  loggers : (b.run (before ++ [s])).loggers = (b.run before).loggers ++ [g]

theorem MadeBy.concat {before : List LogStep} {s : LogStep} {i : Nat} {g : Logger}
    (h : b.MadeBy steps before s i g) (t : LogStep) : b.MadeBy (steps ++ [t]) before s i g :=
  ⟨h.part.trans (List.prefix_append steps [t]), h.place, h.makes, h.loggers⟩

theorem exists_madeBy (hb : b.loggers = []) {i : Nat} {g : Logger}
    (h : (b.run steps).loggers[i]? = some g) : ∃ before s, b.MadeBy steps before s i g := by
  induction steps using List.reverseRecOn with
  | nil =>
      change b.loggers[i]? = some g at h
      rw [hb] at h
      cases h
  | append_singleton steps s ih =>
      rw [run_concat] at h
      rcases (b.run steps).step_loggers s with hsame | ⟨g', hmakes, hmore⟩
      · rw [hsame] at h
        obtain ⟨before, t, hmade⟩ := ih h
        exact ⟨before, t, hmade.concat s⟩
      · rw [hmore, List.getElem?_append] at h
        split at h
        · obtain ⟨before, t, hmade⟩ := ih h
          exact ⟨before, t, hmade.concat s⟩
        next hi =>
          obtain ⟨hlast, hg⟩ := List.getElem?_eq_some_iff.1 h
          rw [List.length_singleton] at hlast
          obtain rfl : g' = g := by simpa using hg
          exact ⟨steps, s, List.prefix_rfl, by omega, hmakes, by rw [run_concat, hmore]⟩

/-- What is bound is what the bindings up to now describe, and a record carries
exactly that if its logger was asked for, at whatever time. If the logger is a
scoped one, the record carries what was bound when the logger was made, overlaid
with the values given then. Making or using a scoped logger leaves alone what is
bound and all other loggers. -/
theorem run_carries (tree : FileTree) (steps : List LogStep) :
    let b : LogBench := ({ tree } : LogBench).run steps
    (∀ c, Binding.Describes (LogStep.history steps) c ↔ b.logging.context = c) ∧
    (∀ i g, b.loggers[i]? = some g →
      ∃ before s, ({ tree } : LogBench).MadeBy steps before s i g ∧
        ((∃ settings name, s = .get settings name ∧
            b.logging.Carries g b.logging.context) ∨
          ∃ of values c, s = .scope of values ∧
            Binding.Describes (LogStep.history before ++ Binding.ofValues values) c ∧
            b.logging.Carries g c)) ∧
    (∀ of values, (b.step (.scope of values)).logging = b.logging ∧
      b.loggers <+: (b.step (.scope of values)).loggers ∧
      (of < b.loggers.length → b.loggers.length < (b.step (.scope of values)).loggers.length)) ∧
    ∀ of level message created, (b.step (.emit of level message created)).logging = b.logging ∧
      (b.step (.emit of level message created)).loggers = b.loggers := by
  intro b
  have hcontext (steps : List LogStep) :
      Binding.Describes (LogStep.history steps) (({ tree } : LogBench).run steps).logging.context :=
    describes_run Binding.Describes.nil steps
  refine ⟨fun c => ⟨(hcontext steps).unique, fun h => h ▸ hcontext steps⟩, ?_, ?_, ?_⟩
  · intro i g hg
    obtain ⟨before, s, hmade⟩ := exists_madeBy rfl hg
    refine ⟨before, s, hmade, ?_⟩
    have hcarries := Logging.carries_contextOf g b.logging
    cases hmade.makes with
    | get settings name => exact Or.inl ⟨settings, name, rfl, hcarries⟩
    | @scope of parent values _ =>
        exact Or.inr ⟨of, values, _, rfl, (hcontext before).update values, hcarries⟩
  · intro of values
    rw [step]
    cases h : b.loggers[of]? with
    | none =>
        refine ⟨rfl, List.prefix_rfl, fun hof => ?_⟩
        exact absurd hof (by simpa using h)
    | some g => exact ⟨rfl, List.prefix_append _ _, fun _ => by simp [add]⟩
  · intro of level message created
    rw [step]
    split <;> exact ⟨rfl, rfl⟩

/-- A name is unbound and bound again while a scoped logger is around. -/
def rebound : List LogStep :=
  [.get (some
      { rootSelector := "html", jsEngine := "text", combineText := true, strictScope := false,
        headless := true, browser := .chromium, loadTimeout := 30000, pagesDir := ⟨"/", ["pages"]⟩,
        logLevel := .info, logToFile := true, logFile := ⟨"/", ["run.log"]⟩, colorized := true })
      none,
    .bind [("page", .str "P"), ("hop", .int 1)], .scope 0 [("hop", .int 2), ("try", .int 3)],
    .unbind ["page", "absent"], .emit 1 20 "hop" { date := ⟨2026, 1, 1⟩ },
    .bind [("page", .str "Q")]]

theorem run_carries_rebound :
    let b : LogBench := ({} : LogBench).run rebound
    Binding.Describes (LogStep.history rebound) [("hop", .int 1), ("page", .str "Q")] ∧
    ∃ shared frozen, b.loggers = [shared, frozen] ∧
      b.logging.Carries shared [("hop", .int 1), ("page", .str "Q")] ∧
      b.logging.Carries frozen [("page", .str "P"), ("hop", .int 2), ("try", .int 3)] := by
  intro b
  obtain ⟨hcontext, hloggers, -, -⟩ := run_carries {} rebound
  have hcarries (i : Nat) (g : Logger) (hg : b.loggers[i]? = some g) :
      b.logging.Carries g (b.logging.contextOf g) := by
    obtain ⟨_, _, _, ⟨_, _, _, h⟩ | ⟨_, _, c, _, _, h⟩⟩ := hloggers i g hg
    · exact h.1.symm ▸ h
    · exact h.1.symm ▸ h
  exact ⟨(hcontext _).2 rfl, _, _, rfl, hcarries 0 _ rfl, hcarries 1 _ rfl⟩

end LogBench

end PageAtlas
