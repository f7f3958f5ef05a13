import PageAtlas.Proofs.Resolution.Step

/-!
# The notes of a walk

A walk visits its hops up to the first that fails. Its notes are those of the
hops that it visits, one after another, and each of them looks up one alias.
-/

namespace PageAtlas

open PageAtlas.Path

namespace Run

variable {α β : Type} {x : Run α} {f : α → Run β}

theorem bind_of_ok {a : α} (h : x.result = .ok a) :
    x >>= f = ⟨(f a).result, x.notes ++ (f a).notes⟩ := by
  change Run.bind x f = _
  rw [Run.bind, h]

theorem bind_of_error {e : Failure} (h : x.result = .error e) :
    x >>= f = ⟨.error e, x.notes⟩ := by
  change Run.bind x f = _
  rw [Run.bind, h]

/-- What follows matters only for the value that a run yields. -/
theorem bind_congr_of_ok {k : α → Run β} (h : ∀ a, x.result = .ok a → f a = k a) :
    x >>= f = x >>= k := by
  cases hx : x.result with
  | error e => rw [bind_of_error hx, bind_of_error hx]
  | ok a => rw [bind_of_ok hx, bind_of_ok hx, h a hx]

theorem bind_assoc {γ : Type} (x : Run α) (f : α → Run β) (k : β → Run γ) :
    x >>= f >>= k = x >>= fun a => f a >>= k := by
  cases hx : x.result with
  | error e =>
      have hxf : (x >>= f).result = .error e := by rw [bind_of_error hx]
      rw [bind_of_error hxf, bind_of_error hx, bind_of_error hx]
  | ok a =>
      have hxf : (x >>= f).result = (f a).result := by rw [bind_of_ok hx]
      cases hf : (f a).result with
      | error e =>
          rw [bind_of_error (hxf.trans hf), bind_of_ok hx, bind_of_ok hx, bind_of_error hf]
      | ok b =>
          rw [bind_of_ok (hxf.trans hf), bind_of_ok hx, bind_of_ok hx, bind_of_ok hf,
            List.append_assoc]

theorem bind_eq_self_of_error {k : α → Run α} {e : Failure} (h : x.result = .error e) :
    x >>= k = x := by
  rw [bind_of_error h, ← h]

theorem filterMap_notes_bind_of_ok {γ : Type} (p : Note → Option γ) {a : α} (h : x.result = .ok a) :
    (x >>= f).notes.filterMap p = x.notes.filterMap p ++ (f a).notes.filterMap p := by
  rw [bind_of_ok h]
  exact List.filterMap_append

theorem lookups_bind_of_ok {a : α} (h : x.result = .ok a) :
    (x >>= f).lookups = x.lookups ++ (f a).lookups :=
  filterMap_notes_bind_of_ok _ h

theorem lookups_bind_of_error {e : Failure} (h : x.result = .error e) :
    (x >>= f).lookups = x.lookups := by
  rw [bind_of_error h]
  rfl

theorem calls_bind_of_ok {a : α} (h : x.result = .ok a) :
    (x >>= f).calls = x.calls ++ (f a).calls :=
  filterMap_notes_bind_of_ok _ h

theorem calls_bind_of_error {e : Failure} (h : x.result = .error e) :
    (x >>= f).calls = x.calls := by
  rw [bind_of_error h]
  rfl

@[simp] theorem calls_pure (a : α) : (pure a : Run α).calls = [] := rfl

@[simp] theorem calls_log (e : Event) : (log e).calls = [] := rfl

@[simp] theorem calls_called (c : Called α) : (called c).calls = c.calls := by
  rw [calls, callsIn, called, List.filterMap_map]
  exact List.filterMap_some

/-! ## Runs that leave notes of one kind -/

def Only (P : Note → Prop) (x : Run α) : Prop := ∀ n ∈ x.notes, P n

variable {P : Note → Prop}

theorem only_of_notes_eq_nil (h : x.notes = []) : x.Only P := by
  intro n hn
  rw [h] at hn
  cases hn

theorem only_log {e : Event} (h : P (.event e)) : (log e).Only P := by
  intro n hn
  rw [List.mem_singleton.1 hn]
  exact h

theorem only_called {c : Called α} (h : ∀ call ∈ c.calls, P (.call call)) : (called c).Only P := by
  intro n hn
  obtain ⟨call, hcall, rfl⟩ := List.mem_map.1 hn
  exact h call hcall

theorem Only.bind (hx : x.Only P) (hf : ∀ a, (f a).Only P) : (x >>= f).Only P := by
  intro n hn
  cases h : x.result with
  | error e =>
      rw [bind_of_error h] at hn
      exact hx n hn
  | ok a =>
      rw [bind_of_ok h] at hn
      exact (List.mem_append.1 hn).elim (hx n) (hf a n)

theorem Only.lookups_eq_nil (h : x.Only fun n => ∀ name, n ≠ .lookup name) : x.lookups = [] := by
  rw [lookups, List.filterMap_eq_nil_iff]
  intro n hn
  cases n with
  | lookup name => exact absurd rfl (h _ hn name)
  | event e => rfl
  | call c => rfl

end Run

/-- What locating notes is of the kind. -/
structure Driver.Notes {L : Type} (d : Driver L) (P : Note → Prop) : Prop where
  event : ∀ e, P (.event e)
  root : ∀ c ∈ d.root.calls, P (.call c)
  locate : ∀ l q multiple, ∀ c ∈ (d.locate l q multiple).calls, P (.call c)

namespace TextMatch

variable {L : Type} (d : Driver L) {P : Note → Prop}

theorem only_scan (hevent : ∀ e, P (.event e)) (hcall : ∀ c, P (.call c)) (collection : L)
    (wanted : String) (scanned : Nat) (es : List (Candidate L)) :
    (scan d collection wanted scanned es).Only P := by
  induction es generalizing scanned with
  | nil =>
      refine (Run.only_log (hevent _)).bind fun _ => ?_
      exact (Run.only_called fun c _ => hcall c).bind fun _ => Run.only_of_notes_eq_nil rfl
  | cons e es ih =>
      refine (Run.only_called fun c _ => hcall c).bind fun fetched => ?_
      split
      · exact (Run.only_log (hevent _)).bind fun _ => Run.only_of_notes_eq_nil rfl
      · exact ih (scanned + 1)

theorem only_find (hevent : ∀ e, P (.event e)) (hcall : ∀ c, P (.call c)) (combine : Bool)
    (collection : L) (wanted : String) : (find d combine collection wanted).Only P := by
  rw [find]
  split
  · refine (Run.only_called fun c _ => hcall c).bind fun _ => ?_
    exact (Run.only_log (hevent _)).bind fun _ => Run.only_of_notes_eq_nil rfl
  · refine (Run.only_called fun c _ => hcall c).bind fun es => ?_
    exact only_scan d hevent hcall collection wanted 0 es

end TextMatch

namespace Walk

variable {ν L : Type} {g : Graph ν} {d : Driver L} {o : Options} {P : Note → Prop}

theorem only_locate (hd : d.Notes P) (f : Frame ν L) (n : Node ν) (multiple : Bool) :
    (locate g d f n multiple).Only P := by
  have hscope : (scope d f).Only P := by
    rw [scope]
    cases f.locator with
    | some l => exact Run.only_of_notes_eq_nil rfl
    | none => exact Run.only_called hd.root
  refine hscope.bind fun under => ?_
  refine (Run.only_of_notes_eq_nil rfl).bind fun q => ?_
  exact Run.only_called (hd.locate under q multiple)

theorem only_plain (hd : d.Notes P) (f : Frame ν L) (n : Node ν) : (plain g d o f n).Only P := by
  rw [plain]
  split
  · exact (Run.only_log (hd.event _)).bind fun _ => Run.only_of_notes_eq_nil rfl
  · split
    · exact Run.only_of_notes_eq_nil rfl
    · refine (only_locate hd f n _).bind fun l => ?_
      exact (Run.only_log (hd.event _)).bind fun _ => Run.only_of_notes_eq_nil rfl

theorem only_picked (hd : d.Notes P) {name : String} {p : Pick}
    (hpick : ∀ collection, (pick d o name collection p).Only P) (f : Frame ν L) (n : Node ν) :
    (picked g d o f n name p).Only P := by
  rw [picked]
  split
  · exact Run.only_of_notes_eq_nil rfl
  · refine (only_locate hd f n true).bind fun collection => ?_
    exact (hpick collection).bind fun _ => Run.only_of_notes_eq_nil rfl

theorem only_write (i : Int) : (write i).Only P := by
  rw [write]
  split
  · exact Run.only_of_notes_eq_nil rfl
  · exact Run.only_of_notes_eq_nil rfl

theorem only_pick_index (hevent : ∀ e, P (.event e)) (name : String) (i : Int) (collection : L) :
    (pick d o name collection (.index i)).Only P :=
  (only_write i).bind fun _ => (Run.only_log (hevent _)).bind fun _ =>
    (only_write _).bind fun _ => Run.only_of_notes_eq_nil rfl

/-- A hop looks up its own alias, and nothing else. -/
theorem lookups_step (f : Frame ν L) (hop : Hop) :
    (step g d o f hop).lookups = [hop.name] := by
  -- No other part of a hop notes a lookup.
  have hevent : ∀ e, ∀ name, Note.event e ≠ .lookup name := fun e name h => by cases h
  have hcall : ∀ c, ∀ name, Note.call c ≠ .lookup name := fun c name h => by cases h
  have hd : d.Notes fun n => ∀ name, n ≠ .lookup name :=
    ⟨hevent, fun c _ => hcall c, fun _ _ _ c _ => hcall c⟩
  have hpick : ∀ name p collection,
      (pick d o name collection p).Only fun n => ∀ name, n ≠ .lookup name := by
    intro name p collection
    cases p with
    | index i => exact only_pick_index hevent name i collection
    | text wanted =>
        refine (Run.only_log (hevent _)).bind fun _ => ?_
        exact TextMatch.only_find d hevent hcall o.combine collection wanted
  rw [step]
  cases hn : g.lookup f.node hop.name with
  | error e => exact Run.lookups_bind_of_error (x := Walk.lookup g f.node hop.name) hn
  | ok n =>
      rw [Run.lookups_bind_of_ok (x := Walk.lookup g f.node hop.name) hn]
      cases hop with
      | plain name => exact congrArg ([name] ++ ·) (only_plain hd f n).lookups_eq_nil
      | picked name p =>
          exact congrArg ([name] ++ ·) (only_picked hd (hpick name p) f n).lookups_eq_nil

/-! ## The hops that a walk visits -/

theorem hops_append (f : Frame ν L) (hs later : List Hop) :
    hops g d o f (hs ++ later) = hops g d o f hs >>= fun f' => hops g d o f' later := by
  induction hs generalizing f with
  | nil => rfl
  | cons hop hs ih =>
      rw [List.cons_append, hops, hops, Run.bind_assoc]
      exact congrArg (step g d o f hop >>= ·) (funext ih)

theorem hops_append_eq_ok_iff {f f' : Frame ν L} {hs later : List Hop} :
    (hops g d o f (hs ++ later)).result = .ok f' ↔
      ∃ f₁, (hops g d o f hs).result = .ok f₁ ∧ (hops g d o f₁ later).result = .ok f' := by
  rw [hops_append, Run.result_bind, Outcome.bind_eq_ok_iff]

/-- The hops up to the first that fails, each with the frame that it starts from. -/
def visits (g : Graph ν) (d : Driver L) (o : Options) (f : Frame ν L) :
    List Hop → List (Frame ν L × Hop)
  | [] => []
  | hop :: hs => (f, hop) ::
      match (step g d o f hop).result with
      | .ok f' => visits g d o f' hs
      | .error _ => []

theorem visits_cons_of_ok {f f' : Frame ν L} {hop : Hop} (h : (step g d o f hop).result = .ok f')
    (hs : List Hop) : visits g d o f (hop :: hs) = (f, hop) :: visits g d o f' hs := by
  rw [visits, h]

theorem visits_cons_of_error {f : Frame ν L} {hop : Hop} {e : Failure}
    (h : (step g d o f hop).result = .error e) (hs : List Hop) :
    visits g d o f (hop :: hs) = [(f, hop)] := by
  rw [visits, h]

theorem notes_hops (f : Frame ν L) (hs : List Hop) :
    (hops g d o f hs).notes =
      (visits g d o f hs).flatMap fun v => (step g d o v.1 v.2).notes := by
  induction hs generalizing f with
  | nil => rfl
  | cons hop hs ih =>
      rw [hops]
      cases h : (step g d o f hop).result with
      | error e =>
          rw [Run.bind_of_error h, visits_cons_of_error h]
          simp
      | ok f' =>
          rw [Run.bind_of_ok h, visits_cons_of_ok h, List.flatMap_cons, ← ih f']

/-- One lookup for each hop that is visited. -/
theorem lookups_hops (f : Frame ν L) (hs : List Hop) :
    (hops g d o f hs).lookups = (visits g d o f hs).map fun v => v.2.name := by
  rw [Run.lookups, notes_hops, List.filterMap_flatMap, List.map_eq_flatMap]
  congr 1
  funext v
  exact lookups_step v.1 v.2

/-- A walk that fails visits the hops before the failing one, which it passes,
and the failing one. -/
theorem exists_of_hops_eq_error {f : Frame ν L} {hs : List Hop} {e : Failure}
    (h : (hops g d o f hs).result = .error e) :
    ∃ before hop after f', hs = before ++ hop :: after ∧
      (hops g d o f before).result = .ok f' ∧ Fails g o f' hop e ∧
      (visits g d o f hs).map Prod.snd = before ++ [hop] := by
  induction hs generalizing f with
  | nil => cases h
  | cons hop hs ih =>
      rcases hops_cons_eq_error_iff.1 h with hfails | ⟨f₁, hnext, h⟩
      · refine ⟨[], hop, hs, f, rfl, rfl, hfails, ?_⟩
        rw [visits_cons_of_error hfails.result]
        rfl
      · obtain ⟨before, hop', after, f', rfl, hhops, hfails, hvisits⟩ := ih h
        refine ⟨hop :: before, hop', after, f', rfl, ?_, hfails, ?_⟩
        · exact hops_cons_eq_ok_iff.2 ⟨f₁, hnext, hhops⟩
        · rw [visits_cons_of_ok hnext.result, List.map_cons, hvisits]
          rfl

end Walk

end PageAtlas
