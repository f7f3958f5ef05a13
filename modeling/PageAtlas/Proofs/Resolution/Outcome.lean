import PageAtlas.Resolution.Walk

/-!
# Outcomes of a resolution

What each part of a walk yields when its notes are left aside. A hop yields a
frame or the failure of one of four questions: which node is meant, whether it
may be addressed, what its query is, and whether its index can be written.
Scanning never fails.
-/

namespace PageAtlas

/-- All that is shown of a choice can be written: its index, and the position
counted from zero. -/
def Path.Pick.Writable : Pick → Prop
  | index n =>
      Text.Numeral.isOversized n = false ∧ Text.Numeral.isOversized (Hop.zeroBased n) = false
  | text _ => True

instance : DecidablePred Path.Pick.Writable
  | .index n =>
      inferInstanceAs (Decidable (Text.Numeral.isOversized n = false ∧
        Text.Numeral.isOversized (Path.Hop.zeroBased n) = false))
  | .text _ => inferInstanceAs (Decidable True)

namespace Outcome

variable {ε α β : Type}

theorem map_eq_ok_iff {x : Except ε α} {f : α → β} {b : β} :
    x.map f = .ok b ↔ ∃ a, x = .ok a ∧ f a = b := by
  cases x with
  | error e => simp [Except.map]
  | ok a => simp [Except.map]

theorem bind_eq_ok_iff {x : Except ε α} {f : α → Except ε β} {b : β} :
    x.bind f = .ok b ↔ ∃ a, x = .ok a ∧ f a = .ok b := by
  cases x with
  | error e => simp [Except.bind]
  | ok a => simp [Except.bind]

theorem bind_eq_error_iff {x : Except ε α} {f : α → Except ε β} {e : ε} :
    x.bind f = .error e ↔ x = .error e ∨ ∃ a, x = .ok a ∧ f a = .error e := by
  cases x with
  | error e' => simp [Except.bind]
  | ok a => simp [Except.bind]

theorem eq_ok_of_toOption {x : Except ε α} {a : α} (h : x.toOption = some a) : x = .ok a := by
  cases x with
  | error e => cases h
  | ok b =>
      cases h
      rfl

end Outcome

namespace Run

variable {α β : Type}

@[simp] theorem result_log (e : Event) : (log e).result = .ok () := rfl

@[simp] theorem result_called (c : Called α) : (called c).result = .ok c.value := rfl

@[simp] theorem result_ofExcept (r : Except Failure α) : (ofExcept r).result = r := rfl

@[simp] theorem result_fail (e : Failure) : (fail e : Run α).result = .error e := rfl

theorem result_bind (x : Run α) (f : α → Run β) :
    (x >>= f).result = x.result.bind fun a => (f a).result := by
  change (Run.bind x f).result = _
  rw [Run.bind]
  cases x.result <;> rfl

theorem result_bind_of_ok {x : Run α} {f : α → Run β} {a : α} (h : x.result = .ok a) :
    (x >>= f).result = (f a).result := by
  rw [result_bind, h]
  rfl

end Run

namespace TextMatch

variable {L : Type} (d : Driver L)

/-- The locator of the first element that contains a text, as a combined query,
as the element found by a scan, or as a condition on the collection. -/
def chosen (combine : Bool) (collection : L) (wanted : String) : L :=
  match combined? d combine collection wanted with
  | some query => d.first query.value
  | none =>
      match (d.scan collection).value.find? fun e => accepts wanted e.fetch.value with
      | some e => e.locator
      | none => d.first (d.withText collection wanted).value

theorem scan_result (collection : L) (wanted : String) (scanned : Nat) (es : List (Candidate L)) :
    (scan d collection wanted scanned es).result =
      .ok (match es.find? fun e => accepts wanted e.fetch.value with
        | some e => e.locator
        | none => d.first (d.withText collection wanted).value) := by
  induction es generalizing scanned with
  | nil => rfl
  | cons e es ih =>
      rw [scan, Run.result_bind_of_ok (Run.result_called e.fetch), List.find?_cons]
      cases h : accepts wanted e.fetch.value with
      | true => rfl
      | false => simpa using ih (scanned + 1)

theorem find_result (combine : Bool) (collection : L) (wanted : String) :
    (find d combine collection wanted).result = .ok (chosen d combine collection wanted) := by
  rw [find, chosen]
  cases combined? d combine collection wanted with
  | some query => rfl
  | none =>
      rw [Run.result_bind_of_ok (Run.result_called (d.scan collection))]
      exact scan_result d collection wanted 0 (d.scan collection).value

end TextMatch

namespace Walk

variable {ν L : Type} (g : Graph ν) (d : Driver L) (o : Options)

/-- The locator under which the next hop is looked for. -/
def scopeLocator (f : Frame ν L) : L := f.locator.getD d.root.value

def taken (collection : L) : Path.Pick → L
  | .index n => d.elementAt collection (Path.Hop.zeroBased n)
  | .text wanted => TextMatch.chosen d o.combine collection wanted

def matchesOf (f : Frame ν L) (q : Query) (multiple : Bool) : L :=
  (d.locate (scopeLocator d f) q multiple).value

theorem scope_result (f : Frame ν L) : (scope d f).result = .ok (scopeLocator d f) := by
  rw [scope, scopeLocator]
  cases f.locator <;> rfl

theorem locate_result (f : Frame ν L) (n : Node ν) (multiple : Bool) :
    (locate g d f n multiple).result = (g.query n).map (matchesOf d f · multiple) := by
  rw [locate, Run.result_bind_of_ok (scope_result d f), Run.result_bind]
  simp only [Run.result_ofExcept]
  cases g.query n <;> rfl

theorem write_result (i : Int) :
    (write i).result =
      if Text.Numeral.isOversized i = true then .error .unwritableIndex else .ok () := by
  rw [write]
  split <;> rfl

theorem pick_result (name : String) (collection : L) (p : Path.Pick) :
    (pick d o name collection p).result =
      if p.Writable then .ok (taken d o collection p) else .error .unwritableIndex := by
  cases p with
  | index n =>
      rw [pick, Run.result_bind, write_result]
      by_cases hindex : Text.Numeral.isOversized n = true
      · rw [if_pos hindex, if_neg fun h => Bool.noConfusion (hindex.symm.trans h.1)]
        rfl
      · rw [if_neg hindex]
        change (Run.log _ >>= _).result = _
        rw [Run.result_bind_of_ok (Run.result_log _), Run.result_bind, write_result]
        by_cases hposition : Text.Numeral.isOversized (Path.Hop.zeroBased n) = true
        · rw [if_pos hposition, if_neg fun h => Bool.noConfusion (hposition.symm.trans h.2)]
          rfl
        · rw [if_neg hposition, if_pos ⟨by simpa using hindex, by simpa using hposition⟩]
          rfl
  | text wanted =>
      have hwritable : (Path.Pick.text wanted).Writable := trivial
      rw [pick, Run.result_bind_of_ok (Run.result_log _), if_pos hwritable]
      exact TextMatch.find_result d o.combine collection wanted

theorem plain_result (f : Frame ν L) (n : Node ν) :
    (plain g d o f n).result =
      if g.hasSelector n = false then .ok { f with node := n }
      else if f.multiple = true ∧ g.isCollection n = false ∧ o.strict = true then
        .error (.ambiguousScope (g.aliasOf n) (g.aliasOf f.node))
      else (g.query n).map fun q =>
        ⟨some (matchesOf d f q (g.isCollection n || f.multiple)), n,
          g.isCollection n || f.multiple⟩ := by
  rw [plain]
  cases hs : g.hasSelector n with
  | false => rfl
  | true =>
      by_cases hm : f.multiple = true ∧ g.isCollection n = false ∧ o.strict = true
      · simp [hm]
      · have hm' : (f.multiple && !g.isCollection n && o.strict) = false := by
          cases hf : f.multiple <;> cases hc : g.isCollection n <;> simp_all
        rw [if_neg hm]
        simp only [hm', Bool.not_true, Bool.false_eq_true, Bool.true_eq_false, if_false]
        rw [Run.result_bind, locate_result]
        cases g.query n <;> rfl

theorem picked_result (f : Frame ν L) (n : Node ν) (name : String) (p : Path.Pick) :
    (picked g d o f n name p).result =
      if g.isCollection n = false then .error (.notACollection name)
      else (g.query n).bind fun q =>
        if p.Writable then .ok ⟨some (taken d o (matchesOf d f q true) p), n, false⟩
        else .error .unwritableIndex := by
  rw [picked]
  cases hc : g.isCollection n with
  | false => rfl
  | true =>
      simp only [Bool.not_true, Bool.false_eq_true, Bool.true_eq_false, if_false]
      rw [Run.result_bind, locate_result]
      cases g.query n with
      | error e => rfl
      | ok q =>
          change (pick d o name (matchesOf d f q true) p >>= _).result = _
          rw [Run.result_bind, pick_result]
          split <;> rfl

theorem step_result (f : Frame ν L) (hop : Path.Hop) :
    (step g d o f hop).result = (g.lookup f.node hop.name).bind fun n =>
      match hop with
      | .plain _ => (plain g d o f n).result
      | .picked name p => (picked g d o f n name p).result := by
  rw [step, Run.result_bind]
  cases hop <;> rfl

theorem hops_cons_result (f : Frame ν L) (h : Path.Hop) (hs : List Path.Hop) :
    (hops g d o f (h :: hs)).result =
      (step g d o f h).result.bind fun f' => (hops g d o f' hs).result := by
  rw [hops, Run.result_bind]

end Walk

theorem resolve_result {ν L : Type} (g : Graph ν) (d : Driver L) (o : Options) (root : ν)
    (hs : List Path.Hop) :
    (resolve g d o root hs).result =
      (Walk.hops g d o (Walk.start root) hs).result.bind fun f =>
        if hs.length = 0 then .error .noHops else .ok f.locator := by
  rw [resolve, Run.result_bind]
  congr 1
  funext f
  rw [Walk.finish]
  split
  · rfl
  · rfl

theorem resolve_eq_ok_iff {ν L : Type} {g : Graph ν} {d : Driver L} {o : Options} {root : ν}
    {hs : List Path.Hop} {l : Option L} :
    (resolve g d o root hs).result = .ok l ↔
      hs ≠ [] ∧ ∃ f, (Walk.hops g d o (Walk.start root) hs).result = .ok f ∧ f.locator = l := by
  rw [resolve_result, Outcome.bind_eq_ok_iff]
  cases hs with
  | nil => simp
  | cons hop hs => simp

theorem resolve_result_of_ne_nil {ν L : Type} {g : Graph ν} {d : Driver L} {o : Options}
    {root : ν} {hs : List Path.Hop} (hne : hs ≠ []) :
    (resolve g d o root hs).result =
      (Walk.hops g d o (Walk.start root) hs).result.map Frame.locator := by
  have hcount : hs.length ≠ 0 := fun h0 => hne (List.length_eq_zero_iff.1 h0)
  rw [resolve_result]
  simp only [if_neg hcount]
  rfl

theorem resolve_eq_error_iff {ν L : Type} {g : Graph ν} {d : Driver L} {o : Options} {root : ν}
    {hs : List Path.Hop} {e : Failure} (hne : hs ≠ []) :
    (resolve g d o root hs).result = .error e ↔
      (Walk.hops g d o (Walk.start root) hs).result = .error e := by
  rw [resolve_result_of_ne_nil hne]
  cases (Walk.hops g d o (Walk.start root) hs).result <;> simp [Except.map]

end PageAtlas
