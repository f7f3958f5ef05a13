import PageAtlas.Proofs.Resolution.Outcome

/-!
# Walks over related drivers

A walk composes locators and never looks into them. If two drivers keep a
relation between their locators, walks along the same hops fail alike or end
on the same node, with the same cardinality and with related locators.
-/

namespace PageAtlas

/-- Two outcomes are the same failure, or two related values. -/
inductive Alike {α β : Type} (R : α → β → Prop) : Except Failure α → Except Failure β → Prop where
  | error (e : Failure) : Alike R (.error e) (.error e)
  | ok {a : α} {b : β} (h : R a b) : Alike R (.ok a) (.ok b)

namespace Alike

variable {α β γ δ : Type} {R : α → β → Prop} {S : γ → δ → Prop}

theorem bind {x : Except Failure α} {y : Except Failure β} (h : Alike R x y)
    {f : α → Except Failure γ} {k : β → Except Failure δ}
    (hk : ∀ a b, R a b → Alike S (f a) (k b)) : Alike S (x.bind f) (y.bind k) := by
  cases h with
  | error e => exact .error e
  | ok h => exact hk _ _ h

theorem error_iff {x : Except Failure α} {y : Except Failure β} (h : Alike R x y) (e : Failure) :
    x = .error e ↔ y = .error e := by
  cases h with
  | error e' => simp
  | ok h => simp

/-- Two outcomes that are like a third one fail with it or succeed with it. -/
theorem both {x : Except Failure α} {y : Except Failure β} {z : Except Failure γ}
    {T : α → γ → Prop} (hy : Alike R x y) (hz : Alike T x z) :
    (∃ e, x = .error e ∧ y = .error e ∧ z = .error e) ∨
      ∃ a b c, x = .ok a ∧ y = .ok b ∧ z = .ok c ∧ R a b ∧ T a c := by
  cases hy with
  | error e =>
      cases hz with
      | error => exact Or.inl ⟨e, rfl, rfl, rfl⟩
  | ok hab =>
      cases hz with
      | ok hac => exact Or.inr ⟨_, _, _, rfl, rfl, rfl, hab, hac⟩

theorem related {a : α} {b : β} (h : Alike R (.ok a) (.ok b)) : R a b := by
  cases h with
  | ok h => exact h

theorem exists_right {x : Except Failure α} {b : β} (h : Alike R x (.ok b)) :
    ∃ a, x = .ok a ∧ R a b := by
  cases h with
  | ok h => exact ⟨_, rfl, h⟩

/-- The same question asked of both sides. -/
theorem ask {q : Except Failure γ} {f : γ → Except Failure α} {k : γ → Except Failure β}
    (h : ∀ c, q = .ok c → Alike R (f c) (k c)) : Alike R (q.bind f) (q.bind k) := by
  cases q with
  | error e => exact .error e
  | ok c => exact h c rfl

theorem map {q : Except Failure γ} {f : γ → α} {k : γ → β} (h : ∀ c, q = .ok c → R (f c) (k c)) :
    Alike R (q.map f) (q.map k) := by
  cases q with
  | error e => exact .error e
  | ok c => exact .ok (h c rfl)

end Alike

variable {ν L M : Type}

/-- Locating, and picking by position, keep a relation between locators. -/
structure Driver.Related (R : L → M → Prop) (d : Driver L) (d' : Driver M) : Prop where
  root : R d.root.value d'.root.value
  locate : ∀ {l m}, R l m → ∀ q multiple,
    R (d.locate l q multiple).value (d'.locate m q multiple).value
  elementAt : ∀ {l m}, R l m → ∀ i, R (d.elementAt l i) (d'.elementAt m i)

structure Frame.Related (R : L → M → Prop) (f : Frame ν L) (f' : Frame ν M) : Prop where
  locator : Option.Rel R f.locator f'.locator
  node : f.node = f'.node
  multiple : f.multiple = f'.multiple

namespace Walk

variable {R : L → M → Prop} {d : Driver L} {d' : Driver M} (g : Graph ν) (o : Options)

theorem start_related (root : ν) :
    Frame.Related R (start root : Frame ν L) (start root : Frame ν M) :=
  ⟨.none, rfl, rfl⟩

theorem matchesOf_related (hd : Driver.Related R d d') {f : Frame ν L} {f' : Frame ν M}
    (hf : Frame.Related R f f') (q : Query) (multiple : Bool) :
    R (matchesOf d f q multiple) (matchesOf d' f' q multiple) := by
  apply hd.locate
  obtain ⟨l, n, b⟩ := f
  obtain ⟨m, n', b'⟩ := f'
  cases hf.locator with
  | none => exact hd.root
  | some h => exact h

theorem plain_related (hd : Driver.Related R d d') {f : Frame ν L} {f' : Frame ν M}
    (hf : Frame.Related R f f') (n : Node ν) :
    Alike (Frame.Related R) (plain g d o f n).result (plain g d' o f' n).result := by
  rw [plain_result, plain_result, ← hf.node, ← hf.multiple]
  split
  · exact .ok ⟨hf.locator, rfl, rfl⟩
  · split
    · exact .error _
    · refine Alike.map fun q _ => ⟨.some ?_, rfl, rfl⟩
      exact matchesOf_related hd hf q _

theorem picked_related (hd : Driver.Related R d d') {f : Frame ν L} {f' : Frame ν M}
    (hf : Frame.Related R f f') (n : Node ν) (name : String) (p : Path.Pick)
    (htext : ∀ wanted q, p = .text wanted → g.isCollection n = true → g.query n = .ok q →
      R (TextMatch.chosen d o.combine (matchesOf d f q true) wanted)
        (TextMatch.chosen d' o.combine (matchesOf d' f' q true) wanted)) :
    Alike (Frame.Related R) (picked g d o f n name p).result
      (picked g d' o f' n name p).result := by
  rw [picked_result, picked_result]
  split
  · exact .error _
  · next hc =>
    refine Alike.ask fun q hq => ?_
    split
    · refine .ok ⟨.some ?_, rfl, rfl⟩
      cases p with
      | index i => exact hd.elementAt (matchesOf_related hd hf q true) _
      | text wanted => exact htext wanted q rfl (by simpa using hc) hq
    · exact .error _

theorem step_related (hd : Driver.Related R d d') {f : Frame ν L} {f' : Frame ν M}
    (hf : Frame.Related R f f') (hop : Path.Hop)
    (htext : ∀ name wanted n q, hop = .picked name (.text wanted) →
      g.lookup f.node name = .ok n → g.isCollection n = true → g.query n = .ok q →
        R (TextMatch.chosen d o.combine (matchesOf d f q true) wanted)
          (TextMatch.chosen d' o.combine (matchesOf d' f' q true) wanted)) :
    Alike (Frame.Related R) (step g d o f hop).result (step g d' o f' hop).result := by
  rw [step_result, step_result, ← hf.node]
  cases hn : g.lookup f.node hop.name with
  | error e => exact .error e
  | ok n =>
      cases hop with
      | plain name => exact plain_related g o hd hf n
      | picked name p =>
          refine picked_related g o hd hf n name p fun wanted q hp hc hq => ?_
          exact htext name wanted n q (by rw [hp]) hn hc hq

/-- The run lemma, when every match by text keeps the relation. -/
theorem hops_related (hd : Driver.Related R d d')
    (htext : ∀ l m wanted, R l m →
      R (TextMatch.chosen d o.combine l wanted) (TextMatch.chosen d' o.combine m wanted))
    {f : Frame ν L} {f' : Frame ν M} (hf : Frame.Related R f f') (hs : List Path.Hop) :
    Alike (Frame.Related R) (hops g d o f hs).result (hops g d' o f' hs).result := by
  induction hs generalizing f f' with
  | nil => exact .ok hf
  | cons h hs ih =>
      rw [hops_cons_result, hops_cons_result]
      have hstep := step_related g o hd hf h fun _ wanted _ q _ _ _ _ =>
        htext _ _ wanted (matchesOf_related hd hf q true)
      exact hstep.bind fun f₁ f₁' hf₁ => ih hf₁

end Walk

theorem resolve_related {R : L → M → Prop} {d : Driver L} {d' : Driver M} (g : Graph ν)
    (o : Options) (root : ν) (hs : List Path.Hop)
    (h : Alike (Frame.Related R) (Walk.hops g d o (Walk.start root) hs).result
      (Walk.hops g d' o (Walk.start root) hs).result) :
    Alike (Option.Rel R) (resolve g d o root hs).result (resolve g d' o root hs).result := by
  rw [resolve_result, resolve_result]
  refine h.bind fun f f' hf => ?_
  split
  · exact .error _
  · exact .ok hf.locator

end PageAtlas
