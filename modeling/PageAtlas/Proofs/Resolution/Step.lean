import PageAtlas.Proofs.Resolution.Outcome

/-!
# What one hop does

The frames that a hop can lead to, and the failures that it can end in, each with
the conditions under which it does. A walk takes such steps one after another.
-/

namespace PageAtlas

open PageAtlas.Path

namespace Walk

variable {ν L : Type}

inductive Next (g : Graph ν) (d : Driver L) (o : Options) (f : Frame ν L) :
    Hop → Frame ν L → Prop
  | grouping {name : String} {n : Node ν} (hlookup : g.lookup f.node name = .ok n)
      (hselector : g.hasSelector n = false) : Next g d o f (.plain name) { f with node := n }
  | matched {name : String} {n : Node ν} {q : Query} (hlookup : g.lookup f.node name = .ok n)
      (hselector : g.hasSelector n = true)
      (hscope : ¬ (f.multiple = true ∧ g.isCollection n = false ∧ o.strict = true))
      (hquery : g.query n = .ok q) :
      Next g d o f (.plain name)
        ⟨some (matchesOf d f q (g.isCollection n || f.multiple)), n, g.isCollection n || f.multiple⟩
  | picked {name : String} {p : Pick} {n : Node ν} {q : Query}
      (hlookup : g.lookup f.node name = .ok n) (hcollection : g.isCollection n = true)
      (hquery : g.query n = .ok q) (hwritable : p.Writable) :
      Next g d o f (.picked name p) ⟨some (taken d o (matchesOf d f q true) p), n, false⟩

inductive Fails (g : Graph ν) (o : Options) (f : Frame ν L) : Hop → Failure → Prop
  | lookup {hop : Hop} {e : Failure} (hlookup : g.lookup f.node hop.name = .error e) :
      Fails g o f hop e
  | scope {name : String} {n : Node ν} (hlookup : g.lookup f.node name = .ok n)
      (hselector : g.hasSelector n = true) (hmultiple : f.multiple = true)
      (hsingle : g.isCollection n = false) (hstrict : o.strict = true) :
      Fails g o f (.plain name) (.ambiguousScope (g.aliasOf n) (g.aliasOf f.node))
  | plain {name : String} {n : Node ν} {e : Failure} (hlookup : g.lookup f.node name = .ok n)
      (hselector : g.hasSelector n = true)
      (hscope : ¬ (f.multiple = true ∧ g.isCollection n = false ∧ o.strict = true))
      (hquery : g.query n = .error e) : Fails g o f (.plain name) e
  | single {name : String} {p : Pick} {n : Node ν} (hlookup : g.lookup f.node name = .ok n)
      (hsingle : g.isCollection n = false) : Fails g o f (.picked name p) (.notACollection name)
  | picked {name : String} {p : Pick} {n : Node ν} {e : Failure}
      (hlookup : g.lookup f.node name = .ok n) (hcollection : g.isCollection n = true)
      (hquery : g.query n = .error e) : Fails g o f (.picked name p) e
  | unwritable {name : String} {p : Pick} {n : Node ν} {q : Query}
      (hlookup : g.lookup f.node name = .ok n) (hcollection : g.isCollection n = true)
      (hquery : g.query n = .ok q) (hwritable : ¬ p.Writable) :
      Fails g o f (.picked name p) .unwritableIndex

variable {g : Graph ν} {d : Driver L} {o : Options}

theorem step_plain_result {f : Frame ν L} {n : Node ν} {name : String}
    (hlookup : g.lookup f.node name = .ok n) :
    (step g d o f (.plain name)).result = (plain g d o f n).result := by
  rw [step_result, Hop.name, hlookup]
  rfl

theorem step_picked_result {f : Frame ν L} {n : Node ν} {name : String} {p : Pick}
    (hlookup : g.lookup f.node name = .ok n) :
    (step g d o f (.picked name p)).result = (Walk.picked g d o f n name p).result := by
  rw [step_result, Hop.name, hlookup]
  rfl

theorem Next.result {f f' : Frame ν L} {hop : Hop} (h : Next g d o f hop f') :
    (step g d o f hop).result = .ok f' := by
  cases h with
  | grouping hlookup hselector =>
      rw [step_plain_result hlookup, plain_result, if_pos hselector]
  | matched hlookup hselector hscope hquery =>
      rw [step_plain_result hlookup, plain_result, if_neg (by simp [hselector]), if_neg hscope,
        hquery]
      rfl
  | picked hlookup hcollection hquery hwritable =>
      rw [step_picked_result hlookup, picked_result, if_neg (by simp [hcollection]), hquery]
      exact if_pos hwritable

theorem Fails.result {f : Frame ν L} {hop : Hop} {e : Failure} (h : Fails g o f hop e) :
    (step g d o f hop).result = .error e := by
  cases h with
  | lookup hlookup =>
      rw [step_result, hlookup]
      rfl
  | scope hlookup hselector hmultiple hsingle hstrict =>
      rw [step_plain_result hlookup, plain_result, if_neg (by simp [hselector]),
        if_pos ⟨hmultiple, hsingle, hstrict⟩]
  | plain hlookup hselector hscope hquery =>
      rw [step_plain_result hlookup, plain_result, if_neg (by simp [hselector]), if_neg hscope,
        hquery]
      rfl
  | single hlookup hsingle =>
      rw [step_picked_result hlookup, picked_result, if_pos hsingle]
  | picked hlookup hcollection hquery =>
      rw [step_picked_result hlookup, picked_result, if_neg (by simp [hcollection]), hquery]
      rfl
  | unwritable hlookup hcollection hquery hwritable =>
      rw [step_picked_result hlookup, picked_result, if_neg (by simp [hcollection]), hquery]
      exact if_neg hwritable

/-- A hop leads to a frame or fails, and in no other way than these. -/
theorem step_cases (f : Frame ν L) (hop : Hop) :
    (∃ f', Next g d o f hop f') ∨ ∃ e, Fails g o f hop e := by
  cases hlookup : g.lookup f.node hop.name with
  | error e => exact Or.inr ⟨e, .lookup hlookup⟩
  | ok n =>
      cases hop with
      | plain name =>
          cases hselector : g.hasSelector n with
          | false => exact Or.inl ⟨_, .grouping hlookup hselector⟩
          | true =>
              by_cases hscope : f.multiple = true ∧ g.isCollection n = false ∧ o.strict = true
              · obtain ⟨hmultiple, hsingle, hstrict⟩ := hscope
                exact Or.inr ⟨_, .scope hlookup hselector hmultiple hsingle hstrict⟩
              · cases hquery : g.query n with
                | error e => exact Or.inr ⟨e, .plain hlookup hselector hscope hquery⟩
                | ok q => exact Or.inl ⟨_, .matched hlookup hselector hscope hquery⟩
      | picked name p =>
          cases hcollection : g.isCollection n with
          | false => exact Or.inr ⟨_, .single hlookup hcollection⟩
          | true =>
              cases hquery : g.query n with
              | error e => exact Or.inr ⟨e, .picked hlookup hcollection hquery⟩
              | ok q =>
                  by_cases hwritable : p.Writable
                  · exact Or.inl ⟨_, .picked hlookup hcollection hquery hwritable⟩
                  · exact Or.inr ⟨_, .unwritable hlookup hcollection hquery hwritable⟩

theorem step_eq_ok_iff {f f' : Frame ν L} {hop : Hop} :
    (step g d o f hop).result = .ok f' ↔ Next g d o f hop f' := by
  constructor
  · intro h
    rcases step_cases (g := g) (d := d) (o := o) f hop with ⟨f₁, hnext⟩ | ⟨e, hfails⟩
    · have heq := h.symm.trans hnext.result
      cases heq
      exact hnext
    · have heq := h.symm.trans hfails.result
      cases heq
  · exact Next.result

theorem step_eq_error_iff {f : Frame ν L} {hop : Hop} {e : Failure} :
    (step g d o f hop).result = .error e ↔ Fails g o f hop e := by
  constructor
  · intro h
    rcases step_cases (g := g) (d := d) (o := o) f hop with ⟨f', hnext⟩ | ⟨e', hfails⟩
    · have heq := h.symm.trans hnext.result
      cases heq
    · have heq := h.symm.trans (hfails.result (d := d))
      cases heq
      exact hfails
  · exact Fails.result

theorem Next.lookup {f f' : Frame ν L} {hop : Hop} (h : Next g d o f hop f') :
    g.lookup f.node hop.name = .ok f'.node := by
  cases h with
  | grouping hlookup => exact hlookup
  | matched hlookup => exact hlookup
  | picked hlookup => exact hlookup

/-! ## Step after step -/

theorem hops_cons_eq_ok_iff {f f' : Frame ν L} {hop : Hop} {hs : List Hop} :
    (hops g d o f (hop :: hs)).result = .ok f' ↔
      ∃ f₁, Next g d o f hop f₁ ∧ (hops g d o f₁ hs).result = .ok f' := by
  rw [hops_cons_result, Outcome.bind_eq_ok_iff]
  exact exists_congr fun f₁ => and_congr_left' step_eq_ok_iff

theorem hops_cons_eq_error_iff {f : Frame ν L} {hop : Hop} {hs : List Hop} {e : Failure} :
    (hops g d o f (hop :: hs)).result = .error e ↔
      Fails g o f hop e ∨ ∃ f₁, Next g d o f hop f₁ ∧ (hops g d o f₁ hs).result = .error e := by
  rw [hops_cons_result, Outcome.bind_eq_error_iff, step_eq_error_iff]
  exact or_congr_right (exists_congr fun f₁ => and_congr_left' step_eq_ok_iff)

/-- What every hop preserves, a walk preserves. -/
theorem hops_induction {P : Frame ν L → Prop}
    (hstep : ∀ {f f' hop}, P f → Next g d o f hop f' → P f') {f f' : Frame ν L} {hs : List Hop}
    (hf : P f) (h : (hops g d o f hs).result = .ok f') : P f' := by
  induction hs generalizing f with
  | nil =>
      cases h
      exact hf
  | cons hop hs ih =>
      obtain ⟨f₁, hnext, hrest⟩ := hops_cons_eq_ok_iff.1 h
      exact ih (hstep hf hnext) hrest

end Walk

end PageAtlas
