import PageAtlas.Proofs.Resolution.Ambiguous
import PageAtlas.Proofs.Resolution.FirstFailure

/-!
# Paths without a locator

A walk has no locator as long as it meets groupings only: the first hop onto anything
else makes one, and no later hop takes it away. A path that can be read is resolved as
its hops, so it has no locator under the same condition.
-/

namespace PageAtlas

open PageAtlas.Path

variable {ν L : Type} {g : Graph ν} {d : Driver L} {o : Options}

/-- Every hop is plain and leads to a component without a selector. -/
def Graph.OnlyGroupings (g : Graph ν) (root : ν) (hs : List Hop) : Prop :=
  ∃ keys n, hs = keys.map .plain ∧ g.Groupings (.component root) keys n

namespace Walk

theorem Next.grouping_of_locator_eq_none {f f' : Frame ν L} {hop : Hop}
    (h : Next g d o f hop f') (hf' : f'.locator = none) :
    f.locator = none ∧ ∃ key, hop = .plain key ∧ g.lookup f.node key = .ok f'.node ∧
      g.hasSelector f'.node = false := by
  cases h with
  | grouping hlookup hselector => exact ⟨hf', _, rfl, hlookup, hselector⟩
  | matched => cases hf'
  | picked => cases hf'

theorem groupings_of_locator_eq_none {f f' : Frame ν L} {hs : List Hop}
    (h : (hops g d o f hs).result = .ok f') (hf' : f'.locator = none) :
    f.locator = none ∧ ∃ keys, hs = keys.map .plain ∧ g.Groupings f.node keys f'.node := by
  induction hs generalizing f with
  | nil =>
      cases h
      exact ⟨hf', [], rfl, .nil⟩
  | cons hop hs ih =>
      obtain ⟨f₁, hnext, hrest⟩ := hops_cons_eq_ok_iff.1 h
      obtain ⟨hf₁, keys, rfl, hgroupings⟩ := ih hrest
      obtain ⟨hf, key, rfl, hlookup, hselector⟩ := hnext.grouping_of_locator_eq_none hf₁
      exact ⟨hf, key :: keys, rfl, .cons hlookup hselector hgroupings⟩

end Walk

section Resolve

variable {root : ν} {hs : List Hop} {path : String} {l : Option L}

theorem resolve_eq_none_iff :
    (resolve g d o root hs).result = .ok none ↔ hs ≠ [] ∧ g.OnlyGroupings root hs := by
  rw [resolve_eq_ok_iff]
  refine and_congr_right fun _ => ?_
  constructor
  · rintro ⟨f, hhops, hlocator⟩
    obtain ⟨-, keys, hkeys, hgroupings⟩ := Walk.groupings_of_locator_eq_none hhops hlocator
    exact ⟨keys, f.node, hkeys, hgroupings⟩
  · rintro ⟨keys, n, rfl, hgroupings⟩
    exact ⟨_, Walk.hops_groupings (f := Walk.start root) hgroupings, rfl⟩

theorem Path.ne_nil_of_parse (h : Path.parse path = .ok hs) : hs ≠ [] := by
  rintro rfl
  have hlength : (Path.tokens path).length = 0 := (Path.Hop.parseAll_eq_ok_iff.1 h).length_eq
  exact Path.tokens_ne_nil path (List.length_eq_zero_iff.1 hlength)

theorem resolvePath_eq_ok_iff :
    (resolvePath g d o root path).result = .ok l ↔
      ∃ hs, Path.parse path = .ok hs ∧ (resolve g d o root hs).result = .ok l := by
  cases h : Path.parse path with
  | ok hs => simp [resolvePath_of_parse h]
  | error e =>
      obtain ⟨hs, hreads⟩ := Path.parse_eq_error_iff.1 h
      have hwalk := Walk.tokens_of_readsUpTo (g := g) (d := d) (o := o) hreads (Walk.start root)
      have hfails : ∃ e', (resolvePath g d o root path).result = .error e' := by
        cases hhops : (Walk.hops g d o (Walk.start root) hs).result with
        | error e' =>
            rw [hhops] at hwalk
            exact ⟨e', by rw [resolvePath_of_tokens_eq_error hwalk]⟩
        | ok f =>
            rw [hhops] at hwalk
            exact ⟨e, by rw [resolvePath_of_tokens_eq_error hwalk]⟩
      obtain ⟨e', he'⟩ := hfails
      simp [he']

theorem resolvePath_eq_none_iff :
    (resolvePath g d o root path).result = .ok none ↔
      ∃ hs, Path.parse path = .ok hs ∧ g.OnlyGroupings root hs := by
  rw [resolvePath_eq_ok_iff]
  refine exists_congr fun hs => and_congr_right fun hparse => ?_
  rw [resolve_eq_none_iff]
  exact and_iff_right (Path.ne_nil_of_parse hparse)

end Resolve

end PageAtlas
