import PageAtlas.Proofs.Path.Continued
import PageAtlas.Proofs.Path.RoundTrip
import PageAtlas.Proofs.Resolution.Cardinality
import PageAtlas.Proofs.Resolution.Notes

/-!
# The first failure decides

A path is read while it is followed; if all of it can be read, this is the same as
following its hops. A walk ends at the first hop that fails, or at the first token that cannot be
read. What comes behind it has no effect: neither on the failure, nor on what was
looked up, logged and called on the way.
-/

namespace PageAtlas

/-! ## Following a path token by token -/

section Tokens

variable {ν L : Type} {g : Graph ν} {d : Driver L} {o : Options}

theorem Walk.tokens_of_parseAll {ts : List String} {hs : List Path.Hop}
    (h : Path.Hop.parseAll ts = .ok hs) (f : Frame ν L) : tokens g d o f ts = hops g d o f hs := by
  have hall := Path.Hop.parseAll_eq_ok_iff.1 h
  clear h
  induction hall generalizing f with
  | nil => rfl
  | @cons t hop ts hs ht _ ih =>
      have hread : tokens g d o f (t :: ts) =
          (step g d o f hop >>= fun f' => tokens g d o f' ts) := by
        rw [tokens, ht]
        rfl
      rw [hread, hops]
      exact congrArg (step g d o f hop >>= ·) (funext ih)

theorem resolvePath_of_parse {path : String} {hs : List Path.Hop} (h : Path.parse path = .ok hs)
    (root : ν) : resolvePath g d o root path = resolve g d o root hs := by
  have hlength : (Path.tokens path).length = hs.length :=
    (Path.Hop.parseAll_eq_ok_iff.1 h).length_eq
  rw [resolvePath, resolve]
  rw [Walk.tokens_of_parseAll h, hlength]

end Tokens

/-! ## Up to the first token that cannot be read -/

open PageAtlas.Path

/-- The hops of a path before its first token that cannot be read, and why it
cannot. -/
def Path.ReadsUpTo (path : String) (hs : List Hop) (e : Failure) : Prop :=
  ∃ front token back, tokens path = front ++ token :: back ∧ Hop.parseAll front = .ok hs ∧
    Hop.parse token = .error e

namespace Path

theorem tokens_ne_nil (path : String) : tokens path ≠ [] := by
  rw [tokens, Ne, List.map_eq_nil_iff]
  exact cut_ne_nil path.toList

theorem Hop.parseAll_of_front {front : List String} {hs : List Hop} {token : String} {e : Failure}
    (hfront : parseAll front = .ok hs) (htoken : parse token = .error e) (back : List String) :
    parseAll (front ++ token :: back) = .error e := by
  have hall := parseAll_eq_ok_iff.1 hfront
  clear hfront
  induction hall with
  | nil => rw [List.nil_append, parseAll, htoken]
  | cons ht _ ih => rw [List.cons_append, parseAll, ht, ih]

theorem Hop.exists_of_parseAll_eq_error {ts : List String} {e : Failure}
    (h : parseAll ts = .error e) : ∃ front token back hs, ts = front ++ token :: back ∧
      parseAll front = .ok hs ∧ parse token = .error e := by
  induction ts with
  | nil => cases h
  | cons t ts ih =>
      rw [parseAll] at h
      cases ht : parse t with
      | error e' =>
          rw [ht] at h
          cases h
          exact ⟨[], t, ts, [], rfl, rfl, ht⟩
      | ok hop =>
          rw [ht] at h
          cases hts : parseAll ts with
          | ok rest =>
              rw [hts] at h
              cases h
          | error e' =>
              rw [hts] at h
              cases h
              obtain ⟨front, token, back, hs, rfl, hfront, htoken⟩ := ih hts
              refine ⟨t :: front, token, back, hop :: hs, rfl, ?_, htoken⟩
              rw [parseAll, ht, hfront]

theorem parse_eq_error_iff {path : String} {e : Failure} :
    parse path = .error e ↔ ∃ hs, ReadsUpTo path hs e := by
  constructor
  · intro h
    obtain ⟨front, token, back, hs, hpath⟩ := Hop.exists_of_parseAll_eq_error h
    exact ⟨hs, front, token, back, hpath⟩
  · rintro ⟨hs, front, token, back, hpath, hfront, htoken⟩
    rw [parse, hpath]
    exact Hop.parseAll_of_front hfront htoken back

end Path

variable {ν L : Type} {g : Graph ν} {d : Driver L} {o : Options}

namespace Walk

theorem tokens_append (f : Frame ν L) (ts later : List String) :
    tokens g d o f (ts ++ later) = tokens g d o f ts >>= fun f' => tokens g d o f' later := by
  induction ts generalizing f with
  | nil => rfl
  | cons t ts ih =>
      rw [List.cons_append, tokens, tokens, Run.bind_assoc]
      refine congrArg (Run.ofExcept (Hop.parse t) >>= ·) (funext fun hop => ?_)
      rw [Run.bind_assoc]
      exact congrArg (step g d o f hop >>= ·) (funext ih)

theorem tokens_of_readsUpTo {path : String} {hs : List Hop} {e : Failure}
    (h : Path.ReadsUpTo path hs e) (f : Frame ν L) :
    (tokens g d o f (Path.tokens path)).result =
      (hops g d o f hs).result.bind fun _ => .error e := by
  obtain ⟨front, token, back, hpath, hfront, htoken⟩ := h
  rw [hpath, tokens_append, tokens_of_parseAll hfront, Run.result_bind]
  congr 1
  funext f'
  rw [tokens, htoken]
  rfl

end Walk

/-! ## A resolution -/

theorem resolve_of_hops_eq_error {root : ν} {hs : List Hop} {e : Failure}
    (h : (Walk.hops g d o (Walk.start root) hs).result = .error e) :
    resolve g d o root hs = ⟨.error e, (Walk.hops g d o (Walk.start root) hs).notes⟩ :=
  Run.bind_of_error h

theorem resolve_append_of_error {root : ν} {hs : List Hop} {e : Failure} (hne : hs ≠ [])
    (h : (resolve g d o root hs).result = .error e) (later : List Hop) :
    resolve g d o root (hs ++ later) = resolve g d o root hs := by
  have hhops := (resolve_eq_error_iff hne).1 h
  have happend : Walk.hops g d o (Walk.start root) (hs ++ later) =
      Walk.hops g d o (Walk.start root) hs := by
    rw [Walk.hops_append, Run.bind_eq_self_of_error hhops]
  rw [resolve_of_hops_eq_error hhops, resolve_of_hops_eq_error (happend ▸ hhops), happend]

/-- One lookup for each hop up to the failing one. -/
theorem exists_of_resolve_eq_error {root : ν} {hs : List Hop} {e : Failure} (hne : hs ≠ [])
    (h : (resolve g d o root hs).result = .error e) :
    ∃ before hop after, hs = before ++ hop :: after ∧
      (before ≠ [] → ∃ l, (resolve g d o root before).result = .ok l) ∧
      (resolve g d o root (before ++ [hop])).result = .error e ∧
      (resolve g d o root hs).lookups = (before ++ [hop]).map Hop.name := by
  have hhops := (resolve_eq_error_iff hne).1 h
  obtain ⟨before, hop, after, f, rfl, hbefore, hfails, hvisits⟩ :=
    Walk.exists_of_hops_eq_error hhops
  refine ⟨before, hop, after, rfl, ?_, ?_, ?_⟩
  · exact fun hbne => ⟨f.locator, resolve_eq_ok_iff.2 ⟨hbne, f, hbefore, rfl⟩⟩
  · have hlast : (Walk.hops g d o (Walk.start root) (before ++ [hop])).result = .error e := by
      rw [Walk.hops_append, Run.result_bind_of_ok hbefore]
      exact Walk.hops_cons_eq_error_iff.2 (Or.inl hfails)
    rw [resolve_of_hops_eq_error hlast]
  · rw [resolve_of_hops_eq_error hhops, ← hvisits, List.map_map]
    exact Walk.lookups_hops _ _

theorem tokens_of_resolvePath_eq_error {root : ν} {path : String} {e : Failure}
    (h : (resolvePath g d o root path).result = .error e) :
    (Walk.tokens g d o (Walk.start root) (Path.tokens path)).result = .error e := by
  have hcount : (Path.tokens path).length ≠ 0 := fun h0 =>
    Path.tokens_ne_nil path (List.length_eq_zero_iff.1 h0)
  rw [resolvePath] at h
  cases hwalk : (Walk.tokens g d o (Walk.start root) (Path.tokens path)).result with
  | error e' =>
      rw [Run.bind_of_error hwalk] at h
      rw [Except.error.inj h]
  | ok f =>
      rw [Run.result_bind_of_ok hwalk, Walk.finish, if_neg hcount] at h
      cases h

theorem resolvePath_of_tokens_eq_error {root : ν} {path : String} {e : Failure}
    (h : (Walk.tokens g d o (Walk.start root) (Path.tokens path)).result = .error e) :
    resolvePath g d o root path =
      ⟨.error e, (Walk.tokens g d o (Walk.start root) (Path.tokens path)).notes⟩ :=
  Run.bind_of_error h

theorem resolvePath_append_of_error {root : ν} {path : String} {e : Failure}
    (hends : Text.endsBlank path.toList = false)
    (h : (resolvePath g d o root path).result = .error e) (more : String) :
    resolvePath g d o root (path ++ " > " ++ more) = resolvePath g d o root path := by
  have hwalk := tokens_of_resolvePath_eq_error h
  obtain ⟨ts, hts⟩ := Path.exists_tokens_append hends more
  have happend : Walk.tokens g d o (Walk.start root) (Path.tokens (path ++ " > " ++ more)) =
      Walk.tokens g d o (Walk.start root) (Path.tokens path) := by
    rw [hts, Walk.tokens_append, Run.bind_eq_self_of_error hwalk]
  rw [resolvePath_of_tokens_eq_error hwalk, resolvePath_of_tokens_eq_error (happend ▸ hwalk),
    happend]

/-- A path whose hops can be read is resolved as these. Otherwise the hops that
can be read decide if they fail, and the first token that cannot be read if not.
Hops that fail do so at one of them, having looked up the aliases up to that one;
whatever is put behind them, the resolution is the same, notes included. So is
that of a path which fails, unless what is put behind it takes blanks from it. -/
theorem resolve_first_failure (g : Graph ν) (d : Driver L) (o : Options) (root : ν) :
    (∀ path hs, Path.parse path = .ok hs →
      resolvePath g d o root path = resolve g d o root hs) ∧
    (∀ path e, Path.parse path = .error e ↔ ∃ hs, Path.ReadsUpTo path hs e) ∧
    (∀ path hs e, Path.ReadsUpTo path hs e →
      (∀ e', hs ≠ [] → (resolve g d o root hs).result = .error e' →
        (resolvePath g d o root path).result = .error e') ∧
      (hs = [] ∨ (∃ l, (resolve g d o root hs).result = .ok l) →
        (resolvePath g d o root path).result = .error e)) ∧
    (∀ hs e, hs ≠ [] → (resolve g d o root hs).result = .error e →
      (∃ before hop after, hs = before ++ hop :: after ∧
        (before ≠ [] → ∃ l, (resolve g d o root before).result = .ok l) ∧
        (resolve g d o root (before ++ [hop])).result = .error e ∧
        (resolve g d o root hs).lookups = (before ++ [hop]).map Hop.name) ∧
      ∀ later, resolve g d o root (hs ++ later) = resolve g d o root hs) ∧
    ∀ path e, Text.endsBlank path.toList = false →
      (resolvePath g d o root path).result = .error e →
        ∀ more, resolvePath g d o root (path ++ " > " ++ more) = resolvePath g d o root path := by
  refine ⟨fun path hs h => resolvePath_of_parse h root, fun path e => Path.parse_eq_error_iff,
    fun path hs e hreads => ⟨?_, ?_⟩, fun hs e hne h => ⟨?_, ?_⟩, ?_⟩
  · intro e' hne h
    have hhops := (resolve_eq_error_iff hne).1 h
    rw [resolvePath_of_tokens_eq_error ?_]
    rw [Walk.tokens_of_readsUpTo hreads, hhops]
    rfl
  · intro h
    have hhops : ∃ f, (Walk.hops g d o (Walk.start root) hs).result = .ok f := by
      rcases h with rfl | ⟨l, h⟩
      · exact ⟨Walk.start root, rfl⟩
      · obtain ⟨f, hhops, _⟩ := exists_frame_of_resolve h
        exact ⟨f, hhops⟩
    obtain ⟨f, hhops⟩ := hhops
    rw [resolvePath_of_tokens_eq_error ?_]
    rw [Walk.tokens_of_readsUpTo hreads, hhops]
    rfl
  · exact exists_of_resolve_eq_error hne h
  · exact resolve_append_of_error hne h
  · exact fun path e hends h more => resolvePath_append_of_error hends h more

/-- The rows are reached before the pick behind them cannot be read; a name that
is not there is missed first. -/
theorem resolve_first_failure_rows :
    (resolvePath rowsStore.graph (PageLocator.driver {} []) {} 0 "Rows > #two of Name").result =
      .error (.malformedQualifier "#two of Name" "index 'two' is not an integer") ∧
    (∀ more, (resolvePath rowsStore.graph (PageLocator.driver {} []) {} 0
      ("Row" ++ " > " ++ more)).result = .error (.aliasNotFound "Row" none)) ∧
    ∀ later, (resolve rowsStore.graph (PageLocator.driver {} []) {} 0
      ([.plain "Rows", .picked "Name" (.index 1)] ++ later)).lookups = ["Rows", "Name"] := by
  have hrows := resolve_first_failure rowsStore.graph (PageLocator.driver {} []) {} 0
  obtain ⟨-, -, hreads, hstop, hmore⟩ := hrows
  refine ⟨?_, fun more => ?_, fun later => ?_⟩
  · have hpath : Path.ReadsUpTo "Rows > #two of Name" [.plain "Rows"]
        (.malformedQualifier "#two of Name" "index 'two' is not an integer") :=
      ⟨["Rows"], "#two of Name", [], rfl, rfl, rfl⟩
    exact (hreads _ _ _ hpath).2 (Or.inr ⟨_, rfl⟩)
  · have hrow : (resolvePath rowsStore.graph (PageLocator.driver {} []) {} 0 "Row").result =
        .error (.aliasNotFound "Row" none) := rfl
    rw [hmore "Row" _ (by decide) hrow more, hrow]
  · have hname : (resolve rowsStore.graph (PageLocator.driver {} []) {} 0
        [.plain "Rows", .picked "Name" (.index 1)]).result = .error (.notACollection "Name") := rfl
    rw [(hstop _ _ (List.cons_ne_nil _ _) hname).2 later]
    rfl

end PageAtlas
