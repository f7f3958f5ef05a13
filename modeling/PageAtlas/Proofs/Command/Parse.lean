import PageAtlas.Command.Run
import PageAtlas.Proofs.Path.Grammar
import PageAtlas.Proofs.Path.Token
import PageAtlas.Proofs.Resolution.FirstFailure

/-!
# Showing how a path is read

A path is printed as its hops, or refused in one line that names a malformed token.
There is one way out of this: where the grammar asks for an index, a run of too many
digits ends the command, and nothing is printed.
-/

namespace PageAtlas

namespace Path

/-- The token has so many digits for an index, which are too many. -/
def Hop.Oversized (token : String) (count : Nat) : Prop :=
  4300 < count ∧ ∃ s, Form.Last token.toList s ∧ s.keyword = .ofWord ∧ IsRun s.digits ∧
    s.digits.length = count

/-- The first token of the path that cannot be read has so many digits for an index. -/
def Oversized (path : String) (count : Nat) : Prop :=
  ∃ front token back hs, tokens path = front ++ token :: back ∧ Hop.parseAll front = .ok hs ∧
    Hop.Oversized token count

theorem Hop.exists_of_parse_eq_error {token : String} {e : Failure} (h : parse token = .error e) :
    (∃ reason, e = .malformedQualifier token reason) ∨
      ∃ count, e = .oversizedIndex count ∧ Oversized token count := by
  have hreads := reads_parse token
  rw [h] at hreads
  cases hreads with
  | notNumeral => exact .inl ⟨_, rfl⟩
  | zero => exact .inl ⟨_, rfl⟩
  | oversized hlast hk hrun hlength => exact .inr ⟨_, rfl, hlength, _, hlast, hk, hrun, rfl⟩

theorem Hop.Oversized.parse {token : String} {count : Nat} (h : Oversized token count) :
    Hop.parse token = .error (.oversizedIndex count) := by
  obtain ⟨hlength, s, hlast, hk, hrun, rfl⟩ := h
  exact parse_of_reads (.oversized hlast hk hrun hlength)

theorem exists_of_parse_eq_error {path : String} {e : Failure} (h : parse path = .error e) :
    (∃ token ∈ tokens path, ∃ reason, e = .malformedQualifier token reason) ∨
      ∃ count, e = .oversizedIndex count ∧ Oversized path count := by
  obtain ⟨hs, front, token, back, hpath, hfront, htoken⟩ := parse_eq_error_iff.1 h
  rcases Hop.exists_of_parse_eq_error htoken with ⟨reason, rfl⟩ | ⟨count, rfl, hoversized⟩
  · refine .inl ⟨token, ?_, reason, rfl⟩
    rw [hpath]
    exact List.mem_append_right front List.mem_cons_self
  · exact .inr ⟨count, rfl, front, token, back, hs, hpath, hfront, hoversized⟩

theorem parse_eq_oversizedIndex_iff {path : String} {count : Nat} :
    parse path = .error (.oversizedIndex count) ↔ Oversized path count := by
  constructor
  · intro h
    rcases exists_of_parse_eq_error h with ⟨token, -, reason, he⟩ | ⟨count', he, hoversized⟩
    · cases he
    · cases he
      exact hoversized
  · rintro ⟨front, token, back, hs, hpath, hfront, hoversized⟩
    exact parse_eq_error_iff.2 ⟨hs, front, token, back, hpath, hfront, hoversized.parse⟩

theorem separator_notMem_longZerosToken : separator ∉ Hop.longZerosToken.toList := by
  rw [Hop.longZerosToken, String.toList_ofList]
  intro h
  rcases List.mem_append.1 (List.mem_of_ne_of_mem (by decide) h) with h | h
  · exact absurd (List.eq_of_mem_replicate h) (by decide)
  · exact absurd h (by decide)

theorem oversized_longZeros : Oversized Hop.longZerosToken 4301 := by
  obtain ⟨s, hlast, hk, hvalue⟩ := Hop.last_longZerosToken
  have hdigits : s.digits = List.replicate 4301 '0' := by
    rw [Form.digits, hvalue, Hop.trim_longZeros, Hop.longZeros]
  have hrun : IsRun s.digits := by
    rw [hdigits]
    refine ⟨Hop.longZeros_ne_nil, fun c hc => ?_⟩
    rw [List.eq_of_mem_replicate hc]
    decide
  have hlength : s.digits.length = 4301 := by rw [hdigits, List.length_replicate]
  have htokens : tokens Hop.longZerosToken = [Hop.longZerosToken] := by
    rw [tokens, cut, pieces_of_notMem separator_notMem_longZerosToken]
    exact congrArg (· :: []) String.ofList_toList
  exact ⟨[], _, [], [], htokens, rfl, by omega, s, hlast, hk, hrun, hlength⟩

end Path

open PageAtlas.Path

namespace Workplace

variable {w : Workplace} {path : String}

/-! ## The command line -/

theorem run_parse_of_positional (w : Workplace) {rest : List String}
    (h : Arguments.read? (Invocation.options .parse) true rest = some { positional := [path] }) :
    w.run ("parse" :: rest) = w.parse path := by
  have hpreface : Preface.read? ("parse" :: rest) = some (.command none .parse rest) := rfl
  have hinvocation : Invocation.read? w.tree .parse rest = some (.parse path) := by
    rw [Invocation.read?, h]
    rfl
  simp only [run, hpreface, withLevel, hinvocation]
  rfl

theorem run_parse_dashes (w : Workplace) (path : String) :
    w.run ["parse", "--", path] = w.parse path :=
  w.run_parse_of_positional rfl

theorem run_parse (w : Workplace) (h : Arguments.isOption path = false) :
    w.run ["parse", path] = w.parse path := by
  apply w.run_parse_of_positional
  have hdashes : path ≠ "--" := by
    rintro rfl
    cases h
  rw [Arguments.read?, if_neg hdashes, if_neg (by simp [h])]
  rfl

/-! ## What is printed -/

theorem parse_of_ok {hs : List Hop} (h : Path.parse path = .ok hs) :
    w.parse path = .printed w 0 [Path.describe hs] := by
  rw [parse, h]

theorem parse_of_malformedQualifier {token reason : String}
    (h : Path.parse path = .error (.malformedQualifier token reason)) :
    w.parse path = .printed w 1 ["ERR " ++ (Failure.malformedQualifier token reason).message] := by
  rw [parse, h]
  rfl

theorem parse_of_oversizedIndex {count : Nat}
    (h : Path.parse path = .error (.oversizedIndex count)) :
    w.parse path = { status := 1, obstacle := some (.failure (.oversizedIndex count)),
                     logging := w.logging } := by
  rw [parse, h]
  rfl

/-- A path is read, and its hops are printed, or one of its tokens is malformed, and the
line that says so is printed, unless an index of too many digits comes first. Then
neither is done, and nothing is printed. -/
theorem parse_printed_or_oversized (w : Workplace) (path : String) :
    (((∃ hs, Path.parse path = .ok hs ∧ w.parse path = .printed w 0 [Path.describe hs]) ∨
      ∃ token ∈ Path.tokens path, ∃ reason,
        Path.parse path = .error (.malformedQualifier token reason) ∧
        w.parse path =
          .printed w 1 ["ERR " ++ (Failure.malformedQualifier token reason).message]) ↔
      ¬ ∃ count, Path.Oversized path count) ∧
    (∀ count, Path.Oversized path count ↔ Path.parse path = .error (.oversizedIndex count)) ∧
    (∀ count, Path.Oversized path count ↔
      w.parse path = { status := 1, obstacle := some (.failure (.oversizedIndex count)),
                       logging := w.logging }) ∧
    w.run ["parse", "--", path] = w.parse path ∧
    (Arguments.isOption path = true ∨ w.run ["parse", path] = w.parse path) := by
  refine ⟨⟨?_, fun h => ?_⟩, fun count => Path.parse_eq_oversizedIndex_iff.symm,
    fun count => ⟨fun h => ?_, fun h => ?_⟩, w.run_parse_dashes path, ?_⟩
  · rintro (⟨hs, hparse, -⟩ | ⟨token, -, reason, hparse, -⟩) ⟨count, hoversized⟩
    · cases hparse.symm.trans (Path.parse_eq_oversizedIndex_iff.2 hoversized)
    · cases hparse.symm.trans (Path.parse_eq_oversizedIndex_iff.2 hoversized)
  · cases hparse : Path.parse path with
    | ok hs => exact .inl ⟨hs, rfl, parse_of_ok hparse⟩
    | error e =>
        rcases Path.exists_of_parse_eq_error hparse with ⟨token, hmem, reason, rfl⟩ |
          ⟨count, -, hoversized⟩
        · exact .inr ⟨token, hmem, reason, rfl, parse_of_malformedQualifier hparse⟩
        · exact absurd ⟨count, hoversized⟩ h
  · exact parse_of_oversizedIndex (Path.parse_eq_oversizedIndex_iff.2 h)
  · cases hparse : Path.parse path with
    | ok hs => cases (parse_of_ok hparse).symm.trans h
    | error e =>
        rcases Path.exists_of_parse_eq_error hparse with ⟨token, -, reason, rfl⟩ |
          ⟨count', rfl, hoversized⟩
        · cases congrArg Outcome.obstacle ((parse_of_malformedQualifier hparse).symm.trans h)
        · cases (parse_of_oversizedIndex hparse).symm.trans h
          exact hoversized
  · cases hoption : Arguments.isOption path with
    | true => exact .inl rfl
    | false => exact .inr (w.run_parse hoption)

/-- A path of one token that is no malformed token, and of which nothing is printed. -/
theorem not_printed_longZeros :
    Path.parse Hop.longZerosToken = .error (.oversizedIndex 4301) ∧
    (∀ hs, Path.parse Hop.longZerosToken ≠ .ok hs) ∧
    (∀ token reason,
      Path.parse Hop.longZerosToken ≠ .error (.malformedQualifier token reason)) ∧
    ∀ w : Workplace, w.run ["parse", Hop.longZerosToken] = w.parse Hop.longZerosToken ∧
      (w.parse Hop.longZerosToken).output = "" ∧ (w.parse Hop.longZerosToken).status = 1 := by
  have hparse := Path.parse_eq_oversizedIndex_iff.2 Path.oversized_longZeros
  refine ⟨hparse, fun hs h => ?_, fun token reason h => ?_, fun w => ⟨?_, ?_⟩⟩
  · cases hparse.symm.trans h
  · cases hparse.symm.trans h
  · apply w.run_parse
    rw [Arguments.isOption, Hop.longZerosToken, String.toList_ofList]
    rfl
  · rw [parse_of_oversizedIndex hparse]
    exact ⟨rfl, rfl⟩

end Workplace

end PageAtlas
