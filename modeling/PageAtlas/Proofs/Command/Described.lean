import PageAtlas.Proofs.Command.Parse
import PageAtlas.Proofs.Json.RoundTrip

/-!
# Reading a description back

What is printed for a path that can be read is a list with an object for each hop, and an
object tells its hop. So the hops come back from what is printed, and no other path is
printed alike, not even one that is refused.
-/

namespace PageAtlas

open PageAtlas.Path

namespace Path

/-- The object of a hop: its alias, and with it the position or the text that picks an
element. -/
inductive Hop.ShownAs : Hop → Json → Prop
  | plain (name : String) : ShownAs (.plain name) (.obj [("alias", .str name)])
  | index (name : String) (n : Int) :
      ShownAs (.picked name (.index n)) (.obj [("alias", .str name), ("index", .int n)])
  | text (name value : String) :
      ShownAs (.picked name (.text value)) (.obj [("alias", .str name), ("text", .str value)])

namespace Hop

variable {hop hop' : Hop} {j : Json}

theorem describe_injective (h : hop'.describe = hop.describe) : hop' = hop := by
  rcases hop with name | ⟨name, n | value⟩ <;> rcases hop' with name' | ⟨name', n' | value'⟩ <;>
    simp_all [describe]

theorem shownAs_describe (hop : Hop) : ShownAs hop hop.describe := by
  cases hop with
  | plain name => exact .plain name
  | picked name pick =>
      cases pick with
      | index n => exact .index name n
      | text value => exact .text name value

theorem ShownAs.eq_describe (h : ShownAs hop j) : j = hop.describe := by
  cases h <;> rfl

theorem shownAs_describe_iff : ShownAs hop' hop.describe ↔ hop' = hop := by
  constructor
  · intro h
    exact describe_injective h.eq_describe.symm
  · rintro rfl
    exact hop'.shownAs_describe

theorem ShownAs.discrete (h : ShownAs hop j) : Json.Discrete j := by
  cases h <;> simp

end Hop

/-! ## Lists of hops -/

variable {hs hs' : List Hop}

theorem forall₂_shownAs_iff :
    List.Forall₂ Hop.ShownAs hs' (hs.map Hop.describe) ↔ hs' = hs := by
  rw [List.forall₂_map_right_iff]
  simp only [Hop.shownAs_describe_iff]
  rw [List.forall₂_eq_eq_eq]

theorem parse?_describe (hs : List Hop) :
    Json.parse? (describe hs ++ "\n") = some (.arr (hs.map Hop.describe)) := by
  apply Json.parse?_pretty_append
  apply Json.Discrete.arr
  intro j hj
  obtain ⟨hop, -, rfl⟩ := List.mem_map.1 hj
  exact hop.shownAs_describe.discrete

theorem describe_injective (h : describe hs' ++ "\n" = describe hs ++ "\n") : hs' = hs := by
  have hread := parse?_describe hs'
  rw [h, parse?_describe hs] at hread
  have hitems : hs.map Hop.describe = hs'.map Hop.describe :=
    Json.arr.inj (Option.some.inj hread)
  apply forall₂_shownAs_iff.1
  rw [hitems]
  exact forall₂_shownAs_iff.2 rfl

theorem head?_describe (hs : List Hop) (text : String) :
    (describe hs ++ text).toList.head? = some '[' := by
  rw [describe, Json.pretty, String.toList_append, String.toList_ofList]
  cases hs with
  | nil => rfl
  | cons hop hs => rfl

end Path

namespace Workplace

variable {w : Workplace} {path : String}

theorem output_printed (w : Workplace) (status : Nat) (line : String) :
    (Outcome.printed w status [line]).output = line ++ "\n" := by
  simp [Outcome.printed]

theorem output_parse_of_ok {hs : List Hop} (h : Path.parse path = .ok hs) :
    (w.parse path).output = Path.describe hs ++ "\n" := by
  rw [parse_of_ok h, output_printed]

theorem output_parse_of_malformedQualifier {token reason : String}
    (h : Path.parse path = .error (.malformedQualifier token reason)) :
    (w.parse path).output =
      "ERR Malformed qualifier '" ++ token ++ "': " ++ reason ++ "\n" := by
  have hmessage : (Failure.malformedQualifier token reason).message =
      "Malformed qualifier '" ++ token ++ "': " ++ reason := rfl
  have hjoin : "ERR " ++ "Malformed qualifier '" = "ERR Malformed qualifier '" := rfl
  rw [parse_of_malformedQualifier h, output_printed, hmessage, ← hjoin]
  simp only [String.append_assoc]

theorem head?_output_of_error {e : Failure} (h : Path.parse path = .error e) :
    (w.parse path).output.toList.head? ≠ some '[' := by
  rcases Path.exists_of_parse_eq_error h with ⟨token, -, reason, rfl⟩ | ⟨count, rfl, -⟩
  · have herr : "ERR ".toList.head? = some 'E' := rfl
    rw [parse_of_malformedQualifier h, output_printed, String.append_assoc, String.toList_append,
      List.head?_append, herr, Option.some_or]
    decide
  · have hnone : "".toList.head? = none := rfl
    rw [parse_of_oversizedIndex h, hnone]
    exact nofun

theorem output_parse_eq_iff {hs : List Hop} (h : Path.parse path = .ok hs) (w' : Workplace)
    (path' : String) :
    (w'.parse path').output = (w.parse path).output ↔ Path.parse path' = .ok hs := by
  rw [output_parse_of_ok h]
  constructor
  · intro heq
    cases hparse : Path.parse path' with
    | ok hs' =>
        rw [output_parse_of_ok hparse] at heq
        rw [Path.describe_injective heq]
    | error e =>
        have hhead := head?_output_of_error (w := w') hparse
        rw [heq] at hhead
        exact absurd (Path.head?_describe hs "\n") hhead
  · exact output_parse_of_ok

/-- For a path that can be read a list is printed, and read as JSON it has an object for
each hop, in order: these hops and no others are shown by it. So a path is printed alike
exactly if it is read as the same hops. Of a path with a malformed token nothing but the
line about the first such token is printed. -/
theorem parse_output_determines (w : Workplace) (path : String) :
    (∀ hs, Path.parse path = .ok hs →
      (w.parse path).status = 0 ∧
      (∃ items, Json.parse? (w.parse path).output = some (.arr items) ∧
        ∀ hs', List.Forall₂ Hop.ShownAs hs' items ↔ hs' = hs) ∧
      ∀ (w' : Workplace) (path' : String),
        (w'.parse path').output = (w.parse path).output ↔ Path.parse path' = .ok hs) ∧
    (∀ token reason, Path.parse path = .error (.malformedQualifier token reason) →
      (w.parse path).status = 1 ∧
      (w.parse path).output =
        "ERR Malformed qualifier '" ++ token ++ "': " ++ reason ++ "\n" ∧
      ∃ front back hs, Path.tokens path = front ++ token :: back ∧
        List.Forall₂ (fun t hop => Hop.parse t = .ok hop) front hs ∧
        Hop.parse token = .error (.malformedQualifier token reason)) ∧
    w.run ["parse", "--", path] = w.parse path ∧
    (Arguments.isOption path = true ∨ w.run ["parse", path] = w.parse path) := by
  refine ⟨fun hs h => ⟨?_, ?_, output_parse_eq_iff h⟩, fun token reason h => ⟨?_, ?_, ?_⟩,
    w.run_parse_dashes path, ?_⟩
  · rw [parse_of_ok h]
    rfl
  · refine ⟨hs.map Hop.describe, ?_, fun hs' => Path.forall₂_shownAs_iff⟩
    rw [output_parse_of_ok h]
    exact Path.parse?_describe hs
  · rw [parse_of_malformedQualifier h]
    rfl
  · exact output_parse_of_malformedQualifier h
  · obtain ⟨hs, front, first, back, hpath, hfront, hfirst⟩ := Path.parse_eq_error_iff.1 h
    have hsame : first = token := by
      rcases Hop.exists_of_parse_eq_error hfirst with ⟨reason', he⟩ | ⟨count, he, -⟩
      · exact (Failure.malformedQualifier.inj he).1.symm
      · cases he
    subst hsame
    exact ⟨front, back, hs, hpath, Hop.parseAll_eq_ok_iff.1 hfront, hfirst⟩
  · cases hoption : Arguments.isOption path with
    | true => exact .inl rfl
    | false => exact .inr (w.run_parse hoption)

/-- Quotes, a line break and letters beyond ASCII in an alias and in a text, and a second
token that is malformed. -/
theorem parse_output_determines_quoted :
    Path.parse "É\"\n> #02 of Links > #a\\b in C" =
      .ok [.plain "É\"", .picked "Links" (.index 2), .picked "C" (.text "a\\b")] ∧
    ∀ w : Workplace,
      (∀ path', (w.parse path').output = (w.parse "É\"\n> #02 of Links > #a\\b in C").output ↔
        Path.parse path' =
          .ok [.plain "É\"", .picked "Links" (.index 2), .picked "C" (.text "a\\b")]) ∧
      (w.parse "A > #0 of B > #x of C").output =
        "ERR Malformed qualifier '#0 of B': indices start at 1\n" := by
  have hread : Path.parse "É\"\n> #02 of Links > #a\\b in C" =
      .ok [.plain "É\"", .picked "Links" (.index 2), .picked "C" (.text "a\\b")] := rfl
  have hrefused : Path.parse "A > #0 of B > #x of C" =
      .error (.malformedQualifier "#0 of B" "indices start at 1") := rfl
  refine ⟨hread, fun w => ?_⟩
  obtain ⟨-, -, halike⟩ := (parse_output_determines w _).1 _ hread
  obtain ⟨-, hline, -⟩ := (parse_output_determines w _).2.1 _ _ hrefused
  exact ⟨halike w, hline⟩

end Workplace

end PageAtlas
