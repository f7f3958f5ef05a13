import PageAtlas.Log.Record
import PageAtlas.Proofs.Json.RoundTrip
import PageAtlas.Proofs.Text.Split

/-!
# Reading records back

The line of a record holds no line break, and reading it gives back what was laid over
what: the basis, what was bound, what went wrong. A file of such lines is cut into them
and into nothing else.
-/

namespace PageAtlas

namespace LogRecord

variable {r : LogRecord}

def fault (r : LogRecord) : Ordered String Json :=
  r.failure.toList.map fun text => ("exc_info", .str text)

theorem members_eq_update (r : LogRecord) :
    r.members = (r.basis.update r.context).update r.fault := by
  unfold members fault
  cases r.failure <;> rfl

theorem nodup_keys_basis (r : LogRecord) : (Ordered.keys r.basis).Nodup := by
  have hkeys : Ordered.keys r.basis = ["ts", "level", "logger", "msg"] := rfl
  rw [hkeys]
  decide

theorem discrete_basis (r : LogRecord) : Json.Discrete (.obj r.basis) := by
  refine .obj r.nodup_keys_basis ?_
  simp [basis]

theorem nodup_keys_fault (r : LogRecord) : (Ordered.keys r.fault).Nodup := by
  unfold fault
  cases r.failure <;> simp [Ordered.keys]

theorem discrete_fault (r : LogRecord) : Json.Discrete (.obj r.fault) := by
  refine .obj r.nodup_keys_fault fun e he => ?_
  obtain ⟨text, -, rfl⟩ := List.mem_map.1 he
  exact .str text

theorem discrete_update {m later : List (String × Json)} (hm : Json.Discrete (.obj m))
    (hlater : Json.Discrete (.obj later)) : Json.Discrete (.obj (Ordered.update m later)) := by
  obtain ⟨hkeys, hvalues⟩ := Json.discrete_obj.1 hm
  refine .obj (Ordered.nodup_keys_update hkeys) fun e he => ?_
  rcases Ordered.mem_update he with he | he
  · exact hvalues e he
  · exact (Json.discrete_obj.1 hlater).2 e he

theorem discrete_members (h : Json.Discrete (.obj r.context)) :
    Json.Discrete (.obj r.members) := by
  rw [members_eq_update]
  exact discrete_update (discrete_update r.discrete_basis h) r.discrete_fault

/-! ## What is said of every record can be written -/

theorem bounded_basis (r : LogRecord) : Json.Bounded (.obj r.basis) :=
  (Json.isWritable_iff _).1 rfl

theorem bounded_fault (r : LogRecord) : Json.Bounded (.obj r.fault) := by
  refine (Json.isWritable_iff _).1 ?_
  unfold fault
  cases r.failure <;> rfl

theorem bounded_update {m later : List (String × Json)} (hm : Json.Bounded (.obj m))
    (hlater : Json.Bounded (.obj later)) : Json.Bounded (.obj (Ordered.update m later)) := by
  refine Json.bounded_obj.2 fun e he => ?_
  rcases Ordered.mem_update he with he | he
  · exact Json.bounded_obj.1 hm e he
  · exact Json.bounded_obj.1 hlater e he

theorem bounded_members (h : Json.Bounded (.obj r.context)) : Json.Bounded (.obj r.members) := by
  rw [members_eq_update]
  exact bounded_update (bounded_update r.bounded_basis h) r.bounded_fault

/-! ## Lines -/

theorem visible_compact_members (h : Json.Discrete (.obj r.context)) :
    Json.Visible (Json.compact (.obj r.members)).toList :=
  Json.visible_compact (discrete_members h)

def written (rs : List LogRecord) : List (List Char) :=
  rs.filterMap fun r => r.line.toOption.map String.toList

theorem mem_written {rs : List LogRecord} {cs : List Char} :
    cs ∈ written rs ↔ ∃ r ∈ rs, ∃ text, r.line = .ok text ∧ text.toList = cs := by
  simp only [written, List.mem_filterMap, Option.map_eq_some_iff]
  refine exists_congr fun r => and_congr_right fun _ => exists_congr fun text => ?_
  cases r.line <;> simp [Except.toOption]

theorem visible_of_line {text : String} (h : Json.Discrete (.obj r.context))
    (hline : r.line = .ok text) : Json.Visible text.toList := by
  rw [line] at hline
  by_cases hbounded : Json.Bounded (.obj r.members)
  · rw [Json.write_of_bounded hbounded] at hline
    cases hline
    exact visible_compact_members h
  · rw [Json.write_of_not_bounded hbounded] at hline
    cases hline

/-- A message that looks like the end of a line and a line of its own, with values bound
under a name of the basis and under the name of what went wrong. -/
def forging : LogRecord where
  created := { date := ⟨2026, 1, 1⟩, offset := some 0 }
  level := "INFO"
  logger := "pagepath"
  message := "\"\x7d\n\x7b\"msg\": \"b\"\x7d\r"
  context := [("hop", .arr [.int (-2), .null, .obj [("é\t", .bool true)]]),
    ("exc_info", .str "bound"), ("msg", .str "a\nb")]
  failure := some "boom\n"

def numbered (n : Nat) : LogRecord where
  created := { date := ⟨2026, 1, 1⟩, offset := some 0 }
  level := "INFO"
  logger := "pagepath"
  message := "a"
  context := [("n", .int n)]
  failure := none

end LogRecord

end PageAtlas
