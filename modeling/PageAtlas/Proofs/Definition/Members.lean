import PageAtlas.Proofs.Definition.Accepted
import PageAtlas.Proofs.Definition.Page
import PageAtlas.Proofs.Text.Spelling

/-!
# Members of a mapping

What the fields of a definition are read from, when a definition is made of
JSON values: which values are read as a text, as a truth value or as nothing,
and what stands for a member that is absent.
-/

namespace PageAtlas

open Text

namespace Json

/-- What a member is read as: its value as `Reads` says, or the default without it. -/
def OptionalMember {α : Type} (members : List (String × Json)) (name : String) (default : α)
    (Reads : Json → α → Prop) (a : α) : Prop :=
  match Ordered.find? name members with
  | none => a = default
  | some j => Reads j a

/-- A member that is a text and not blank, and what is left of it without outer blanks. -/
def TrimmedMember (members : List (String × Json)) (name s : String) : Prop :=
  ∃ t, Ordered.find? name members = some (.str t) ∧ allBlank t.toList = false ∧
    s = String.ofList (trim t.toList)

def truthWords : Bool → List String
  | false => ["0", "off", "f", "false", "n", "no"]
  | true => ["1", "on", "t", "true", "y", "yes"]

/-- What is read as a truth value: itself, zero or one, or one of its words. -/
inductive IsTruth : Json → Bool → Prop
  | bool (b : Bool) : IsTruth (.bool b) b
  | int (b : Bool) : IsTruth (.int b.toInt) b
  | real {x : Decimal.Binary64} {b : Bool} (h : x.toInt? = some b.toInt) : IsTruth (.real x) b
  | word {s : String} {b : Bool} (h : s.toLower ∈ truthWords b) : IsTruth (.str s) b

/-- The members that every node has: its alias, the type of its selector and a text. -/
structure Names (members : List (String × Json)) (name selectorType : String)
    (text : Option String) : Prop where
  called : Ordered.find? "alias" members = some (.str name)
  nameable : Path.Nameable name
  selectorType : OptionalMember members "selector_type" "css" (fun j s => j = .str s) selectorType
  text : OptionalMember members "text" none (fun j o => j = .ofOption o) text

end Json

open Json

namespace Check

variable {α : Type} {members : List (String × Json)} {j : Json}

theorem entry?_ofJsonMembers (name : String) (members : List (String × Json)) :
    Data.entry? name (Data.ofJsonMembers members) =
      (Ordered.find? name members).map Data.ofJson := by
  induction members with
  | nil => rfl
  | cons m ms ih =>
      rw [Data.ofJsonMembers, Data.entry?, Ordered.find?]
      split
      · rfl
      · exact ih

/-! ## Values of single fields -/

theorem text_ofJson_eq_ok_iff {s : String} : text (Data.ofJson j) = .ok s ↔ j = .str s := by
  cases j with
  | str t => simp [Data.ofJson, text]
  | _ => simp [Data.ofJson, text]

theorem optionalText_ofJson_eq_ok_iff {o : Option String} :
    optionalText (Data.ofJson j) = .ok o ↔ j = .ofOption o := by
  cases j with
  | null => cases o <;> simp [Data.ofJson, optionalText, Json.ofOption]
  | str t => cases o <;> simp [Data.ofJson, optionalText, text, Json.ofOption]
  | _ => cases o <;> simp [Data.ofJson, optionalText, text, Json.ofOption]

theorem name_ofJson_eq_ok_iff {s : String} :
    name (Data.ofJson j) = .ok s ↔ j = .str s ∧ Path.Nameable s := by
  constructor
  · intro h
    have hnameable := nameable_of_name h
    rw [name] at h
    cases htext : text (Data.ofJson j) with
    | error c =>
        rw [htext] at h
        cases h
    | ok t =>
        rw [htext] at h
        dsimp only at h
        split at h
        · cases h
        split at h
        · cases h
        cases h
        exact ⟨text_ofJson_eq_ok_iff.1 htext, hnameable⟩
  · rintro ⟨rfl, hblank, hsep⟩
    simp [name, Data.ofJson, text, hblank, hsep]

theorem trimmed_ofJson_eq_ok_iff {blank : Complaint} {s : String} :
    trimmed blank (Data.ofJson j) = .ok s ↔
      ∃ t, j = .str t ∧ allBlank t.toList = false ∧ s = String.ofList (trim t.toList) := by
  rw [trimmed]
  constructor
  · intro h
    cases htext : text (Data.ofJson j) with
    | error c =>
        rw [htext] at h
        cases h
    | ok t =>
        rw [htext] at h
        dsimp only at h
        split at h
        · cases h
        next hempty =>
        cases h
        refine ⟨t, text_ofJson_eq_ok_iff.1 htext, ?_, rfl⟩
        rw [List.isEmpty_iff, trim_eq_nil_iff] at hempty
        simpa using hempty
  · rintro ⟨t, rfl, hblank, rfl⟩
    have hempty : (trim t.toList).isEmpty = false := by
      rw [List.isEmpty_eq_false_iff, Ne, trim_eq_nil_iff, hblank]
      exact Bool.false_ne_true
    simp [Data.ofJson, text, hempty]

theorem any_toLower_iff (ws : List String) (s : String) :
    (ws.any fun w => w.toList == s.toList.map Char.toLower) = true ↔ s.toLower ∈ ws := by
  have hlower : s.toLower.toList = s.toList.map Char.toLower := String.toList_map
  rw [List.any_eq_true, ← hlower]
  constructor
  · rintro ⟨w, hw, heq⟩
    rw [← String.toList_injective (eq_of_beq heq)]
    exact hw
  · intro h
    exact ⟨s.toLower, h, beq_self_eq_true _⟩

theorem truthWord?_eq_some_iff {s : String} {b : Bool} :
    truthWord? s = some b ↔ s.toLower ∈ truthWords b := by
  have hdisjoint : ∀ w ∈ truthWords true, w ∉ truthWords false := by decide
  have hfalse := any_toLower_iff (truthWords false) s
  have htrue := any_toLower_iff (truthWords true) s
  rw [truthWord?]
  split
  · next h =>
    have hmem := hfalse.1 h
    cases b with
    | false => exact iff_of_true rfl hmem
    | true => exact iff_of_false (by simp) fun hmem' => hdisjoint _ hmem' hmem
  next hnot =>
  split
  · next h =>
    cases b with
    | false => exact iff_of_false (by simp) fun hmem => hnot (hfalse.2 hmem)
    | true => exact iff_of_true rfl (htrue.1 h)
  next hnot' =>
  cases b with
  | false => exact iff_of_false (by simp) fun hmem => hnot (hfalse.2 hmem)
  | true => exact iff_of_false (by simp) fun hmem => hnot' (htrue.2 hmem)

theorem number_eq_ok_iff {i : Int} {b : Bool} : truth.number i = .ok b ↔ i = b.toInt := by
  rw [truth.number]
  split
  · next h => cases b <;> simp [h]
  split
  · next h => cases b <;> simp [h]
  next hzero hone => cases b <;> simpa

theorem word_eq_ok_iff {s : String} {b : Bool} :
    truth.word s = .ok b ↔ s.toLower ∈ truthWords b := by
  rw [truth.word, ← truthWord?_eq_some_iff]
  cases truthWord? s <;> simp

theorem hasSurrogate_of_truthWord {s : String} {b : Bool} (h : s.toLower ∈ truthWords b) :
    Spelling.hasSurrogate s = false := by
  have hwords : ∀ b, ∀ w ∈ truthWords b, Spelling.mark ∉ w.toList := by decide
  have hlower : s.toLower.toList = s.toList.map Char.toLower := String.toList_map
  refine Bool.eq_false_iff.2 fun hsurrogate => hwords b s.toLower h ?_
  rw [hlower]
  exact List.mem_map_of_mem (Spelling.mark_mem_of_hasSurrogate hsurrogate)

theorem truth_text_eq_ok_iff {s : String} {b : Bool} :
    truth (.text s) = .ok b ↔ s.toLower ∈ truthWords b := by
  rw [truth, ← word_eq_ok_iff]
  split
  · next hsurrogate =>
    refine iff_of_false (by simp) fun hword => ?_
    rw [hasSurrogate_of_truthWord (word_eq_ok_iff.1 hword)] at hsurrogate
    cases hsurrogate
  · exact Iff.rfl

theorem truth_ofJson_eq_ok_iff {b : Bool} : truth (Data.ofJson j) = .ok b ↔ IsTruth j b := by
  constructor
  · intro h
    cases j with
    | bool b' =>
        cases h
        exact .bool b
    | int i =>
        rw [Data.ofJson, truth] at h
        split at h
        · obtain rfl := number_eq_ok_iff.1 h
          exact .int b
        · cases h
    | real x =>
        rw [Data.ofJson, truth] at h
        split at h
        · next i hx =>
          split at h
          · obtain rfl := number_eq_ok_iff.1 h
            exact .real hx
          · cases h
        · cases h
    | str s => exact .word (truth_text_eq_ok_iff.1 h)
    | _ => cases h
  · intro h
    cases h with
    | bool => rfl
    | int => cases b <;> rfl
    | real hx =>
        rw [Data.ofJson, truth, hx]
        cases b <;> rfl
    | word hs => exact truth_text_eq_ok_iff.2 hs

/-! ## Members -/

theorem required_ofJsonMembers {field : String} {check : Data → Except Complaint α} {a : α} :
    required field check (Data.ofJsonMembers members) = .ok a ↔
      ∃ j, Ordered.find? field members = some j ∧ check (Data.ofJson j) = .ok a := by
  rw [required, Checked.under_eq_ok_iff, entry?_ofJsonMembers]
  cases Ordered.find? field members with
  | none => simp
  | some j => cases hj : check (Data.ofJson j) <;> simp [hj]

theorem optional_ofJsonMembers {field : String} {default : α} {check : Data → Except Complaint α}
    {Reads : Json → α → Prop} (hreads : ∀ j a, check (Data.ofJson j) = .ok a ↔ Reads j a) {a : α} :
    optional field default check (Data.ofJsonMembers members) = .ok a ↔
      OptionalMember members field default Reads a := by
  rw [optional, Checked.under_eq_ok_iff, entry?_ofJsonMembers, OptionalMember]
  cases Ordered.find? field members with
  | none => simp [eq_comm]
  | some j =>
      refine Iff.trans ?_ (hreads j a)
      cases hj : check (Data.ofJson j) <;> simp [hj]

theorem trimmed_ofJsonMembers {field s : String} {blank : Complaint} :
    required field (trimmed blank) (Data.ofJsonMembers members) = .ok s ↔
      TrimmedMember members field s := by
  simp only [required_ofJsonMembers, trimmed_ofJson_eq_ok_iff, TrimmedMember]
  constructor
  · rintro ⟨j, hfind, t, rfl, hblank, hs⟩
    exact ⟨t, hfind, hblank, hs⟩
  · rintro ⟨t, hfind, hblank, hs⟩
    exact ⟨.str t, hfind, t, rfl, hblank, hs⟩

theorem common_ofJsonMembers {name selectorType : String} {text : Option String} :
    common (Data.ofJsonMembers members) = .ok (name, selectorType, text) ↔
      Names members name selectorType text := by
  rw [common, Checked.both_eq_ok_iff, Checked.both_eq_ok_iff, required_ofJsonMembers,
    optional_ofJsonMembers fun _ _ => text_ofJson_eq_ok_iff,
    optional_ofJsonMembers fun _ _ => optionalText_ofJson_eq_ok_iff]
  constructor
  · rintro ⟨⟨j, hfind, hname⟩, htype, htext⟩
    obtain ⟨rfl, hnameable⟩ := name_ofJson_eq_ok_iff.1 hname
    exact ⟨hfind, hnameable, htype, htext⟩
  · rintro ⟨hfind, hnameable, htype, htext⟩
    exact ⟨⟨.str name, hfind, name_ofJson_eq_ok_iff.2 ⟨rfl, hnameable⟩⟩, htype, htext⟩

theorem tag_ofJsonMembers {t : Tag} :
    tag (Data.ofJsonMembers members) = .ok t ↔
      Ordered.find? "type" members = some (.str t.word) := by
  rw [tag, entry?_ofJsonMembers]
  cases Ordered.find? "type" members with
  | none => simp
  | some j =>
      cases j with
      | str s =>
          simp only [Option.map_some, Data.ofJson, Option.some.injEq, Json.str.injEq]
          constructor
          · intro h
            split at h
            · cases h
              assumption
            split at h
            · cases h
              assumption
            split at h
            · cases h
              assumption
            · cases h
          · rintro rfl
            cases t <;> rfl
      | _ => simp [Data.ofJson]

end Check

end PageAtlas
