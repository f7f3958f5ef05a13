import PageAtlas.Proofs.Definition.Members

/-!
# Objections to single fields

What is said of the value of a field, or of its absence, in a mapping of JSON
values. A field has one objection or none, and the check reports it under the
name of the field.
-/

namespace PageAtlas

open Text

namespace Json

/-- An alias has to be there, and to be a text by which a node can be called. -/
inductive NameObjection : Option Json → Complaint → Prop
  | missing : NameObjection none .missing
  | notText {j : Json} (h : ∀ s, j ≠ .str s) : NameObjection (some j) .notText
  | blank {s : String} (h : allBlank s.toList = true) : NameObjection (some (.str s)) .blankAlias
  | separator {s : String} (hblank : allBlank s.toList = false)
      (h : Path.separator ∈ s.toList) : NameObjection (some (.str s)) .separatorInAlias

/-- Of the text in a field something has to be left without outer blanks. -/
inductive TrimmedObjection (ofBlank : Complaint) : Option Json → Complaint → Prop
  | missing : TrimmedObjection ofBlank none .missing
  | notText {j : Json} (h : ∀ s, j ≠ .str s) : TrimmedObjection ofBlank (some j) .notText
  | blank {s : String} (h : allBlank s.toList = true) :
      TrimmedObjection ofBlank (some (.str s)) ofBlank

inductive TextObjection : Option Json → Complaint → Prop
  | notText {j : Json} (h : ∀ s, j ≠ .str s) : TextObjection (some j) .notText

inductive OptionalTextObjection : Option Json → Complaint → Prop
  | notText {j : Json} (h : ∀ s, j ≠ .str s) (hnull : j ≠ .null) :
      OptionalTextObjection (some j) .notText

/-- The values that are looked at as a truth value: texts without surrogates, and the
whole numbers of 64 bits. -/
inductive TruthForm : Json → Prop
  | bool (b : Bool) : TruthForm (.bool b)
  | int {i : Int} (hlow : -Check.wordBound ≤ i) (hhigh : i < Check.wordBound) : TruthForm (.int i)
  | real {x : Decimal.Binary64} {i : Int} (h : x.toInt? = some i) (hlow : -Check.wordBound < i)
      (hhigh : i < Check.wordBound) : TruthForm (.real x)
  | word {s : String} (h : Text.Spelling.hasSurrogate s = false) : TruthForm (.str s)

inductive TruthObjection : Option Json → Complaint → Prop
  | unreadable {j : Json} (hform : TruthForm j) (h : ∀ b, ¬ IsTruth j b) :
      TruthObjection (some j) .unreadableTruth
  | undecodable {s : String} (h : Text.Spelling.hasSurrogate s = true) :
      TruthObjection (some (.str s)) .undecodableText
  | other {j : Json} (hform : ¬ TruthForm j) (htext : ∀ s, j ≠ .str s) :
      TruthObjection (some j) .notTruth

/-- The issues of a field: the objection to its value, if there is one. -/
inductive FieldIssues (Objection : Option Json → Complaint → Prop)
    (members : List (String × Json)) (field : String) : List Issue → Prop
  | fine (h : ∀ c, ¬ Objection (Ordered.find? field members) c) :
      FieldIssues Objection members field []
  | objection {c : Complaint} (h : Objection (Ordered.find? field members) c) :
      FieldIssues Objection members field [⟨[.name field], c⟩]

/-- The issues of the fields that every node has, in the order of the fields. -/
inductive CommonIssues (members : List (String × Json)) : List Issue → Prop
  | fields {name selectorType text : List Issue}
      (hname : FieldIssues NameObjection members "alias" name)
      (htype : FieldIssues TextObjection members "selector_type" selectorType)
      (htext : FieldIssues OptionalTextObjection members "text" text) :
      CommonIssues members (name ++ (selectorType ++ text))

/-- The issues of the fields of a component other than its nodes. -/
inductive HeaderIssues (members : List (String × Json)) : List Issue → Prop
  | fields {common selector repeated : List Issue} (hcommon : CommonIssues members common)
      (hselector : FieldIssues OptionalTextObjection members "selector" selector)
      (hrepeated : FieldIssues TruthObjection members "collection" repeated) :
      HeaderIssues members (common ++ (selector ++ repeated))

end Json

open Json

namespace Check

variable {α : Type} {members : List (String × Json)} {j : Json} {c : Complaint}

/-! ## Values -/

theorem text_ofJson_eq_error_iff :
    text (Data.ofJson j) = .error c ↔ TextObjection (some j) c := by
  constructor
  · intro h
    have hnot : ∀ s, j ≠ .str s := by
      rintro s rfl
      cases h
    cases j with
    | str s => exact absurd rfl (hnot s)
    | _ =>
        cases h
        exact .notText hnot
  · rintro ⟨h⟩
    cases j with
    | str s => exact absurd rfl (h s)
    | _ => rfl

theorem optionalText_ofJson_eq_error_iff :
    optionalText (Data.ofJson j) = .error c ↔ OptionalTextObjection (some j) c := by
  constructor
  · intro h
    have hnot : ∀ s, j ≠ .str s := by
      rintro s rfl
      cases h
    have hnull : j ≠ .null := by
      rintro rfl
      cases h
    cases j with
    | null => exact absurd rfl hnull
    | str s => exact absurd rfl (hnot s)
    | _ =>
        cases h
        exact .notText hnot hnull
  · rintro ⟨h, hnull⟩
    cases j with
    | null => exact absurd rfl hnull
    | str s => exact absurd rfl (h s)
    | _ => rfl

theorem name_ofJson_eq_error_iff :
    name (Data.ofJson j) = .error c ↔ NameObjection (some j) c := by
  cases htext : text (Data.ofJson j) with
  | error c' =>
      obtain ⟨hnot⟩ := text_ofJson_eq_error_iff.1 htext
      rw [name, htext, Except.error.injEq]
      constructor
      · rintro rfl
        exact .notText hnot
      · intro h
        cases h with
        | notText => rfl
        | blank => exact absurd rfl (hnot _)
        | separator => exact absurd rfl (hnot _)
  | ok s =>
      obtain rfl := text_ofJson_eq_ok_iff.1 htext
      rw [name, htext]
      dsimp only
      cases hblank : allBlank s.toList with
      | true =>
          rw [if_pos rfl, Except.error.injEq]
          constructor
          · rintro rfl
            exact .blank hblank
          · intro h
            cases h with
            | notText h => exact absurd rfl (h s)
            | blank => rfl
            | separator h => simp [hblank] at h
      | false =>
          rw [if_neg Bool.false_ne_true]
          by_cases hsep : Path.separator ∈ s.toList
          · rw [if_pos (List.contains_iff_mem.2 hsep), Except.error.injEq]
            constructor
            · rintro rfl
              exact .separator hblank hsep
            · intro h
              cases h with
              | notText h => exact absurd rfl (h s)
              | blank h => simp [hblank] at h
              | separator => rfl
          · rw [if_neg fun h => hsep (List.contains_iff_mem.1 h)]
            refine iff_of_false (by simp) fun h => ?_
            cases h with
            | notText h => exact absurd rfl (h s)
            | blank h => simp [hblank] at h
            | separator _ h => exact hsep h

theorem trimmed_ofJson_eq_error_iff {ofBlank : Complaint} :
    trimmed ofBlank (Data.ofJson j) = .error c ↔ TrimmedObjection ofBlank (some j) c := by
  cases htext : text (Data.ofJson j) with
  | error c' =>
      obtain ⟨hnot⟩ := text_ofJson_eq_error_iff.1 htext
      rw [trimmed, htext, Except.error.injEq]
      constructor
      · rintro rfl
        exact .notText hnot
      · intro h
        cases h with
        | notText => rfl
        | blank => exact absurd rfl (hnot _)
  | ok s =>
      obtain rfl := text_ofJson_eq_ok_iff.1 htext
      have hempty : (trim s.toList).isEmpty = allBlank s.toList := by
        rw [Bool.eq_iff_iff, List.isEmpty_iff, trim_eq_nil_iff]
      rw [trimmed, htext]
      dsimp only
      rw [hempty]
      cases hblank : allBlank s.toList with
      | true =>
          rw [if_pos rfl, Except.error.injEq]
          constructor
          · rintro rfl
            exact .blank hblank
          · intro h
            cases h with
            | notText h => exact absurd rfl (h s)
            | blank => rfl
      | false =>
          rw [if_neg Bool.false_ne_true]
          refine iff_of_false (by simp) fun h => ?_
          cases h with
          | notText h => exact absurd rfl (h s)
          | blank h => simp [hblank] at h

theorem eq_unreadable_of_number {i : Int} (h : truth.number i = .error c) :
    c = .unreadableTruth := by
  rw [truth.number] at h
  split at h
  · cases h
  split at h
  · cases h
  cases h
  rfl

theorem eq_unreadable_of_word {s : String} (h : truth.word s = .error c) :
    c = .unreadableTruth := by
  rw [truth.word] at h
  split at h
  · cases h
  · cases h
    rfl

theorem truthForm_of_isTruth {b : Bool} (h : IsTruth j b) : TruthForm j := by
  have hlow : -wordBound < b.toInt := by cases b <;> decide
  have hhigh : b.toInt < wordBound := by cases b <;> decide
  cases h with
  | bool => exact .bool b
  | int => exact .int (Int.le_of_lt hlow) hhigh
  | real hx => exact .real hx hlow hhigh
  | word hs => exact .word (hasSurrogate_of_truthWord hs)

/-- Once the form of a value is known, the complaint depends on it alone. -/
theorem truth_ofJson_form (h : truth (Data.ofJson j) = .error c) :
    (TruthForm j ∧ c = .unreadableTruth) ∨ (∃ s, j = .str s ∧
      Text.Spelling.hasSurrogate s = true ∧ c = .undecodableText) ∨
      ((∀ s, j ≠ .str s) ∧ ¬ TruthForm j ∧ c = .notTruth) := by
  cases j with
  | bool b => cases h
  | str s =>
      rw [Data.ofJson, truth] at h
      split at h
      · next hs =>
        cases h
        exact Or.inr (Or.inl ⟨s, rfl, hs, rfl⟩)
      · next hs =>
        exact Or.inl ⟨.word (Bool.eq_false_iff.2 hs), eq_unreadable_of_word h⟩
  | int i =>
      rw [Data.ofJson, truth] at h
      split at h
      · next hi =>
        simp only [Bool.and_eq_true, decide_eq_true_eq] at hi
        exact Or.inl ⟨.int hi.1 hi.2, eq_unreadable_of_number h⟩
      · next hi =>
        simp only [Bool.and_eq_true, decide_eq_true_eq, not_and] at hi
        cases h
        refine Or.inr (Or.inr ⟨fun _ => Json.noConfusion, fun hform => ?_, rfl⟩)
        cases hform with
        | int hlow hhigh => exact hi hlow hhigh
  | real x =>
      rw [Data.ofJson, truth] at h
      split at h
      · next i hx =>
        split at h
        · next hi =>
          simp only [Bool.and_eq_true, decide_eq_true_eq] at hi
          exact Or.inl ⟨.real hx hi.1 hi.2, eq_unreadable_of_number h⟩
        · next hi =>
          simp only [Bool.and_eq_true, decide_eq_true_eq, not_and] at hi
          cases h
          refine Or.inr (Or.inr ⟨fun _ => Json.noConfusion, fun hform => ?_, rfl⟩)
          cases hform with
          | real hx' hlow hhigh =>
              cases hx.symm.trans hx'
              exact hi hlow hhigh
      · next hx =>
        cases h
        refine Or.inr (Or.inr ⟨fun _ => Json.noConfusion, fun hform => ?_, rfl⟩)
        cases hform with
        | real hx' => cases hx.symm.trans hx'
  | _ =>
      cases h
      exact Or.inr (Or.inr ⟨fun _ => Json.noConfusion, fun hform => (by cases hform), rfl⟩)

theorem truthObjection_unique {c' : Complaint} (h : TruthObjection (some j) c)
    (h' : TruthObjection (some j) c') : c = c' := by
  have hclash : ∀ {s}, Text.Spelling.hasSurrogate s = true → ¬ TruthForm (.str s) := by
    rintro s hs (_ | _ | _ | hnone)
    rw [hs] at hnone
    cases hnone
  cases h with
  | unreadable hform =>
      cases h' with
      | unreadable => rfl
      | undecodable hs => exact absurd hform (hclash hs)
      | other hnot => exact absurd hform hnot
  | undecodable hs =>
      cases h' with
      | unreadable hform => exact absurd hform (hclash hs)
      | undecodable => rfl
      | other _ htext => exact absurd rfl (htext _)
  | other hnot htext =>
      cases h' with
      | unreadable hform => exact absurd hform hnot
      | undecodable => exact absurd rfl (htext _)
      | other => rfl

theorem not_isTruth_of_truthObjection {b : Bool} (h : TruthObjection (some j) c) :
    ¬ IsTruth j b := by
  intro hb
  have hform := truthForm_of_isTruth hb
  cases h with
  | unreadable _ hnone => exact hnone b hb
  | undecodable hs =>
      cases hform with
      | word hnone =>
          rw [hs] at hnone
          cases hnone
  | other hnot => exact hnot hform

theorem truth_ofJson_eq_error_iff :
    truth (Data.ofJson j) = .error c ↔ TruthObjection (some j) c := by
  have herror : ∀ c', truth (Data.ofJson j) = .error c' → TruthObjection (some j) c' := by
    intro c' h
    have hnone : ∀ b, ¬ IsTruth j b := by
      intro b hb
      rw [truth_ofJson_eq_ok_iff.2 hb] at h
      cases h
    rcases truth_ofJson_form h with ⟨hform, rfl⟩ | ⟨s, rfl, hs, rfl⟩ | ⟨htext, hform, rfl⟩
    · exact .unreadable hform hnone
    · exact .undecodable hs
    · exact .other hform htext
  refine ⟨herror c, fun h => ?_⟩
  cases htruth : truth (Data.ofJson j) with
  | ok b => exact absurd (truth_ofJson_eq_ok_iff.1 htruth) (not_isTruth_of_truthObjection h)
  | error c' => rw [truthObjection_unique h (herror c' htruth)]

/-! ## Fields -/

section Fields

variable {field : String} {check : Data → Except Complaint α}
  {Objection : Option Json → Complaint → Prop} {is : List Issue}

/-- The objection to a value that is there is what the check says of it. -/
theorem fieldIssues_of_find? (hcheck : ∀ j c, check (Data.ofJson j) = .error c ↔
    Objection (some j) c) (hfind : Ordered.find? field members = some j) :
    FieldIssues Objection members field is ↔
      Checked.issues (Checked.under (.name field) (match check (Data.ofJson j) with
        | .ok a => .ok a
        | .error c => Checked.complain c)) = is := by
  have hobjection : ∀ c, Objection (Ordered.find? field members) c ↔
      check (Data.ofJson j) = .error c := by
    intro c
    rw [hfind, hcheck]
  rw [Checked.issues_under]
  constructor
  · intro h
    cases h with
    | fine h =>
        cases hj : check (Data.ofJson j) with
        | ok a => rfl
        | error c => exact absurd ((hobjection c).2 hj) (h c)
    | objection h =>
        rw [(hobjection _).1 h]
        rfl
  · rintro rfl
    cases hj : check (Data.ofJson j) with
    | ok a =>
        refine .fine fun c hc => ?_
        rw [hobjection, hj] at hc
        cases hc
    | error c => exact .objection ((hobjection c).2 hj)

theorem fieldIssues_required (hmissing : ∀ c, Objection none c ↔ c = .missing)
    (hcheck : ∀ j c, check (Data.ofJson j) = .error c ↔ Objection (some j) c) :
    FieldIssues Objection members field is ↔
      Checked.issues (required field check (Data.ofJsonMembers members)) = is := by
  rw [required, entry?_ofJsonMembers]
  cases hfind : Ordered.find? field members with
  | some j => exact fieldIssues_of_find? hcheck hfind
  | none =>
      have hobjection : Objection (Ordered.find? field members) .missing := by
        rw [hfind, hmissing]
      constructor
      · intro h
        cases h with
        | fine h => exact absurd hobjection (h _)
        | objection h =>
            rw [hfind, hmissing] at h
            rw [h]
            rfl
      · rintro rfl
        exact .objection hobjection

theorem fieldIssues_optional {default : α} (habsent : ∀ c, ¬ Objection none c)
    (hcheck : ∀ j c, check (Data.ofJson j) = .error c ↔ Objection (some j) c) :
    FieldIssues Objection members field is ↔
      Checked.issues (optional field default check (Data.ofJsonMembers members)) = is := by
  rw [optional, entry?_ofJsonMembers]
  cases hfind : Ordered.find? field members with
  | some j => exact fieldIssues_of_find? hcheck hfind
  | none =>
      have hfine : ∀ c, ¬ Objection (Ordered.find? field members) c := by
        rw [hfind]
        exact habsent
      constructor
      · intro h
        cases h with
        | fine => rfl
        | objection h => exact absurd h (hfine _)
      · rintro rfl
        exact .fine hfine

end Fields

variable {is : List Issue}

theorem nameIssues_iff :
    FieldIssues NameObjection members "alias" is ↔
      Checked.issues (required "alias" name (Data.ofJsonMembers members)) = is := by
  refine fieldIssues_required (fun c => ⟨?_, ?_⟩) fun _ _ => name_ofJson_eq_error_iff
  · rintro ⟨⟩
    rfl
  · rintro rfl
    exact .missing

theorem trimmedIssues_iff {field : String} {ofBlank : Complaint} :
    FieldIssues (TrimmedObjection ofBlank) members field is ↔
      Checked.issues (required field (trimmed ofBlank) (Data.ofJsonMembers members)) = is := by
  refine fieldIssues_required (fun c => ⟨?_, ?_⟩) fun _ _ => trimmed_ofJson_eq_error_iff
  · rintro ⟨⟩
    rfl
  · rintro rfl
    exact .missing

theorem textIssues_iff {field default : String} :
    FieldIssues TextObjection members field is ↔
      Checked.issues (optional field default text (Data.ofJsonMembers members)) = is :=
  fieldIssues_optional (fun c h => by cases h) fun _ _ => text_ofJson_eq_error_iff

theorem optionalTextIssues_iff {field : String} {default : Option String} :
    FieldIssues OptionalTextObjection members field is ↔
      Checked.issues (optional field default optionalText (Data.ofJsonMembers members)) = is :=
  fieldIssues_optional (fun c h => by cases h) fun _ _ => optionalText_ofJson_eq_error_iff

theorem truthIssues_iff {field : String} {default : Bool} :
    FieldIssues TruthObjection members field is ↔
      Checked.issues (optional field default truth (Data.ofJsonMembers members)) = is :=
  fieldIssues_optional (fun c h => by cases h) fun _ _ => truth_ofJson_eq_error_iff

theorem commonIssues_iff :
    CommonIssues members is ↔ Checked.issues (common (Data.ofJsonMembers members)) = is := by
  rw [common, Checked.issues_both, Checked.issues_both]
  constructor
  · rintro ⟨hname, htype, htext⟩
    rw [nameIssues_iff.1 hname, textIssues_iff.1 htype, optionalTextIssues_iff.1 htext]
  · rintro rfl
    exact .fields (nameIssues_iff.2 rfl) (textIssues_iff.2 rfl) (optionalTextIssues_iff.2 rfl)

theorem headerIssues_iff :
    HeaderIssues members is ↔ Checked.issues (header (Data.ofJsonMembers members)) = is := by
  rw [header, Checked.issues_map, Checked.issues_both, Checked.issues_both]
  constructor
  · rintro ⟨hcommon, hselector, hrepeated⟩
    rw [commonIssues_iff.1 hcommon, optionalTextIssues_iff.1 hselector,
      truthIssues_iff.1 hrepeated]
  · rintro rfl
    exact .fields (commonIssues_iff.2 rfl) (optionalTextIssues_iff.2 rfl) (truthIssues_iff.2 rfl)

end Check

end PageAtlas
