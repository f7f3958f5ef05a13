import Mathlib.Data.List.Forall2
import PageAtlas.Proofs.Definition.Registered
import PageAtlas.Proofs.Resolution.Outcome

/-!
# All or nothing

The documents of a file are read one after another, and the first that is neither empty
nor a page definition stops the reading: nothing is returned then. Otherwise there is one
definition for each document that is not empty, and a page is selected among them.
-/

namespace PageAtlas

namespace Yaml.Document

def isNull : Document → Bool
  | data .null => true
  | _ => false

/-- A table that passes the check once references are replaced. -/
def Defines (env : Environment) (doc : Document) (p : PageDef) : Prop :=
  ∃ entries, doc = data (.table entries) ∧ Check.page (Substitution.inEntries env entries) = .ok p

/-- What a document is refused for: it is no table, or the check has complaints, or it
contains itself. -/
inductive Offends (env : Environment) (file : String) (place : Nat) : Document → LoadFault → Prop
  | notTable {d : Data} (hnull : d ≠ .null) (htable : ∀ entries, d ≠ .table entries) :
      Offends env file place (data d) (.notTable place file)
  | invalid {entries : List (Data × Data)} {issues : List Issue}
      (h : Check.page (Substitution.inEntries env entries) = .error issues) :
      Offends env file place (data (.table entries)) (.invalid file place issues)
  | endlessTable : Offends env file place (endless true) (.noValue .endless)
  | endlessList : Offends env file place (endless false) (.notTable place file)

end Yaml.Document

open Yaml (Document)

namespace PageDef

variable {env : Environment} {file path : String} {place : Nat} {doc : Document}
  {docs : List Document}

def ofYamlDocument (env : Environment) (file : String) (place : Nat) :
    Document → Except LoadFault (Option PageDef)
  | .data .null => .ok none
  | .data d =>
      match ofDocument env file place d with
      | .ok p => .ok (some p)
      | .error e => .error e
  | .endless true => .error (.noValue .endless)
  | .endless false => .error (.notTable place file)

def ofYamlFrom (env : Environment) (file : String) :
    Nat → List Document → Except LoadFault (List PageDef)
  | _, [] => .ok []
  | place, doc :: docs =>
      match ofYamlDocument env file place doc with
      | .error e => .error e
      | .ok p =>
          match ofYamlFrom env file (place + 1) docs with
          | .error e => .error e
          | .ok ps => .ok (p.toList ++ ps)

def ofYaml (env : Environment) (file : String) (docs : List Document) :
    Except LoadFault (List PageDef) :=
  match ofYamlFrom env file 1 docs with
  | .ok [] => .error (.noDefinitions file)
  | r => r

/-! ## Loading is reading the documents in turn -/

theorem ofDocumentsFrom_cons (place : Nat) (d : Data) (ds : List Data) :
    ofDocumentsFrom env file place (d :: ds) =
      match ofYamlDocument env file place (.data d) with
      | .error e => .error e
      | .ok p =>
          match ofDocumentsFrom env file (place + 1) ds with
          | .error e => .error e
          | .ok ps => .ok (p.toList ++ ps) := by
  cases d with
  | null =>
      rw [ofDocumentsFrom, ofYamlDocument]
      cases ofDocumentsFrom env file (place + 1) ds <;> rfl
  | _ =>
      rw [ofDocumentsFrom, ofYamlDocument]
      · cases ofDocument env file place _ <;> rfl
      · exact Data.noConfusion
      · exact Data.noConfusion

theorem ofYamlFrom_eq_finite (docs : List Document) (place : Nat) :
    ofYamlFrom env file place docs =
      match Document.finite docs with
      | (finite, none) => ofDocumentsFrom env file place finite
      | (finite, some isTable) =>
          match ofDocumentsFrom env file place finite with
          | .error e => .error e
          | .ok _ =>
              if isTable then .error (.noValue .endless)
              else .error (.notTable (place + finite.length) file) := by
  induction docs generalizing place with
  | nil => rfl
  | cons doc docs ih =>
      cases doc with
      | endless isTable => cases isTable <;> rfl
      | data d =>
          rw [ofYamlFrom, ih, Document.finite]
          obtain ⟨finite, rest⟩ := Document.finite docs
          cases rest with
          | none => exact (ofDocumentsFrom_cons place d finite).symm
          | some isTable =>
              dsimp only
              rw [ofDocumentsFrom_cons, List.length_cons, Nat.add_right_comm, Nat.add_assoc]
              cases ofYamlDocument env file place (.data d) with
              | error e => rfl
              | ok p =>
                  cases ofDocumentsFrom env file (place + 1) finite with
                  | error e => rfl
                  | ok ps => cases isTable <;> rfl

theorem load_of_documents {source : Source} (h : source.documents file = .ok docs) :
    load env file source = ofYaml env.spelled file docs := by
  rw [load, h, ofYaml, ofYamlFrom_eq_finite]
  dsimp only
  obtain ⟨finite, rest⟩ := Document.finite docs
  cases rest with
  | none => rfl
  | some isTable =>
      dsimp only
      rw [Nat.add_comm 1]
      cases ofDocumentsFrom env.spelled file 1 finite with
      | error e => rfl
      | ok ps => cases isTable <;> rfl

/-! ## What the documents come to -/

theorem ofYamlDocument_table (entries : List (Data × Data)) :
    ofYamlDocument env file place (.data (.table entries)) =
      match Check.page (Substitution.inEntries env entries) with
      | .ok p => .ok (some p)
      | .error issues => .error (.invalid file place issues) := by
  rw [ofYamlDocument, ofDocument, Substitution.inData]
  · dsimp only
    cases Check.page (Substitution.inEntries env entries) <;> rfl
  · exact Data.noConfusion

theorem ofYamlDocument_other {d : Data} (hnull : d ≠ .null) (htable : ∀ entries, d ≠ .table entries) :
    ofYamlDocument env file place (.data d) = .error (.notTable place file) := by
  cases d with
  | null => exact absurd rfl hnull
  | table entries => exact absurd rfl (htable entries)
  | _ => rfl

theorem ofYamlDocument_eq_none_iff :
    ofYamlDocument env file place doc = .ok none ↔ doc.isNull = true := by
  cases doc with
  | endless isTable => cases isTable <;> simp [ofYamlDocument, Document.isNull]
  | data d =>
      cases d with
      | null => exact iff_of_true rfl rfl
      | table entries =>
          rw [ofYamlDocument_table]
          cases Check.page (Substitution.inEntries env entries) <;> simp [Document.isNull]
      | _ => exact iff_of_false (by simp [ofYamlDocument_other]) (by simp [Document.isNull])

theorem ofYamlDocument_eq_some_iff {p : PageDef} :
    ofYamlDocument env file place doc = .ok (some p) ↔ doc.Defines env p := by
  constructor
  · intro h
    cases doc with
    | endless isTable => cases isTable <;> cases h
    | data d =>
        cases d with
        | table entries =>
            rw [ofYamlDocument_table] at h
            cases hpage : Check.page (Substitution.inEntries env entries) with
            | ok p' =>
                rw [hpage] at h
                cases h
                exact ⟨entries, rfl, hpage⟩
            | error issues =>
                rw [hpage] at h
                cases h
        | _ => cases h
  · rintro ⟨entries, rfl, hpage⟩
    rw [ofYamlDocument_table, hpage]

theorem ofYamlDocument_eq_error_iff {e : LoadFault} :
    ofYamlDocument env file place doc = .error e ↔ doc.Offends env file place e := by
  constructor
  · intro h
    cases doc with
    | endless isTable =>
        cases isTable with
        | false =>
            cases h
            exact .endlessList
        | true =>
            cases h
            exact .endlessTable
    | data d =>
        cases d with
        | null => cases h
        | table entries =>
            rw [ofYamlDocument_table] at h
            cases hpage : Check.page (Substitution.inEntries env entries) with
            | ok p =>
                rw [hpage] at h
                cases h
            | error issues =>
                rw [hpage] at h
                cases h
                exact .invalid hpage
        | _ =>
            cases h
            exact .notTable Data.noConfusion fun _ => Data.noConfusion
  · intro h
    cases h with
    | notTable hnull htable => exact ofYamlDocument_other hnull htable
    | invalid hpage => rw [ofYamlDocument_table, hpage]
    | endlessTable => rfl
    | endlessList => rfl

theorem exists_ofYamlDocument_iff :
    (∃ p, ofYamlDocument env file place doc = .ok p) ↔
      doc.isNull = true ∨ ∃ p, doc.Defines env p := by
  rw [Option.exists, ofYamlDocument_eq_none_iff]
  simp only [ofYamlDocument_eq_some_iff]

theorem ofYamlFrom_eq_ok_iff {ps : List PageDef} :
    ofYamlFrom env file place docs = .ok ps ↔
      List.Forall₂ (Document.Defines env) (docs.filter fun doc => !doc.isNull) ps := by
  induction docs generalizing place ps with
  | nil => simp [ofYamlFrom, eq_comm]
  | cons doc docs ih =>
      have hnull : ofYamlDocument env file place doc = .ok none ↔ doc.isNull = true :=
        ofYamlDocument_eq_none_iff
      have hdefines (p : PageDef) :
          ofYamlDocument env file place doc = .ok (some p) ↔ doc.Defines env p :=
        ofYamlDocument_eq_some_iff
      rw [ofYamlFrom]
      rcases h : ofYamlDocument env file place doc with e | _ | p
      · have hkept : doc.isNull = false := by simpa [h] using hnull
        rw [List.filter_cons_of_pos (by simpa using hkept), List.forall₂_cons_left_iff]
        simp [← hdefines, h]
      · rw [List.filter_cons_of_neg (by simpa using hnull.1 h), ← ih]
        cases ofYamlFrom env file (place + 1) docs <;> simp
      · have hkept : doc.isNull = false := by simpa [h] using hnull
        rw [List.filter_cons_of_pos (by simpa using hkept), List.forall₂_cons_left_iff]
        have hrest (ps : List PageDef) : ofYamlFrom env file (place + 1) docs = .ok ps ↔
            List.Forall₂ (Document.Defines env) (docs.filter fun doc => !doc.isNull) ps := ih
        simp only [← hdefines, h, ← hrest]
        cases ofYamlFrom env file (place + 1) docs <;> simp [eq_comm]

/-- One document is refused, and those before it are empty or define a page. -/
def FirstOffends (env : Environment) (file : String) (place : Nat) (docs : List Document)
    (e : LoadFault) : Prop :=
  ∃ before doc after, docs = before ++ doc :: after ∧
    (∀ d ∈ before, d.isNull = true ∨ ∃ p, d.Defines env p) ∧
    doc.Offends env file (place + before.length) e

theorem firstOffends_cons_iff {e : LoadFault} :
    FirstOffends env file place (doc :: docs) e ↔ doc.Offends env file place e ∨
      (doc.isNull = true ∨ ∃ p, doc.Defines env p) ∧ FirstOffends env file (place + 1) docs e := by
  have hplace (n : Nat) : place + (n + 1) = place + 1 + n := by omega
  constructor
  · rintro ⟨before, doc', after, hdocs, hbefore, hoffends⟩
    cases before with
    | nil =>
        cases hdocs
        exact Or.inl hoffends
    | cons d before =>
        cases hdocs
        obtain ⟨hd, hbefore⟩ := List.forall_mem_cons.1 hbefore
        rw [List.length_cons, hplace] at hoffends
        exact Or.inr ⟨hd, before, doc', after, rfl, hbefore, hoffends⟩
  · rintro (hoffends | ⟨hd, before, doc', after, rfl, hbefore, hoffends⟩)
    · exact ⟨[], doc, docs, rfl, List.forall_mem_nil _, hoffends⟩
    · refine ⟨doc :: before, doc', after, rfl, List.forall_mem_cons.2 ⟨hd, hbefore⟩, ?_⟩
      rw [List.length_cons, hplace]
      exact hoffends

theorem ofYamlFrom_eq_error_iff {e : LoadFault} :
    ofYamlFrom env file place docs = .error e ↔ FirstOffends env file place docs e := by
  induction docs generalizing place with
  | nil => simp [ofYamlFrom, FirstOffends]
  | cons doc docs ih =>
      have hpasses : (∃ p, ofYamlDocument env file place doc = .ok p) ↔
          doc.isNull = true ∨ ∃ p, doc.Defines env p := exists_ofYamlDocument_iff
      rw [firstOffends_cons_iff, ← ih, ← ofYamlDocument_eq_error_iff, ← hpasses, ofYamlFrom]
      cases ofYamlDocument env file place doc with
      | error e' => simp
      | ok p => cases ofYamlFrom env file (place + 1) docs <;> simp

/-! ## The file and its pages -/

theorem ofYaml_eq_ok_iff_ofYamlFrom {ps : List PageDef} :
    ofYaml env file docs = .ok ps ↔ ps ≠ [] ∧ ofYamlFrom env file 1 docs = .ok ps := by
  rw [ofYaml]
  rcases ofYamlFrom env file 1 docs with e | _ | ⟨p, ps'⟩ <;> grind

theorem ne_nil_of_ofYaml {ps : List PageDef} (h : ofYaml env file docs = .ok ps) : ps ≠ [] :=
  (ofYaml_eq_ok_iff_ofYamlFrom.1 h).1

theorem ofYaml_eq_ok_iff {ps : List PageDef} :
    ofYaml env file docs = .ok ps ↔ (∃ doc ∈ docs, doc.isNull = false) ∧
      List.Forall₂ (Document.Defines env) (docs.filter fun doc => !doc.isNull) ps := by
  rw [ofYaml_eq_ok_iff_ofYamlFrom, ofYamlFrom_eq_ok_iff]
  refine and_congr_left fun hall => ?_
  have hnil : ps = [] ↔ docs.filter (fun doc => !doc.isNull) = [] := by
    rw [← List.length_eq_zero_iff, ← hall.length_eq, List.length_eq_zero_iff]
  rw [Ne, hnil, List.filter_eq_nil_iff]
  simp

theorem ofYaml_eq_error_iff {e : LoadFault} :
    ofYaml env file docs = .error e ↔
      ((∀ doc ∈ docs, doc.isNull = true) ∧ e = .noDefinitions file) ∨
        ∃ before doc after, docs = before ++ doc :: after ∧
          (∀ d ∈ before, d.isNull = true ∨ ∃ p, d.Defines env p) ∧
          doc.Offends env file (before.length + 1) e := by
  have hfrom : ofYaml env file docs = .error e ↔
      (ofYamlFrom env file 1 docs = .ok [] ∧ e = .noDefinitions file) ∨
        ofYamlFrom env file 1 docs = .error e := by
    rw [ofYaml]
    rcases ofYamlFrom env file 1 docs with e' | _ | ⟨p, ps⟩ <;> simp [eq_comm]
  rw [hfrom, ofYamlFrom_eq_error_iff, ofYamlFrom_eq_ok_iff, List.forall₂_nil_right_iff,
    List.filter_eq_nil_iff]
  simp [FirstOffends, Nat.add_comm 1]

theorem accepted_of_ofYaml {ps : List PageDef} (h : ofYaml env file docs = .ok ps) :
    ∀ p ∈ ps, p.Accepted := by
  obtain ⟨-, hall⟩ := ofYaml_eq_ok_iff.1 h
  generalize docs.filter (fun doc => !doc.isNull) = kept at hall
  clear h
  induction hall with
  | nil =>
      intro p hp
      cases hp
  | cons hdefines _ ih =>
      obtain ⟨entries, -, hpage⟩ := hdefines
      exact List.forall_mem_cons.2 ⟨Check.accepted_of_page hpage, ih⟩

/-! ## One of the pages -/

variable {ps : List PageDef} {p : PageDef} {root : Block}

theorem select_none_eq_ok_iff : select path none ps = .ok p ↔ ∃ rest, ps = p :: rest := by
  cases ps with
  | nil => simp [select]
  | cons p' rest => simp [select]

theorem select_some_eq_ok_iff {name : String} :
    select path (some name) ps = .ok p ↔
      ∃ before after, ps = before ++ p :: after ∧ (∀ q ∈ before, q.page ≠ name) ∧ p.page = name := by
  have hfind : select path (some name) ps = .ok p ↔
      (ps.find? fun p => p.page == name) = some p := by
    rw [select]
    cases ps.find? fun p => p.page == name <;> simp
  rw [hfind, List.find?_eq_some_iff_append]
  simp only [beq_iff_eq, Bool.not_eq_true']
  grind

theorem select_eq_error_iff (hps : ps ≠ []) {name : Option String} {e : LoadFault} :
    select path name ps = .error e ↔
      ∃ sought, name = some sought ∧ (∀ p ∈ ps, p.page ≠ sought) ∧
        e = .noPage sought path (ps.map page) := by
  cases name with
  | none =>
      obtain ⟨p, rest, rfl⟩ := List.exists_cons_of_ne_nil hps
      simp [select]
  | some sought =>
      have hfind : select path (some sought) ps = .error e ↔
          (ps.find? fun p => p.page == sought) = none ∧ e = .noPage sought path (ps.map page) := by
        rw [select]
        cases ps.find? fun p => p.page == sought <;> simp [eq_comm]
      rw [hfind, List.find?_eq_none]
      simp

theorem mem_of_select {name : Option String} (h : select path name ps = .ok p) : p ∈ ps := by
  cases name with
  | none =>
      obtain ⟨rest, rfl⟩ := select_none_eq_ok_iff.1 h
      exact List.mem_cons_self
  | some name =>
      obtain ⟨before, after, rfl, -, -⟩ := select_some_eq_ok_iff.1 h
      simp

theorem buildSelected_eq_ok_iff {name : Option String} :
    buildSelected path name ps = .ok root ↔ ∃ p, select path name ps = .ok p ∧ p.build = .ok root := by
  rw [buildSelected]
  cases select path name ps with
  | error e => simp
  | ok p => cases hbuild : p.build <;> simp [hbuild]

theorem buildSelected_eq_error_iff (h : ∀ p ∈ ps, p.Accepted) {name : Option String}
    {e : LoadFault} : buildSelected path name ps = .error e ↔ select path name ps = .error e := by
  rw [buildSelected]
  cases hselect : select path name ps with
  | error e' => simp
  | ok p =>
      have hbuild := (h p (mem_of_select hselect)).build
      simp [hbuild]

section Selected

variable {loaded : Except LoadFault (List PageDef)}

theorem selected_eq_ok_iff {name : Option String} :
    loaded.bind (buildSelected path name) = .ok root ↔
      ∃ ps p, loaded = .ok ps ∧ select path name ps = .ok p ∧ p.build = .ok root := by
  rw [Outcome.bind_eq_ok_iff]
  simp only [buildSelected_eq_ok_iff]
  grind

theorem selected_first_iff :
    loaded.bind (buildSelected path none) = .ok root ↔
      ∃ p ps, loaded = .ok (p :: ps) ∧ p.build = .ok root := by
  rw [selected_eq_ok_iff]
  constructor
  · rintro ⟨ps, p, hps, hselect, hbuild⟩
    obtain ⟨rest, rfl⟩ := select_none_eq_ok_iff.1 hselect
    exact ⟨p, rest, hps, hbuild⟩
  · rintro ⟨p, rest, hps, hbuild⟩
    exact ⟨_, p, hps, select_none_eq_ok_iff.2 ⟨rest, rfl⟩, hbuild⟩

theorem selected_named_iff {name : String} :
    loaded.bind (buildSelected path (some name)) = .ok root ↔
      ∃ before p after, loaded = .ok (before ++ p :: after) ∧
        (∀ q ∈ before, q.page ≠ name) ∧ p.page = name ∧ p.build = .ok root := by
  rw [selected_eq_ok_iff]
  constructor
  · rintro ⟨ps, p, hps, hselect, hbuild⟩
    obtain ⟨before, after, rfl, hbefore, hp⟩ := select_some_eq_ok_iff.1 hselect
    exact ⟨before, p, after, hps, hbefore, hp, hbuild⟩
  · rintro ⟨before, p, after, hps, hbefore, hp, hbuild⟩
    exact ⟨_, p, hps, select_some_eq_ok_iff.2 ⟨before, after, rfl, hbefore, hp⟩, hbuild⟩

theorem selected_eq_error_iff (h : ∀ ps, loaded = .ok ps → ps ≠ [] ∧ ∀ p ∈ ps, p.Accepted)
    {name : Option String} {e : LoadFault} :
    loaded.bind (buildSelected path name) = .error e ↔ loaded = .error e ∨
      ∃ sought ps, name = some sought ∧ loaded = .ok ps ∧ (∀ p ∈ ps, p.page ≠ sought) ∧
        e = .noPage sought path (ps.map page) := by
  rw [Outcome.bind_eq_error_iff]
  refine or_congr_right ?_
  constructor
  · rintro ⟨ps, hps, hbuild⟩
    obtain ⟨hne, haccepted⟩ := h ps hps
    rw [buildSelected_eq_error_iff haccepted, select_eq_error_iff hne] at hbuild
    obtain ⟨sought, rfl, hall, rfl⟩ := hbuild
    exact ⟨sought, ps, rfl, hps, hall, rfl⟩
  · rintro ⟨sought, ps, rfl, hps, hall, rfl⟩
    obtain ⟨hne, haccepted⟩ := h ps hps
    refine ⟨ps, hps, ?_⟩
    rw [buildSelected_eq_error_iff haccepted, select_eq_error_iff hne]
    exact ⟨sought, rfl, hall, rfl⟩

end Selected

/-- Loading is all or nothing, and a page is selected from all that was loaded. -/
theorem ofYaml_all_or_nothing (env : Environment) (file path : String) (docs : List Document) :
    let loaded := ofYaml env file docs
    let selected (name : Option String) := loaded.bind (buildSelected path name)
    (∀ source given, given.spelled = env → source.documents file = .ok docs →
      load given file source = loaded) ∧
    (∀ ps, loaded = .ok ps ↔ (∃ doc ∈ docs, doc.isNull = false) ∧
      List.Forall₂ (Document.Defines env) (docs.filter fun doc => !doc.isNull) ps) ∧
    (∀ e, loaded = .error e ↔
      ((∀ doc ∈ docs, doc.isNull = true) ∧ e = .noDefinitions file) ∨
        ∃ before doc after, docs = before ++ doc :: after ∧
          (∀ d ∈ before, d.isNull = true ∨ ∃ p, d.Defines env p) ∧
          doc.Offends env file (before.length + 1) e) ∧
    (∀ root, selected none = .ok root ↔
      ∃ p ps, loaded = .ok (p :: ps) ∧ p.build = .ok root) ∧
    (∀ name root, selected (some name) = .ok root ↔
      ∃ before p after, loaded = .ok (before ++ p :: after) ∧
        (∀ q ∈ before, q.page ≠ name) ∧ p.page = name ∧ p.build = .ok root) ∧
    (∀ name e, selected name = .error e ↔ loaded = .error e ∨
      ∃ sought ps, name = some sought ∧ loaded = .ok ps ∧ (∀ p ∈ ps, p.page ≠ sought) ∧
        e = .noPage sought path (ps.map page)) ∧
    ∀ ps p, loaded = .ok ps → p ∈ ps → Text.Stripped p.page ∧ p.build = .ok p.root := by
  intro loaded selected
  have hloaded : ∀ ps, loaded = .ok ps → ps ≠ [] ∧ ∀ p ∈ ps, p.Accepted :=
    fun ps h => ⟨ne_nil_of_ofYaml h, accepted_of_ofYaml h⟩
  refine ⟨fun source given henv hdocs => ?_, fun ps => ofYaml_eq_ok_iff,
    fun e => ofYaml_eq_error_iff, fun root => selected_first_iff,
    fun name root => selected_named_iff, fun name e => selected_eq_error_iff hloaded,
    fun ps p h hp => ?_⟩
  · rw [load_of_documents hdocs, henv]
  have haccepted := (hloaded ps h).2 p hp
  exact ⟨haccepted.page, haccepted.build⟩

def listedLast : List Document :=
  [.data .null, .data (.table [(.text "page", .text " Shop ")]), .data (.list [])]

/-- The list is the third document, and keeps the page before it from being found. -/
theorem ofYaml_all_or_nothing_list :
    ofYaml [] "pages.yaml" listedLast = .error (.notTable 3 "pages.yaml") ∧
    (ofYaml [] "pages.yaml" listedLast).bind (buildSelected "pages.yaml" (some "Shop")) =
      .error (.notTable 3 "pages.yaml") := by
  obtain ⟨-, -, herror, -, -, hselected, -⟩ :=
    ofYaml_all_or_nothing [] "pages.yaml" "pages.yaml" listedLast
  have hpage : (listedLast[1]).Defines [] { page := "Shop" } :=
    ⟨_, rfl, Outcome.eq_ok_of_toOption (by decide +kernel)⟩
  have hload : ofYaml [] "pages.yaml" listedLast = .error (.notTable 3 "pages.yaml") := by
    refine (herror _).2 (Or.inr ⟨[_, listedLast[1]], _, [], rfl, ?_, .notTable ?_ ?_⟩)
    · rw [List.forall_mem_cons, List.forall_mem_singleton]
      exact ⟨Or.inl rfl, Or.inr ⟨_, hpage⟩⟩
    · exact Data.noConfusion
    · exact fun _ => Data.noConfusion
  exact ⟨hload, (hselected _ _).2 (Or.inl hload)⟩

end PageDef

end PageAtlas
