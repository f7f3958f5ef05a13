import PageAtlas.Proofs.Path.HopText

/-!
# The grammar of a hop

A token is read as the grammar says: by its qualified form if it has one, and
as an alias otherwise. A token may have several qualified forms, one for each
keyword in it; the one whose keyword stands furthest to the right decides. Its
index has to be a numeral of a positive number, and has to be short enough to
be read at all.
-/

namespace PageAtlas.Path

open Text

theorem Keyword.length_letters (k : Keyword) : k.letters.length = 2 := by
  cases k <;> rfl

theorem Keyword.letters_injective {k k' : Keyword} (h : k.letters = k'.letters) : k = k' := by
  cases k <;> cases k' <;> simp_all [letters]

/-- The parts of a qualified token, between which there are blanks. -/
structure Form where
  value : List Char
  pad : List Char
  keyword : Keyword
  pad' : List Char
  name : List Char

namespace Form

def place (s : Form) : Nat := (s.value ++ s.pad).length

def digits (s : Form) : List Char := trim s.value

/-- A token has a qualified form. -/
structure Of (token : List Char) (s : Form) : Prop where
  text : token = '#' :: (s.value ++ s.pad ++ s.keyword.letters ++ (s.pad' ++ s.name))
  value_ne_nil : s.value ≠ []
  ends : endsBlank s.value = false
  pad_ne_nil : s.pad ≠ []
  blank : allBlank s.pad = true
  pad'_ne_nil : s.pad' ≠ []
  blank' : allBlank s.pad' = true
  name_ne_nil : s.name ≠ []
  begins : beginsBlank s.name = false

/-- The form of a token whose keyword stands furthest to the right. -/
structure Last (token : List Char) (s : Form) : Prop where
  of : Of token s
  last : ∀ s', Of token s' → s'.place ≤ s.place

variable {token body : List Char} {s s' : Form}

/-! ## One form for each place -/

theorem Of.isCut (h : Of token s) :
    Qualifier.IsCut (s.value ++ s.pad) ⟨s.value, s.keyword, s.name⟩ (s.pad' ++ s.name) where
  ends := by rw [endsBlank_append h.pad_ne_nil, endsBlank_of_allBlank h.pad_ne_nil h.blank]
  begins := by rw [beginsBlank_append h.pad'_ne_nil, beginsBlank_of_allBlank h.pad'_ne_nil h.blank']
  value := by rw [trimEnd_append h.blank, trimEnd_eq_self h.ends]
  value_ne_nil := h.value_ne_nil
  name := by rw [trimStart_append h.blank', trimStart_eq_self h.begins]
  name_ne_nil := h.name_ne_nil

theorem exists_of_isCut {front after : List Char} {q : Qualifier}
    (hbody : body = front ++ q.keyword.letters ++ after) (h : Qualifier.IsCut front q after) :
    ∃ s, Of ('#' :: body) s ∧ s.value = q.value ∧ s.keyword = q.keyword ∧ s.name = q.name ∧
      s.value ++ s.pad = front := by
  obtain ⟨pad, hfront, hne, hblank⟩ := h.exists_front
  obtain ⟨pad', hafter, hne', hblank'⟩ := h.exists_after
  refine ⟨⟨q.value, pad, q.keyword, pad', q.name⟩, ?_, rfl, rfl, rfl, hfront.symm⟩
  refine ⟨?_, h.value_ne_nil, h.endsBlank_value, hne, hblank, hne', hblank', h.name_ne_nil,
    h.beginsBlank_name⟩
  rw [hbody, ← hfront, ← hafter]

theorem Of.eq_of_place_eq (h : Of token s) (h' : Of token s') (hplace : s.place = s'.place) :
    s = s' := by
  obtain ⟨v, w, k, u, a⟩ := s
  obtain ⟨v', w', k', u', a'⟩ := s'
  have htext := (List.cons.inj (h.text.symm.trans h'.text)).2
  simp only [List.append_assoc] at htext
  rw [← List.append_assoc v, ← List.append_assoc v'] at htext
  obtain ⟨hfront, hrest⟩ := List.append_inj htext hplace
  obtain ⟨hletters, hafter⟩ := List.append_inj hrest
    (by rw [Keyword.length_letters, Keyword.length_letters])
  have hvalue : v = v' := by
    have hv : v = trimEnd (v ++ w) := h.isCut.value
    have hv' : v' = trimEnd (v' ++ w') := h'.isCut.value
    rw [hv, hfront, ← hv']
  have hname : a = a' := by
    have ha : a = trimStart (u ++ a) := h.isCut.name
    have ha' : a' = trimStart (u' ++ a') := h'.isCut.name
    rw [ha, hafter, ← ha']
  cases hvalue
  cases hname
  cases Keyword.letters_injective hletters
  cases List.append_cancel_left hfront
  cases List.append_cancel_right hafter
  rfl

theorem Last.unique (h : Last token s) (h' : Last token s') : s = s' :=
  h.of.eq_of_place_eq h'.of (Nat.le_antisymm (h'.last s h.of) (h.last s' h'.of))

/-! ## Forms and what is read -/

theorem read?_eq_none_iff :
    Qualifier.read? body = none ↔ ∀ s, ¬ Of ('#' :: body) s := by
  rw [Qualifier.read?_eq_none_iff]
  constructor
  · intro h s hs
    exact h _ _ _ (List.cons.inj hs.text).2 hs.isCut
  · intro h front q after hbody hcut
    obtain ⟨s, hs, -⟩ := exists_of_isCut hbody hcut
    exact h s hs

theorem Last.read? (h : Last ('#' :: body) s) :
    Qualifier.read? body = some ⟨s.value, s.keyword, s.name⟩ := by
  refine Qualifier.read?_eq_some_iff.2
    ⟨s.value ++ s.pad, s.pad' ++ s.name, (List.cons.inj h.of.text).2, h.of.isCut, ?_⟩
  intro front q after hbody hcut
  obtain ⟨s', hs', -, -, -, hfront⟩ := exists_of_isCut hbody hcut
  have hplace := h.last s' hs'
  rw [place, hfront] at hplace
  exact hplace

theorem exists_last_of_read? {q : Qualifier} (h : Qualifier.read? body = some q) :
    ∃ s, Last ('#' :: body) s := by
  obtain ⟨front, after, hbody, hcut, hlater⟩ := Qualifier.read?_eq_some_iff.1 h
  obtain ⟨s, hs, -, -, -, hfront⟩ := exists_of_isCut hbody hcut
  refine ⟨s, hs, fun s' hs' => ?_⟩
  rw [place, place, hfront]
  exact hlater _ _ _ (List.cons.inj hs'.text).2 hs'.isCut

theorem exists_last (h : Of token s) : ∃ s', Last token s' := by
  have htoken := h.text
  cases hread : Qualifier.read? (s.value ++ s.pad ++ s.keyword.letters ++ (s.pad' ++ s.name)) with
  | none =>
      rw [htoken] at h
      exact absurd h (read?_eq_none_iff.1 hread s)
  | some q =>
      rw [htoken]
      exact exists_last_of_read? hread

end Form

def IsRun (ds : List Char) : Prop := ds ≠ [] ∧ ∀ c ∈ ds, c.isDigit = true

def numberOf (ds : List Char) : Nat := Nat.ofDigitChars 10 ds 0

theorem numberOf_zeros (n : Nat) : numberOf (List.replicate n '0') = 0 := by
  rw [numberOf, Nat.ofDigitChars_replicate_zero, Nat.mul_zero]

theorem isNumeral_iff {ds : List Char} : Numeral.isNumeral ds = true ↔ IsRun ds := by
  have hdigit : ∀ c : Char, Numeral.isDigit c = true ↔ c.isDigit = true := by
    intro c
    rw [Numeral.isDigit_iff, Char.isDigit_iff_toNat]
    exact Iff.rfl
  rw [Numeral.isNumeral, IsRun, Bool.and_eq_true, Bool.not_eq_true', List.isEmpty_eq_false_iff,
    List.all_eq_true]
  exact and_congr_right fun _ => forall₂_congr fun c _ => hdigit c

namespace Hop

/-- The grammar: what a token is read as. -/
inductive Reads (token : String) : Except Failure Hop → Prop where
  | plain (h : ∀ s, ¬ Form.Of token.toList s) : Reads token (.ok (.plain token))
  | text {s : Form} (h : Form.Last token.toList s) (hk : s.keyword = .inWord) :
      Reads token (.ok (.picked (String.ofList s.name) (.text (String.ofList s.value))))
  | index {s : Form} (h : Form.Last token.toList s) (hk : s.keyword = .ofWord)
      (hrun : IsRun s.digits) (hlength : s.digits.length ≤ 4300) (hpos : 1 ≤ numberOf s.digits) :
      Reads token (.ok (.picked (String.ofList s.name) (.index (numberOf s.digits))))
  | notNumeral {s : Form} (h : Form.Last token.toList s) (hk : s.keyword = .ofWord)
      (hrun : ¬ IsRun s.digits) :
      Reads token (.error (.malformedQualifier token
        ("index '" ++ String.ofList s.value ++ "' is not an integer")))
  | zero {s : Form} (h : Form.Last token.toList s) (hk : s.keyword = .ofWord)
      (hrun : IsRun s.digits) (hlength : s.digits.length ≤ 4300) (hzero : numberOf s.digits = 0) :
      Reads token (.error (.malformedQualifier token "indices start at 1"))
  | oversized {s : Form} (h : Form.Last token.toList s) (hk : s.keyword = .ofWord)
      (hrun : IsRun s.digits) (hlength : 4300 < s.digits.length) :
      Reads token (.error (.oversizedIndex s.digits.length))

/-! ## Indices -/

variable {token : String} {value : List Char}

theorem readIndex_of_not_isRun (h : ¬ IsRun (trim value)) :
    readIndex token value = .error (.malformedQualifier token
      ("index '" ++ String.ofList value ++ "' is not an integer")) := by
  have hnumeral : Numeral.isNumeral (trim value) = false := by
    rwa [← Bool.not_eq_true, isNumeral_iff]
  rw [readIndex]
  simp only [hnumeral]
  rfl

theorem readIndex_of_isRun (h : IsRun (trim value)) :
    readIndex token value =
      if 4300 < (trim value).length then .error (.oversizedIndex (trim value).length)
      else if numberOf (trim value) < 1 then .error (.malformedQualifier token "indices start at 1")
      else .ok (numberOf (trim value)) := by
  have hnumeral : Numeral.isNumeral (trim value) = true := isNumeral_iff.2 h
  rw [readIndex]
  simp only [hnumeral, Numeral.value_eq_ofDigitChars]
  rfl

/-! ## Reading by the grammar -/

theorem body_of_last {s : Form} (h : Form.Last token.toList s) :
    ∃ body, token.toList = '#' :: body ∧
      Qualifier.read? body = some ⟨s.value, s.keyword, s.name⟩ := by
  have htext := h.of.text
  refine ⟨_, htext, ?_⟩
  rw [htext] at h
  exact h.read?

theorem parse_of_inWord {s : Form} (h : Form.Last token.toList s) (hk : s.keyword = .inWord) :
    parse token = .ok (picked (String.ofList s.name) (.text (String.ofList s.value))) := by
  obtain ⟨body, hbody, hread⟩ := body_of_last h
  rw [hk] at hread
  exact parse_inWord hbody hread

theorem parse_of_ofWord {s : Form} (h : Form.Last token.toList s) (hk : s.keyword = .ofWord) :
    parse token = (readIndex token s.value).map fun (n : Nat) =>
      picked (String.ofList s.name) (.index n) := by
  obtain ⟨body, hbody, hread⟩ := body_of_last h
  rw [hk] at hread
  exact parse_ofWord hbody hread

theorem parse_of_no_form (h : ∀ s, ¬ Form.Of token.toList s) :
    parse token = .ok (plain token) := by
  refine parse_eq_plain fun body hbody => ?_
  rw [hbody] at h
  exact Form.read?_eq_none_iff.2 h

theorem reads_of_ofWord {s : Form} (h : Form.Last token.toList s) (hk : s.keyword = .ofWord) :
    Reads token ((readIndex token s.value).map fun (n : Nat) =>
      picked (String.ofList s.name) (.index n)) := by
  by_cases hrun : IsRun s.digits
  · rw [readIndex_of_isRun hrun, ← Form.digits]
    by_cases hlength : 4300 < s.digits.length
    · rw [if_pos hlength]
      exact .oversized h hk hrun hlength
    · have hshort : s.digits.length ≤ 4300 := Nat.le_of_not_lt hlength
      rw [if_neg hlength]
      by_cases hzero : numberOf s.digits < 1
      · rw [if_pos hzero]
        exact .zero h hk hrun hshort (Nat.lt_one_iff.1 hzero)
      · rw [if_neg hzero]
        exact .index h hk hrun hshort (Nat.le_of_not_lt hzero)
  · rw [readIndex_of_not_isRun hrun]
    exact .notNumeral h hk hrun

theorem reads_parse (token : String) : Reads token (parse token) := by
  by_cases hplain : ∀ s, ¬ Form.Of token.toList s
  · rw [parse_of_no_form hplain]
    exact .plain hplain
  · obtain ⟨s, hs⟩ := not_forall_not.1 hplain
    obtain ⟨s, hlast⟩ := Form.exists_last hs
    cases hk : s.keyword with
    | inWord =>
        rw [parse_of_inWord hlast hk]
        exact .text hlast hk
    | ofWord =>
        rw [parse_of_ofWord hlast hk]
        exact reads_of_ofWord hlast hk

theorem parse_of_reads {r : Except Failure Hop} (h : Reads token r) : parse token = r := by
  cases h with
  | plain hnone => exact parse_of_no_form hnone
  | text h hk => exact parse_of_inWord h hk
  | index h hk hrun hlength hpos =>
      have hlong : ¬ 4300 < (trim _).length := Nat.not_lt.2 hlength
      have hzero : ¬ numberOf (trim _) < 1 := Nat.not_lt.2 hpos
      rw [parse_of_ofWord h hk, readIndex_of_isRun hrun, if_neg hlong, if_neg hzero]
      rfl
  | notNumeral h hk hrun =>
      rw [parse_of_ofWord h hk, readIndex_of_not_isRun hrun]
      rfl
  | zero h hk hrun hlength hzero =>
      have hlong : ¬ 4300 < (trim _).length := Nat.not_lt.2 hlength
      have hone : numberOf (trim _) < 1 := Nat.lt_one_iff.2 hzero
      rw [parse_of_ofWord h hk, readIndex_of_isRun hrun, if_neg hlong, if_pos hone]
      rfl
  | oversized h hk hrun hlength =>
      have hlong : 4300 < (trim _).length := hlength
      rw [parse_of_ofWord h hk, readIndex_of_isRun hrun, if_pos hlong]
      rfl

/-- Reading a token is the grammar: an alias unless it has a qualified form, of
which there is one whose keyword stands furthest to the right. -/
theorem parse_eq_iff_reads (token : String) :
    (∀ r, parse token = r ↔ Reads token r) ∧
    (token.toList.head? ≠ some '#' → parse token = .ok (plain token)) ∧
    ((∃ s, Form.Of token.toList s) → ∃! s, Form.Last token.toList s) := by
  refine ⟨fun r => ⟨?_, parse_of_reads⟩, fun hhead => ?_, ?_⟩
  · rintro rfl
    exact reads_parse token
  · apply parse_of_no_form
    intro s hs
    rw [hs.text] at hhead
    exact hhead rfl
  · rintro ⟨s, hs⟩
    obtain ⟨s', hlast⟩ := Form.exists_last hs
    exact ⟨s', hlast, fun s'' h => h.unique hlast⟩

/-- Nothing but blanks follows the keyword on the right, so it belongs to the name. -/
theorem parse_eq_iff_reads_trailing :
    Form.Of "# 02 of in  ".toList ⟨[' ', '0', '2'], [' '], .ofWord, [' '], ['i', 'n', ' ', ' ']⟩ ∧
    (∃! s, Form.Last "# 02 of in  ".toList s) ∧
    Reads "# 02 of in  " (.ok (.picked "in  " (.index 2))) := by
  obtain ⟨hreads, -, hunique⟩ := parse_eq_iff_reads "# 02 of in  "
  have hof : Form.Of "# 02 of in  ".toList
      ⟨[' ', '0', '2'], [' '], .ofWord, [' '], ['i', 'n', ' ', ' ']⟩ := by
    constructor <;> decide
  exact ⟨hof, hunique ⟨_, hof⟩, (hreads _).1 (by rfl)⟩

/-- The smallest run of zeros that is too long to be read as a number. -/
def longZeros : List Char := List.replicate 4301 '0'

def longZerosToken : String := String.ofList ('#' :: (longZeros ++ " of A".toList))

theorem longZeros_ne_nil : longZeros ≠ [] := by
  apply List.ne_nil_of_length_pos
  rw [longZeros, List.length_replicate]
  decide

theorem trim_longZeros : trim longZeros = longZeros := by
  have hbegins : beginsBlank longZeros = false := by
    rw [beginsBlank, longZeros, List.head?_replicate]
    decide
  have hends : endsBlank longZeros = false := by
    rw [endsBlank, longZeros, List.getLast?_replicate]
    decide
  rw [trim, trimStart_eq_self hbegins, trimEnd_eq_self hends]

theorem last_longZerosToken :
    ∃ s, Form.Last longZerosToken.toList s ∧ s.keyword = .ofWord ∧ s.value = longZeros := by
  have hends : endsBlank longZeros = false := by
    rw [← trim_longZeros]
    exact endsBlank_trim longZeros
  have hkeyword : ¬ Qualifier.HasKeyword ['A'] := by
    rintro ⟨u, k, w, r, hname, -⟩
    have hlength := congrArg List.length hname
    simp only [List.length_append, k.length_letters, List.length_singleton] at hlength
    omega
  have hread := Qualifier.read?_append .ofWord longZeros_ne_nil hends
    (List.cons_ne_nil 'A' []) (by decide) hkeyword
  obtain ⟨s, hlast⟩ := Form.exists_last_of_read? hread
  have hs := hlast.read?
  rw [hread, Option.some.injEq, Qualifier.mk.injEq] at hs
  refine ⟨s, ?_, hs.2.1.symm, hs.1.symm⟩
  rw [longZerosToken, String.toList_ofList]
  simpa [Keyword.letters] using hlast

/-- A run of digits with the value zero is not refused as an index below one if it
is too long to be read. -/
theorem not_malformed_longZeros :
    ∃ s, Form.Last longZerosToken.toList s ∧ s.keyword = .ofWord ∧ IsRun s.digits ∧
      numberOf s.digits = 0 ∧ parse longZerosToken = .error (.oversizedIndex 4301) ∧
      ∀ reason, parse longZerosToken ≠ .error (.malformedQualifier longZerosToken reason) := by
  obtain ⟨s, hlast, hk, hvalue⟩ := last_longZerosToken
  have hdigits : s.digits = longZeros := by rw [Form.digits, hvalue, trim_longZeros]
  have hrun : IsRun s.digits := by
    rw [hdigits]
    refine ⟨longZeros_ne_nil, fun c hc => ?_⟩
    rw [List.eq_of_mem_replicate hc]
    decide
  have hlength : s.digits.length = 4301 := by rw [hdigits, longZeros, List.length_replicate]
  have hnumber : numberOf s.digits = 0 := by
    rw [hdigits, longZeros, numberOf_zeros]
  have hparse : parse longZerosToken = .error (.oversizedIndex 4301) := by
    rw [← hlength]
    exact parse_of_reads (.oversized hlast hk hrun (by omega))
  refine ⟨s, hlast, hk, hrun, hnumber, hparse, fun reason h => ?_⟩
  rw [hparse] at h
  cases h

end Hop

end PageAtlas.Path
