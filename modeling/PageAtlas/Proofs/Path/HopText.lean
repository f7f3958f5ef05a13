import PageAtlas.Path.Hop
import PageAtlas.Proofs.Path.Qualifier
import PageAtlas.Proofs.Text.Numeral

/-!
# The text of one hop

A readable hop is parsed back from its text, and parsing a token gives a
readable hop. The texts of that hop are parts of the token.
-/

namespace PageAtlas.Path

open Text

namespace Hop

/-- A name after a keyword keeps its first character and the last keyword. -/
structure Follows (name : List Char) : Prop where
  ne_nil : name ≠ []
  begins : beginsBlank name = false
  notKeyword : ¬ Qualifier.HasKeyword name

/-- A hop whose text does not read as another one. -/
def Readable : Hop → Prop
  | plain name => ∀ body, name.toList = '#' :: body → ¬ Qualifier.HasForm body
  | picked name (.index n) =>
      Follows name.toList ∧ 1 ≤ n ∧ (Numeral.ofInt n).toList.length ≤ Numeral.maxDigits
  | picked name (.text value) =>
      Follows name.toList ∧ value.toList ≠ [] ∧ endsBlank value.toList = false

def texts : Hop → List String
  | plain name => [name]
  | picked name (.index _) => [name]
  | picked name (.text value) => [name, value]

theorem follows_of_read? {body : List Char} {q : Qualifier}
    (h : Qualifier.read? body = some q) : Follows q.name := by
  obtain ⟨front, after, _, hcut, _⟩ := Qualifier.read?_eq_some_iff.1 h
  exact ⟨hcut.name_ne_nil, hcut.beginsBlank_name, Qualifier.not_hasKeyword_of_read? h⟩

/-! ## Reading a token -/

theorem parse_eq_plain {token : String}
    (h : ∀ body, token.toList = '#' :: body → Qualifier.read? body = none) :
    parse token = .ok (plain token) := by
  unfold parse
  split
  · next body htoken => rw [h body htoken]
  · rfl

theorem parse_inWord {token : String} {body value name : List Char}
    (hbody : token.toList = '#' :: body)
    (hread : Qualifier.read? body = some ⟨value, .inWord, name⟩) :
    parse token = .ok (picked (String.ofList name) (.text (String.ofList value))) := by
  simp only [parse, hbody, hread]

theorem parse_ofWord {token : String} {body value name : List Char}
    (hbody : token.toList = '#' :: body)
    (hread : Qualifier.read? body = some ⟨value, .ofWord, name⟩) :
    parse token =
      (readIndex token value).map fun (n : Nat) => picked (String.ofList name) (.index n) := by
  simp only [parse, hbody, hread]
  cases readIndex token value <;> rfl

/-- The three ways in which a token is read. -/
theorem parse_cases {token : String} {h : Hop} (hp : parse token = .ok h) :
    (h = plain token ∧ ∀ body, token.toList = '#' :: body → Qualifier.read? body = none) ∨
      ∃ body q, token.toList = '#' :: body ∧ Qualifier.read? body = some q ∧
        (h = picked (String.ofList q.name) (.text (String.ofList q.value)) ∨
          ∃ n : Nat, readIndex token q.value = .ok n ∧
            h = picked (String.ofList q.name) (.index (n : Int))) := by
  by_cases hplain : ∀ body, token.toList = '#' :: body → Qualifier.read? body = none
  · rw [parse_eq_plain hplain] at hp
    cases hp
    exact Or.inl ⟨rfl, hplain⟩
  · obtain ⟨body, hrest⟩ := not_forall.1 hplain
    obtain ⟨hbody, hsome⟩ := Classical.not_imp.1 hrest
    obtain ⟨⟨value, k, name⟩, hread⟩ := Option.ne_none_iff_exists'.1 hsome
    refine Or.inr ⟨body, _, hbody, hread, ?_⟩
    cases k with
    | inWord =>
        rw [parse_inWord hbody hread] at hp
        cases hp
        exact Or.inl rfl
    | ofWord =>
        rw [parse_ofWord hbody hread] at hp
        cases hn : readIndex token value with
        | error e =>
            rw [hn] at hp
            cases hp
        | ok n =>
            rw [hn] at hp
            cases hp
            exact Or.inr ⟨n, rfl, rfl⟩

/-! ## Positions -/

theorem readIndex_toDigits {token : String} {n : Nat} (hpos : 1 ≤ n)
    (hlen : (Nat.toDigits 10 n).length ≤ Numeral.maxDigits) :
    readIndex token (Nat.toDigits 10 n) = .ok n := by
  have htrim : trim (Nat.toDigits 10 n) = Nat.toDigits 10 n := by
    rw [trim, trimStart_eq_self (Numeral.beginsBlank_toDigits n),
      trimEnd_eq_self (Numeral.endsBlank_toDigits n)]
  rw [readIndex]
  simp only [htrim, Numeral.isNumeral_toDigits, Numeral.value_toDigits]
  rw [if_neg (by decide), if_neg (by omega), if_neg (by omega)]

theorem of_readIndex_eq_ok {token : String} {value : List Char} {n : Nat}
    (h : readIndex token value = .ok n) :
    1 ≤ n ∧ (Nat.toDigits 10 n).length ≤ Numeral.maxDigits := by
  rw [readIndex] at h
  simp only at h
  split at h
  · cases h
  next hnumeral =>
  split at h
  · cases h
  next hlen =>
  split at h
  · cases h
  next hpos =>
  cases h
  refine ⟨by omega, ?_⟩
  rw [Bool.not_eq_true', Bool.not_eq_false, Numeral.isNumeral, Bool.and_eq_true] at hnumeral
  have hlt := Numeral.value_lt_pow (List.all_eq_true.1 hnumeral.2)
  rw [Nat.length_toDigits_le_iff (by decide) (by decide)]
  exact hlt.trans_le (Nat.pow_le_pow_right (by decide) (by omega))

/-! ## Both directions for one hop -/

theorem parse_render {h : Hop} (hr : h.Readable) : parse h.render = .ok h := by
  cases h with
  | plain name =>
      refine parse_eq_plain fun body hbody => ?_
      exact Qualifier.read?_eq_none_iff_not_hasForm.2 (hr body hbody)
  | picked name pick =>
      cases pick with
      | text value =>
          obtain ⟨hname, hvne, hvends⟩ := hr
          have hbody : (picked name (.text value)).render.toList =
              '#' :: (value.toList ++ [' '] ++ Keyword.inWord.letters ++ ([' '] ++ name.toList)) := by
            simp [render, Keyword.letters]
          have hread := Qualifier.read?_append .inWord hvne hvends hname.ne_nil hname.begins
            hname.notKeyword
          rw [parse_inWord hbody hread, String.ofList_toList, String.ofList_toList]
      | index n =>
          obtain ⟨hname, hpos, hlen⟩ := hr
          obtain ⟨m, rfl⟩ := Int.eq_ofNat_of_zero_le (by omega : 0 ≤ n)
          have hdigits : (Numeral.ofInt (m : Int)).toList = Nat.toDigits 10 m := by
            simp [Numeral.ofInt, Numeral.ofNat]
          rw [hdigits] at hlen
          have hbody : (picked name (.index m)).render.toList =
              '#' :: (Nat.toDigits 10 m ++ [' '] ++ Keyword.ofWord.letters ++
                ([' '] ++ name.toList)) := by
            simp [render, Keyword.letters, hdigits]
          have hread := Qualifier.read?_append .ofWord Nat.toDigits_ne_nil
            (Numeral.endsBlank_toDigits m) hname.ne_nil hname.begins hname.notKeyword
          rw [parse_ofWord hbody hread, readIndex_toDigits (by omega) hlen, String.ofList_toList]
          rfl

theorem readable_of_parse {token : String} {h : Hop} (hp : parse token = .ok h) : h.Readable := by
  rcases parse_cases hp with ⟨rfl, hplain⟩ | ⟨body, q, _, hread, rfl | ⟨n, hn, rfl⟩⟩
  · intro body hbody
    exact Qualifier.read?_eq_none_iff_not_hasForm.1 (hplain body hbody)
  · obtain ⟨front, after, _, hcut, _⟩ := Qualifier.read?_eq_some_iff.1 hread
    refine ⟨?_, ?_, ?_⟩
    · rw [String.toList_ofList]
      exact follows_of_read? hread
    · rw [String.toList_ofList]
      exact hcut.value_ne_nil
    · rw [String.toList_ofList]
      exact hcut.endsBlank_value
  · obtain ⟨hpos, hlen⟩ := of_readIndex_eq_ok hn
    refine ⟨?_, by omega, ?_⟩
    · rw [String.toList_ofList]
      exact follows_of_read? hread
    · simpa [Numeral.ofInt, Numeral.ofNat] using hlen

/-! ## The texts of a hop and its token -/

theorem subset_of_parse {token : String} {h : Hop} (hp : parse token = .ok h) :
    ∀ s ∈ h.texts, s.toList ⊆ token.toList := by
  rcases parse_cases hp with ⟨rfl, _⟩ | ⟨body, q, hbody, hread, hh⟩
  · intro s hs
    rw [List.mem_singleton.1 hs]
    exact List.Subset.refl _
  · obtain ⟨front, after, hcat, hcut, _⟩ := Qualifier.read?_eq_some_iff.1 hread
    have hname : q.name ⊆ token.toList := by
      intro c hc
      rw [hcut.name] at hc
      have hafter : c ∈ after := (trimStart_isSuffix after).subset hc
      rw [hbody, hcat]
      exact List.mem_cons_of_mem '#' (List.mem_append_right _ hafter)
    have hvalue : q.value ⊆ token.toList := by
      intro c hc
      rw [hcut.value] at hc
      have hfront : c ∈ front := (trimEnd_isPrefix front).subset hc
      rw [hbody, hcat, List.append_assoc]
      exact List.mem_cons_of_mem '#' (List.mem_append_left _ hfront)
    rcases hh with rfl | ⟨n, _, rfl⟩
    · intro s hs
      rcases List.mem_cons.1 hs with rfl | hs
      · rwa [String.toList_ofList]
      · rw [List.mem_singleton.1 hs, String.toList_ofList]
        exact hvalue
    · intro s hs
      rw [List.mem_singleton.1 hs, String.toList_ofList]
      exact hname

theorem beginsBlank_render {token : String} {h : Hop} (hp : parse token = .ok h)
    (hbegins : beginsBlank token.toList = false) : beginsBlank h.render.toList = false := by
  rcases parse_cases hp with ⟨rfl, _⟩ | ⟨body, q, _, _, rfl | ⟨n, _, rfl⟩⟩
  · exact hbegins
  · simp [render, beginsBlank]
    decide
  · simp [render, beginsBlank]
    decide

theorem endsBlank_render {token : String} {h : Hop} (hp : parse token = .ok h)
    (hends : endsBlank token.toList = false) : endsBlank h.render.toList = false := by
  rcases parse_cases hp with ⟨rfl, _⟩ | ⟨body, q, hbody, hread, hh⟩
  · exact hends
  · obtain ⟨front, after, hcat, hcut, _⟩ := Qualifier.read?_eq_some_iff.1 hread
    have hname : endsBlank q.name = false := by
      have hsuffix : q.name <:+ token.toList := by
        rw [hcut.name, hbody, hcat]
        exact (trimStart_isSuffix after).trans
          ((List.suffix_append _ after).trans (List.suffix_cons '#' _))
      exact endsBlank_of_isSuffix hsuffix hends
    rcases hh with rfl | ⟨n, _, rfl⟩
    · rw [render, String.toList_append, String.toList_ofList, endsBlank_append hcut.name_ne_nil]
      exact hname
    · rw [render, String.toList_append, String.toList_ofList, endsBlank_append hcut.name_ne_nil]
      exact hname

end Hop

end PageAtlas.Path
