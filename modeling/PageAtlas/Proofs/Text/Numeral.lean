import Mathlib.Algebra.Group.Nat.Defs
import PageAtlas.Proofs.Text.Blank
import PageAtlas.Text.Numeral

/-!
# Reading what was written

A numeral has the value it was written for, and the number of digits bounds it.
-/

namespace PageAtlas.Text.Numeral

theorem isDigit_iff {c : Char} : isDigit c = true ↔ 48 ≤ c.toNat ∧ c.toNat ≤ 57 := by
  rw [isDigit, Bool.and_eq_true, decide_eq_true_iff, decide_eq_true_iff]
  exact Iff.rfl

theorem not_isBlank_of_isDigit {c : Char} (h : isDigit c = true) : isBlank c = false := by
  obtain ⟨hlow, hhigh⟩ := isDigit_iff.1 h
  simp only [isBlank, isSpace, Bool.or_eq_false_iff, Bool.and_eq_false_iff, beq_eq_false_iff_ne,
    decide_eq_false_iff_not]
  omega

theorem value_eq_ofDigitChars (cs : List Char) : value cs = Nat.ofDigitChars 10 cs 0 := by
  rw [Nat.ofDigitChars_eq_foldl]
  rfl

theorem value_toDigits (n : Nat) : value (Nat.toDigits 10 n) = n := by
  rw [value_eq_ofDigitChars, Nat.ofDigitChars_ten_toDigits]

theorem value_concat (cs : List Char) (c : Char) :
    value (cs ++ [c]) = 10 * value cs + digitValue c := by
  rw [value, List.foldl_append]
  rfl

theorem value_lt_pow {cs : List Char} (h : ∀ c ∈ cs, isDigit c = true) :
    value cs < 10 ^ cs.length := by
  induction cs using List.reverseRecOn with
  | nil => exact Nat.one_pos
  | append_singleton cs c ih =>
      have hcs := ih fun d hd => h d (List.mem_append_left [c] hd)
      have hc : digitValue c ≤ 9 := by
        obtain ⟨_, hhigh⟩ := isDigit_iff.1 (h c (List.mem_append_right cs List.mem_cons_self))
        exact Nat.sub_le_of_le_add hhigh
      rw [value_concat, List.length_append, List.length_singleton, Nat.pow_succ]
      omega

theorem isDigit_of_mem_toDigits {n : Nat} {c : Char} (h : c ∈ Nat.toDigits 10 n) :
    isDigit c = true := by
  have hdigit := Nat.isDigit_of_mem_toDigits (by decide) (by decide) h
  rw [Char.isDigit_iff_toNat] at hdigit
  exact isDigit_iff.2 hdigit

theorem ofInt_cases (i : Int) :
    (∃ n : Nat, i = n ∧ (ofInt i).toList = Nat.toDigits 10 n) ∨
      ∃ n : Nat, i = -n ∧ (ofInt i).toList = '-' :: Nat.toDigits 10 n := by
  cases i with
  | ofNat n => exact Or.inl ⟨n, rfl, by rw [ofInt, ofNat, String.toList_ofList]⟩
  | negSucc n => exact Or.inr ⟨n + 1, rfl, by simp [ofInt, ofNat]⟩

theorem eq_or_isDigit_of_mem_ofInt {i : Int} {c : Char} (h : c ∈ (ofInt i).toList) :
    c = '-' ∨ isDigit c = true := by
  rcases ofInt_cases i with ⟨n, -, htext⟩ | ⟨n, -, htext⟩
  · rw [htext] at h
    exact Or.inr (isDigit_of_mem_toDigits h)
  · rw [htext] at h
    exact (List.mem_cons.1 h).imp_right isDigit_of_mem_toDigits

theorem isOversized_iff {i : Int} : isOversized i = true ↔ 10 ^ maxDigits ≤ i.natAbs := by
  rw [isOversized, decide_eq_true_iff, ← Nat.not_le,
    Nat.length_toDigits_le_iff (by decide) (by decide), Nat.not_lt]

theorem isOversized_eq_false_iff {i : Int} :
    isOversized i = false ↔ i.natAbs < 10 ^ maxDigits := by
  rw [← Bool.not_eq_true, isOversized_iff, Nat.not_le]

theorem isNumeral_toDigits (n : Nat) : isNumeral (Nat.toDigits 10 n) = true := by
  rw [isNumeral, Bool.and_eq_true]
  constructor
  · rw [Bool.not_eq_true', List.isEmpty_eq_false_iff]
    exact Nat.toDigits_ne_nil
  · exact List.all_eq_true.2 fun c hc => isDigit_of_mem_toDigits hc

theorem head?_toDigits_ne_zero {n : Nat} (h : n ≠ 0) : (Nat.toDigits 10 n).head? ≠ some '0' := by
  induction n using Nat.strongRecOn with
  | ind n ih =>
      by_cases hlt : n < 10
      · have hdigit : ∀ n < 10, n ≠ 0 → [Nat.digitChar n].head? ≠ some '0' := by decide
        rw [Nat.toDigits_of_lt_base hlt]
        exact hdigit n hlt h
      · have hle : 10 ≤ n := Nat.le_of_not_lt hlt
        rw [Nat.toDigits_of_base_le (by decide) hle,
          List.head?_append_of_ne_nil _ Nat.toDigits_ne_nil]
        exact ih (n / 10) (by omega) (by omega)

theorem beginsBlank_toDigits (n : Nat) : beginsBlank (Nat.toDigits 10 n) = false := by
  cases h : Nat.toDigits 10 n with
  | nil => rfl
  | cons c cs =>
      have hmem : c ∈ Nat.toDigits 10 n := h ▸ List.mem_cons_self
      exact not_isBlank_of_isDigit (isDigit_of_mem_toDigits hmem)

theorem endsBlank_toDigits (n : Nat) : endsBlank (Nat.toDigits 10 n) = false := by
  have hne : Nat.toDigits 10 n ≠ [] := Nat.toDigits_ne_nil
  rw [endsBlank, List.getLast?_eq_some_getLast hne]
  exact not_isBlank_of_isDigit (isDigit_of_mem_toDigits (List.getLast_mem hne))

end PageAtlas.Text.Numeral
