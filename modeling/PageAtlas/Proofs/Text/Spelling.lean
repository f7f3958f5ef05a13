import Mathlib.Data.List.Basic
import PageAtlas.Text.Spelling

/-!
# Spelled texts

What was spelled is found again, whatever follows it; so a spelling determines its
text, and a text that needs no marks is its own. What can be printed is what holds no
surrogates, and printing undoes the spelling.
-/

namespace PageAtlas.Text

namespace Spelling

variable {c : Char} {cs : List Char} {ps : List Point} {s t u : String}

theorem marked_mark : marked mark = .char mark := by decide

theorem toNat_letter (k : Fin 2048) : (letter k).toNat = 0xE000 + k := by
  have hvalid : (0xE000 + k : Nat).isValidChar := by
    right
    omega
  rw [letter, Char.ofNat, dif_pos hvalid]
  rfl

theorem marked_letter (k : Fin 2048) : marked (letter k) = .surrogate k := by
  have hletter := toNat_letter k
  have hrange : 0xE000 ≤ (letter k).toNat ∧ (letter k).toNat < 0xE800 := by omega
  rw [marked, dif_pos hrange]
  exact congrArg Point.surrogate (Fin.ext (by simp only [hletter, Nat.add_sub_cancel_left]))

theorem points_cons_of_ne (h : c ≠ mark) (cs : List Char) :
    points (c :: cs) = .char c :: points cs := by
  cases cs with
  | nil => rfl
  | cons d ds => rw [points, if_neg h]

theorem points_ofPoint_append (p : Point) (cs : List Char) :
    points (ofPoint p ++ cs) = p :: points cs := by
  cases p with
  | surrogate k =>
      change points (mark :: letter k :: cs) = _
      rw [points, if_pos rfl, marked_letter]
  | char c =>
      rw [ofPoint]
      split
      · next h =>
        change points (mark :: mark :: cs) = _
        rw [points, if_pos rfl, marked_mark, h]
      · next h => exact points_cons_of_ne h cs

theorem points_append (ps : List Point) (cs : List Char) :
    points (ps.flatMap ofPoint ++ cs) = ps ++ points cs := by
  induction ps with
  | nil => rfl
  | cons p ps ih =>
      rw [List.flatMap_cons, List.append_assoc, points_ofPoint_append, ih, List.cons_append]

@[simp] theorem toList_ofPoints (ps : List Point) :
    (ofPoints ps).toList = ps.flatMap ofPoint := String.toList_ofList

@[simp] theorem points_ofPoints (ps : List Point) : points (ofPoints ps).toList = ps := by
  have h := points_append ps []
  rwa [List.append_nil, ← toList_ofPoints, points, List.append_nil] at h

theorem toList_ofText (s : String) :
    (ofText s).toList = (s.toList.map .char).flatMap ofPoint := toList_ofPoints _

theorem points_ofText_append (s t : String) :
    points (ofText s ++ t).toList = s.toList.map .char ++ points t.toList := by
  rw [String.toList_append, toList_ofText, points_append]

theorem ofText_append (s t : String) : ofText (s ++ t) = ofText s ++ ofText t := by
  apply String.toList_injective
  simp [toList_ofText]

/-! ## Texts without marks -/

theorem points_of_notMem (h : mark ∉ cs) : points cs = cs.map .char := by
  induction cs with
  | nil => rfl
  | cons c cs ih =>
      rw [List.mem_cons, not_or] at h
      rw [points_cons_of_ne (Ne.symm h.1), ih h.2, List.map_cons]

theorem ofText_of_notMem (h : mark ∉ s.toList) : ofText s = s := by
  apply String.toList_injective
  rw [toList_ofText, List.flatMap_map]
  have hone : ∀ c ∈ s.toList, ofPoint (.char c) = [c] := by
    intro c hc
    rw [ofPoint, if_neg]
    rintro rfl
    exact h hc
  rw [List.flatMap_congr hone, List.flatMap_singleton']

theorem mark_mem_of_hasSurrogate (h : hasSurrogate s = true) : mark ∈ s.toList := by
  by_contra hmark
  rw [hasSurrogate, points_of_notMem hmark] at h
  simp [Point.isSurrogate, Point.char?] at h

/-! ## Printing -/

theorem printFrom_eq_ok_iff (position : Nat) :
    printFrom position ps = .ok cs ↔ ps = cs.map .char := by
  induction ps generalizing position cs with
  | nil => simp [printFrom, eq_comm]
  | cons p ps ih =>
      cases p with
      | surrogate k => cases cs <;> simp [printFrom]
      | char c =>
          rw [printFrom]
          cases cs with
          | nil =>
              cases printFrom (position + 1) ps <;> simp [bind, Except.bind, pure, Except.pure]
          | cons d ds =>
              rw [List.map_cons, List.cons.injEq, ← ih (position + 1)]
              cases printFrom (position + 1) ps <;>
                simp [bind, Except.bind, pure, Except.pure]

/-- A spelled text can be printed exactly if it spells no surrogate. -/
theorem print_eq_ok_iff : print s = .ok t ↔ points s.toList = t.toList.map .char := by
  rw [print, ← printFrom_eq_ok_iff 0]
  cases printFrom 0 (points s.toList) with
  | error e => simp
  | ok cs =>
      rw [Except.ok.injEq, Except.ok.injEq]
      exact ⟨fun h => h ▸ String.toList_ofList.symm, fun h => h ▸ String.ofList_toList⟩

theorem any_isSurrogate_eq_false_iff :
    ps.any Point.isSurrogate = false ↔ ∃ cs : List Char, ps = cs.map .char := by
  induction ps with
  | nil => exact ⟨fun _ => ⟨[], rfl⟩, fun _ => rfl⟩
  | cons p ps ih =>
      rw [List.any_cons, Bool.or_eq_false_iff, ih]
      constructor
      · rintro ⟨hp, cs, rfl⟩
        cases p with
        | char c => exact ⟨c :: cs, rfl⟩
        | surrogate k => cases hp
      · rintro ⟨cs, hcs⟩
        cases cs with
        | nil => cases hcs
        | cons c cs =>
            rw [List.map_cons, List.cons.injEq] at hcs
            obtain ⟨rfl, rfl⟩ := hcs
            exact ⟨rfl, cs, rfl⟩

theorem exists_print_iff : (∃ t, print s = .ok t) ↔ hasSurrogate s = false := by
  rw [hasSurrogate, any_isSurrogate_eq_false_iff]
  constructor
  · rintro ⟨t, ht⟩
    exact ⟨t.toList, print_eq_ok_iff.1 ht⟩
  · rintro ⟨cs, hcs⟩
    refine ⟨String.ofList cs, print_eq_ok_iff.2 ?_⟩
    rw [String.toList_ofList, hcs]

theorem print_ofText_append_eq_ok_iff :
    print (ofText s ++ t) = .ok u ↔ ∃ v, print t = .ok v ∧ u = s ++ v := by
  rw [print_eq_ok_iff, points_ofText_append]
  constructor
  · intro h
    obtain ⟨front, rest, hu, hfront, hrest⟩ := List.append_eq_map_iff.1 h
    refine ⟨String.ofList rest, ?_, ?_⟩
    · rw [print_eq_ok_iff, String.toList_ofList, hrest]
    · have hs : s.toList = front := List.map_injective_iff.2 (fun _ _ => Point.char.inj) hfront.symm
      apply String.toList_injective
      rw [String.toList_append, hu, hs, String.toList_ofList]
  · rintro ⟨v, hv, rfl⟩
    rw [print_eq_ok_iff.1 hv, String.toList_append, List.map_append]

theorem print_append_eq_ok_iff (h : mark ∉ s.toList) :
    print (s ++ t) = .ok u ↔ ∃ v, print t = .ok v ∧ u = s ++ v := by
  rw [← print_ofText_append_eq_ok_iff, ofText_of_notMem h]

@[simp] theorem print_ofText (s : String) : print (ofText s) = .ok s := by
  rw [print_eq_ok_iff, ofText, points_ofPoints]

theorem print_of_notMem (h : mark ∉ s.toList) : print s = .ok s := by
  rw [print_eq_ok_iff, points_of_notMem h]

theorem ofText_injective : Function.Injective ofText := by
  intro s t h
  have hprint := print_ofText s
  rw [h, print_ofText] at hprint
  exact (Except.ok.inj hprint).symm

/-- A character that is neither a mark nor the letter of a surrogate is printed as it stands. -/
theorem mem_points (hc : c ≠ mark) (hletter : marked c = .char c) (h : c ∈ cs) :
    .char c ∈ points cs := by
  induction cs using points.induct with
  | case1 => cases h
  | case2 d =>
      rw [List.mem_singleton.1 h]
      exact List.mem_singleton_self _
  | case3 d ds ih =>
      rw [points, if_pos rfl]
      rcases List.mem_cons.1 h with rfl | h
      · exact absurd rfl hc
      · rcases List.mem_cons.1 h with rfl | h
        · rw [hletter]
          exact List.mem_cons_self
        · exact List.mem_cons_of_mem _ (ih h)
  | case4 d e ds hd ih =>
      rw [points, if_neg hd]
      rcases List.mem_cons.1 h with rfl | h
      · exact List.mem_cons_self
      · exact List.mem_cons_of_mem _ (ih h)

theorem mem_of_print (h : print s = .ok t) (hc : c ≠ mark) (hletter : marked c = .char c)
    (hmem : c ∈ s.toList) : c ∈ t.toList := by
  have hpoint := mem_points hc hletter hmem
  rw [print_eq_ok_iff.1 h, List.mem_map_of_injective fun _ _ => Point.char.inj] at hpoint
  exact hpoint

/-! ## Lines -/

variable {lines later : List String} {e : EncodeFault}

theorem printLines_snd_eq_none_iff :
    (printLines lines).2 = none ↔ ∀ line ∈ lines, hasSurrogate line = false := by
  induction lines with
  | nil => simp [printLines]
  | cons line lines ih =>
      rw [List.forall_mem_cons, ← ih, ← exists_print_iff, printLines]
      cases print line with
      | error e => simp
      | ok t => simp

theorem printLines_append_of_none (h : (printLines lines).2 = none) :
    printLines (lines ++ later) =
      ((printLines lines).1 ++ (printLines later).1, (printLines later).2) := by
  induction lines with
  | nil => simp [printLines]
  | cons line lines ih =>
      rw [List.cons_append, printLines, printLines]
      rw [printLines] at h
      cases hline : print line with
      | error e =>
          rw [hline] at h
          cases h
      | ok text =>
          rw [hline] at h
          dsimp only
          rw [ih h]
          simp [String.append_assoc]

theorem printLines_append_of_some (h : (printLines lines).2 = some e) :
    printLines (lines ++ later) = printLines lines := by
  induction lines with
  | nil => cases h
  | cons line lines ih =>
      rw [List.cons_append, printLines, printLines]
      rw [printLines] at h
      cases hline : print line with
      | error e => rfl
      | ok text =>
          rw [hline] at h
          dsimp only
          rw [ih h]

theorem printLines_singleton (line : String) :
    printLines [line] =
      match print line with
      | .ok text => (text ++ "\n", none)
      | .error e => ("", some e) := by
  rw [printLines]
  cases print line <;> simp [printLines]

end Spelling

end PageAtlas.Text
