import Mathlib.Data.List.TakeWhile
import PageAtlas.Definition.Substitution

/-!
# Laws of substitution

A reference is replaced by itself: neither what stands around it nor what is put
in for it makes a difference. A text without references stays as it is, and the two
laws together leave no choice. In a nested value the texts are all that changes.
-/

namespace PageAtlas

namespace Substitution

/-- The letters of a name, of which the underscore is one. -/
def IsLetter (c : Char) : Prop := ('A' ≤ c ∧ c ≤ 'Z') ∨ ('a' ≤ c ∧ c ≤ 'z') ∨ c = '_'

/-- The name of a variable: letters and digits, and no digit in front. -/
structure IsName (name : List Char) : Prop where
  head : ∃ c, name.head? = some c ∧ IsLetter c
  all : ∀ c ∈ name, IsLetter c ∨ ('0' ≤ c ∧ c ≤ '9')

def Plain (cs : List Char) : Prop := ∀ a name b, IsName name → cs ≠ a ++ reference name ++ b

variable {env : Environment} {cs name rest : List Char}

/-! ## Recognising a reference -/

theorem isUpper_iff {c : Char} : c.isUpper = true ↔ 'A' ≤ c ∧ c ≤ 'Z' := decide_eq_true_iff

theorem isLower_iff {c : Char} : c.isLower = true ↔ 'a' ≤ c ∧ c ≤ 'z' :=
  Bool.and_eq_true_iff.trans (and_congr decide_eq_true_iff decide_eq_true_iff)

theorem isDigit_iff {c : Char} : c.isDigit = true ↔ '0' ≤ c ∧ c ≤ '9' :=
  Bool.and_eq_true_iff.trans (and_congr decide_eq_true_iff decide_eq_true_iff)

theorem startsName_iff {c : Char} : startsName c = true ↔ IsLetter c := by
  have halpha : c.isAlpha = (c.isUpper || c.isLower) := rfl
  rw [startsName, halpha, Bool.or_eq_true_iff, Bool.or_eq_true_iff, isUpper_iff, isLower_iff,
    beq_iff_eq, or_assoc]
  rfl

theorem continuesName_iff {c : Char} :
    continuesName c = true ↔ IsLetter c ∨ ('0' ≤ c ∧ c ≤ '9') := by
  have halphanum : c.isAlphanum = (c.isAlpha || c.isDigit) := rfl
  rw [← startsName_iff, startsName, continuesName, halphanum, Bool.or_eq_true_iff,
    Bool.or_eq_true_iff, Bool.or_eq_true_iff, isDigit_iff]
  exact or_right_comm

theorem continuesName_close : continuesName '\x7d' = false := by decide

theorem continuesName_dollar : continuesName '$' = false := by decide

theorem IsName.continues (h : IsName name) : ∀ c ∈ name, continuesName c = true :=
  fun c hc => continuesName_iff.2 (h.all c hc)

theorem name?_eq_some_iff :
    name? cs = some (name, rest) ↔ IsName name ∧ cs = name ++ '\x7d' :: rest := by
  have hcs := List.takeWhile_append_dropWhile (p := continuesName) (l := cs)
  constructor
  · intro h
    simp only [name?] at h
    split at h
    next c l b htake hdrop =>
      split at h
      next hstart =>
        obtain ⟨rfl, rfl⟩ := Prod.mk.inj (Option.some.inj h)
        refine ⟨⟨⟨c, by rw [htake]; rfl, startsName_iff.1 hstart⟩, fun x hx => ?_⟩, ?_⟩
        · exact continuesName_iff.1 (List.mem_takeWhile_imp hx)
        · rw [← hdrop, hcs]
      next => cases h
    next => cases h
  · rintro ⟨hname, rfl⟩
    obtain ⟨c, hc, hstart⟩ := hname.head
    have htake : (name ++ '\x7d' :: rest).takeWhile continuesName = name := by
      rw [List.takeWhile_append_of_pos hname.continues, List.takeWhile_cons_of_neg]
      · exact List.append_nil name
      · rw [continuesName_close]; exact Bool.false_ne_true
    have hdrop : (name ++ '\x7d' :: rest).dropWhile continuesName = '\x7d' :: rest := by
      rw [List.dropWhile_append_of_pos hname.continues, List.dropWhile_cons_of_neg]
      rw [continuesName_close]; exact Bool.false_ne_true
    obtain ⟨l, rfl⟩ : ∃ l, name = c :: l := List.head?_eq_some_iff.1 hc
    simp only [name?, htake, hdrop, startsName_iff.2 hstart, if_true]

theorem reference?_eq_some_iff :
    reference? cs = some (name, rest) ↔ IsName name ∧ cs = reference name ++ rest := by
  constructor
  · intro h
    unfold reference? at h
    split at h
    next l =>
      obtain ⟨hname, rfl⟩ := name?_eq_some_iff.1 h
      exact ⟨hname, by simp [reference]⟩
    next => cases h
  · rintro ⟨hname, rfl⟩
    have hcs : reference name ++ rest = '$' :: '\x7b' :: (name ++ '\x7d' :: rest) := by
      simp [reference]
    rw [hcs]
    exact name?_eq_some_iff.2 ⟨hname, rfl⟩

theorem reference?_eq_none_iff :
    reference? cs = none ↔ ∀ name rest, IsName name → cs ≠ reference name ++ rest := by
  rw [Option.eq_none_iff_forall_ne_some]
  constructor
  · exact fun h name rest hname hcs => h (name, rest) (reference?_eq_some_iff.2 ⟨hname, hcs⟩)
  · rintro h ⟨name, rest⟩ hcs
    obtain ⟨hname, rfl⟩ := reference?_eq_some_iff.1 hcs
    exact h name rest hname rfl

/-! ## One step from the left -/

@[simp]
theorem apply_nil : apply env [] = [] := by rw [apply]

theorem apply_reference_append (hname : IsName name) :
    apply env (reference name ++ rest) = value env name ++ apply env rest := by
  have hr : reference? (reference name ++ rest) = some (name, rest) :=
    reference?_eq_some_iff.2 ⟨hname, rfl⟩
  obtain ⟨c, cs, hcs⟩ : ∃ c cs, reference name ++ rest = c :: cs := ⟨_, _, rfl⟩
  rw [hcs] at hr ⊢
  rw [apply]
  split
  next h =>
    obtain ⟨rfl, rfl⟩ := Prod.mk.inj (Option.some.inj (hr.symm.trans h))
    rfl
  next h => cases hr.symm.trans h

theorem apply_cons {c : Char} (h : reference? (c :: cs) = none) :
    apply env (c :: cs) = c :: apply env cs := by
  rw [apply]
  split
  next h' => cases h.symm.trans h'
  next => rfl

/-- The dollar sign only stands in front of a reference, so none straddles the
beginning of another. -/
theorem reference?_append_reference {a b : List Char} (ha : a ≠ []) (h : reference? a = none) :
    reference? (a ++ (reference name ++ b)) = none := by
  rw [reference?_eq_none_iff] at h ⊢
  intro n rest hn heq
  rcases List.append_eq_append_iff.1 heq with ⟨t, ht, htail⟩ | ⟨t, ht, -⟩
  · cases t with
    | nil => exact h n [] hn (by rw [ht, List.append_nil, List.append_nil])
    | cons x t =>
        have hx : x = '$' := (List.cons.inj htail).1.symm
        obtain ⟨y, a, rfl⟩ := List.exists_cons_of_ne_nil ha
        have hmem : '$' ∈ '\x7b' :: (n ++ ['\x7d']) := by
          have hy : '\x7b' :: (n ++ ['\x7d']) = a ++ x :: t := (List.cons.inj ht).2
          rw [hy, hx]
          exact List.mem_append_right a List.mem_cons_self
        have hmem : '$' ∈ n := by simpa using hmem
        have hd := hn.continues _ hmem
        rw [continuesName_dollar] at hd
        cases hd
  · exact h n t hn ht

theorem apply_append_reference (a b : List Char) (hname : IsName name) :
    apply env (a ++ (reference name ++ b)) = apply env a ++ (value env name ++ apply env b) := by
  induction a using apply.induct with
  | case1 => rw [List.nil_append, apply_nil, List.nil_append, apply_reference_append hname]
  | case2 c a n rest h hlt ih =>
      obtain ⟨hn, hca⟩ := reference?_eq_some_iff.1 h
      rw [hca, List.append_assoc, apply_reference_append hn, ih, apply_reference_append hn,
        List.append_assoc]
  | case3 c a h ih =>
      rw [apply_cons h, List.cons_append, apply_cons, ih, List.cons_append]
      exact reference?_append_reference (List.cons_ne_nil c a) h

theorem apply_of_plain (h : Plain cs) : apply env cs = cs := by
  induction cs with
  | nil => exact apply_nil
  | cons c cs ih =>
      have hnone : reference? (c :: cs) = none := by
        rw [reference?_eq_none_iff]
        exact fun name rest hname => h [] name rest hname
      rw [apply_cons hnone, ih]
      intro a name b hname hcs
      exact h (c :: a) name b hname (by rw [hcs]; rfl)

theorem plain_of_notMem (h : '\x7d' ∉ cs) : Plain cs := by
  rintro a name b - rfl
  exact h (by simp [reference])

/-- No other function has the two laws. -/
theorem eq_apply {f : List Char → List Char}
    (hreference : ∀ a name b, IsName name →
      f (a ++ reference name ++ b) = f a ++ value env name ++ f b)
    (hplain : ∀ cs, Plain cs → f cs = cs) (cs : List Char) : f cs = apply env cs := by
  by_cases h : Plain cs
  · rw [hplain cs h, apply_of_plain h]
  · simp only [Plain, not_forall, not_not, exists_prop] at h
    obtain ⟨a, name, b, hname, rfl⟩ := h
    have ha := eq_apply hreference hplain a
    have hb := eq_apply hreference hplain b
    rw [hreference a name b hname, ha, hb, List.append_assoc a, apply_append_reference a b hname,
      List.append_assoc]
  termination_by cs.length
  decreasing_by
    all_goals
      subst_vars
      simp only [List.length_append, reference, List.length_cons]
      omega

end Substitution

/-! ## Nested values -/

namespace Data

mutual

/-- What is left of a value when its texts are blanked out. -/
def outline : Data → Data
  | text _ => text ""
  | list items => list (outlineAll items)
  | table entries => table (outlineEntries entries)
  | d => d

def outlineAll : List Data → List Data
  | [] => []
  | d :: ds => outline d :: outlineAll ds

def outlineEntries : List (Data × Data) → List (Data × Data)
  | [] => []
  | (k, v) :: es => (k, outline v) :: outlineEntries es

end

mutual

/-- The texts of a value, in order. The keys of a table are not among them. -/
def texts : Data → List String
  | text s => [s]
  | list items => textsAll items
  | table entries => textsOfEntries entries
  | _ => []

def textsAll : List Data → List String
  | [] => []
  | d :: ds => texts d ++ textsAll ds

def textsOfEntries : List (Data × Data) → List String
  | [] => []
  | (_, v) :: es => texts v ++ textsOfEntries es

end

mutual

theorem length_texts_outline (d : Data) : (outline d).texts.length = d.texts.length := by
  cases d with
  | text s => rfl
  | list items => rw [outline, texts, texts, length_textsAll_outlineAll]
  | table entries => rw [outline, texts, texts, length_textsOfEntries_outlineEntries]
  | _ => rfl

theorem length_textsAll_outlineAll (ds : List Data) :
    (textsAll (outlineAll ds)).length = (textsAll ds).length := by
  match ds with
  | [] => rfl
  | d :: ds =>
      rw [outlineAll, textsAll, textsAll, List.length_append, List.length_append,
        length_texts_outline, length_textsAll_outlineAll]

theorem length_textsOfEntries_outlineEntries (es : List (Data × Data)) :
    (textsOfEntries (outlineEntries es)).length = (textsOfEntries es).length := by
  match es with
  | [] => rfl
  | (k, v) :: es =>
      rw [outlineEntries, textsOfEntries, textsOfEntries, List.length_append, List.length_append,
        length_texts_outline, length_textsOfEntries_outlineEntries]

end

theorem length_texts_of_outline {d e : Data} (h : d.outline = e.outline) :
    d.texts.length = e.texts.length := by
  rw [← length_texts_outline d, h, length_texts_outline]

mutual

/-- A value is made of its outline and its texts, and of nothing else. -/
theorem eq_of_outline_of_texts {d e : Data} (ho : d.outline = e.outline)
    (ht : d.texts = e.texts) : d = e := by
  cases d with
  | text s =>
      cases e <;> simp only [outline, reduceCtorEq] at ho
      exact congrArg text (List.cons.inj ht).1
  | list items =>
      cases e <;> simp only [outline, reduceCtorEq, list.injEq] at ho
      exact congrArg list (eq_of_outlineAll_of_textsAll ho ht)
  | table entries =>
      cases e <;> simp only [outline, reduceCtorEq, table.injEq] at ho
      exact congrArg table (eq_of_outlineEntries_of_textsOfEntries ho ht)
  | _ => cases e <;> first | exact ho | cases ho

theorem eq_of_outlineAll_of_textsAll {ds es : List Data} (ho : outlineAll ds = outlineAll es)
    (ht : textsAll ds = textsAll es) : ds = es := by
  match ds, es with
  | [], [] => rfl
  | [], e :: es => cases ho
  | d :: ds, [] => cases ho
  | d :: ds, e :: es =>
      obtain ⟨hd, hds⟩ := List.cons.inj ho
      obtain ⟨htd, htds⟩ := List.append_inj ht (length_texts_of_outline hd)
      rw [eq_of_outline_of_texts hd htd, eq_of_outlineAll_of_textsAll hds htds]

theorem eq_of_outlineEntries_of_textsOfEntries {ds es : List (Data × Data)}
    (ho : outlineEntries ds = outlineEntries es)
    (ht : textsOfEntries ds = textsOfEntries es) : ds = es := by
  match ds, es with
  | [], [] => rfl
  | [], (k, v) :: es => cases ho
  | (k, v) :: ds, [] => cases ho
  | (k, v) :: ds, (l, w) :: es =>
      obtain ⟨hkv, hds⟩ := List.cons.inj ho
      obtain ⟨rfl, hv⟩ := Prod.mk.inj hkv
      obtain ⟨htv, htds⟩ := List.append_inj ht (length_texts_of_outline hv)
      rw [eq_of_outline_of_texts hv htv, eq_of_outlineEntries_of_textsOfEntries hds htds]

end

end Data

namespace Substitution

mutual

theorem outline_inData (env : Environment) (d : Data) : (inData env d).outline = d.outline := by
  cases d with
  | text s => rfl
  | list items => rw [inData, Data.outline, Data.outline, outlineAll_inItems]
  | table entries => rw [inData, Data.outline, Data.outline, outlineEntries_inEntries]
  | _ => rfl

theorem outlineAll_inItems (env : Environment) (ds : List Data) :
    Data.outlineAll (inItems env ds) = Data.outlineAll ds := by
  match ds with
  | [] => rfl
  | d :: ds => rw [inItems, Data.outlineAll, Data.outlineAll, outline_inData, outlineAll_inItems]

theorem outlineEntries_inEntries (env : Environment) (es : List (Data × Data)) :
    Data.outlineEntries (inEntries env es) = Data.outlineEntries es := by
  match es with
  | [] => rfl
  | (k, v) :: es =>
      rw [inEntries, Data.outlineEntries, Data.outlineEntries, outline_inData,
        outlineEntries_inEntries]

end

mutual

theorem texts_inData (env : Environment) (d : Data) :
    (inData env d).texts = d.texts.map (inText env) := by
  cases d with
  | text s => rfl
  | list items => rw [inData, Data.texts, Data.texts, textsAll_inItems]
  | table entries => rw [inData, Data.texts, Data.texts, textsOfEntries_inEntries]
  | _ => rfl

theorem textsAll_inItems (env : Environment) (ds : List Data) :
    Data.textsAll (inItems env ds) = (Data.textsAll ds).map (inText env) := by
  match ds with
  | [] => rfl
  | d :: ds =>
      rw [inItems, Data.textsAll, Data.textsAll, List.map_append, texts_inData, textsAll_inItems]

theorem textsOfEntries_inEntries (env : Environment) (es : List (Data × Data)) :
    Data.textsOfEntries (inEntries env es) = (Data.textsOfEntries es).map (inText env) := by
  match es with
  | [] => rfl
  | (k, v) :: es =>
      rw [inEntries, Data.textsOfEntries, Data.textsOfEntries, List.map_append, texts_inData,
        textsOfEntries_inEntries]

end

theorem eq_inData_iff {env : Environment} {d e : Data} :
    e = inData env d ↔ e.outline = d.outline ∧ e.texts = d.texts.map (inText env) := by
  constructor
  · rintro rfl
    exact ⟨outline_inData env d, texts_inData env d⟩
  · rintro ⟨ho, ht⟩
    exact Data.eq_of_outline_of_texts (ho.trans (outline_inData env d).symm)
      (ht.trans (texts_inData env d).symm)

theorem toList_value (env : Environment) (name : String) :
    value env name.toList =
      ((env.find? name).getD ("$\x7b" ++ name ++ "\x7d")).toList := by
  rw [value, String.ofList_toList]
  cases env.find? name with
  | none => simp [reference]
  | some v => rfl

/-- A reference is replaced by itself, whatever its value is and whatever stands around
it, and a text without references stays as it is. In a nested value the texts are
replaced where they stand, and that is all. -/
theorem context_free_and_shape_preserving (env : Environment) :
    (∀ a b name : String, IsName name.toList →
      inText env (a ++ ("$\x7b" ++ name ++ "\x7d") ++ b) =
        inText env a ++ (env.find? name).getD ("$\x7b" ++ name ++ "\x7d") ++ inText env b) ∧
    (∀ s : String, Plain s.toList → inText env s = s) ∧
    ∀ d e : Data, e = inData env d ↔
      e.outline = d.outline ∧ e.texts = d.texts.map (inText env) := by
  refine ⟨fun a b name hname => ?_, fun s hs => ?_, fun d e => eq_inData_iff⟩
  · have htext : (a ++ ("$\x7b" ++ name ++ "\x7d") ++ b).toList =
        a.toList ++ (reference name.toList ++ b.toList) := by
      simp [reference]
    rw [inText, htext, apply_append_reference _ _ hname, toList_value]
    simp [inText, String.ofList_append, String.append_assoc]
  · rw [inText, apply_of_plain hs, String.ofList_toList]

/-- A value that completes a reference with the text in front of it. -/
theorem context_free_at_completed_reference :
    inText [("A", "B\x7d"), ("B", "b")] "$\x7b$\x7bA\x7d" = "$\x7bB\x7d" := by
  have hname : IsName "A".toList :=
    ⟨⟨'A', rfl, .inl (by decide)⟩, by simp [IsLetter]⟩
  obtain ⟨hreference, hplain, -⟩ :=
    context_free_and_shape_preserving [("A", "B\x7d"), ("B", "b")]
  have hopen := hplain "$\x7b" (plain_of_notMem (by decide))
  have hempty := hplain "" (plain_of_notMem (by decide))
  have htext := hreference "$\x7b" "" "A" hname
  rw [hopen, hempty] at htext
  exact htext

end Substitution

end PageAtlas
