import Mathlib.Data.List.Infix
import PageAtlas.Locator.Chain
import PageAtlas.Locator.Page

/-!
# Literal conditions

The pattern of a text spells that text and no other one. Between the slashes of a
selector step it still does, and no slash of the text closes it. So a condition
of a chain and one of a page let the same texts through.
-/

namespace PageAtlas.Text.Pattern

def operators : List Char := "\\.^$*+?()[]\x7b\x7d|".toList

/-- What a pattern spells from left to right: a backslash makes the next character
literal, which is no letter and no digit, and no reserved character stands without one. -/
inductive Spells (reserved : List Char) : List Char → List Char → Prop
  | nil : Spells reserved [] []
  | escaped {c : Char} {pattern cs : List Char} (hc : c.isAlphanum = false)
      (h : Spells reserved pattern cs) : Spells reserved ('\\' :: c :: pattern) (c :: cs)
  | bare {c : Char} {pattern cs : List Char} (hc : c ∉ reserved)
      (h : Spells reserved pattern cs) : Spells reserved (c :: pattern) (c :: cs)

/-- A pattern is found in a text if it spells a run of its characters. -/
def FoundIn (pattern hay : List Char) : Prop :=
  ∃ run, run <:+: hay ∧ Spells operators pattern run

/-- What stands before the first slash without a backslash, and what follows that slash. -/
def closed? : List Char → Option (List Char × List Char)
  | [] => none
  | '\\' :: c :: cs => (closed? cs).map fun (pattern, rest) => ('\\' :: c :: pattern, rest)
  | c :: cs =>
      if c = '/' then some ([], cs)
      else (closed? cs).map fun (pattern, rest) => (c :: pattern, rest)

variable {reserved reserved' pattern cs cs' hay : List Char}

/-! ## What a pattern spells -/

theorem Spells.unique (hback : '\\' ∈ reserved) (h : Spells reserved pattern cs)
    (h' : Spells reserved pattern cs') : cs = cs' := by
  induction h generalizing cs' with
  | nil =>
      cases h'
      rfl
  | escaped _ _ ih =>
      cases h' with
      | escaped _ h' => rw [ih h']
      | bare hc => exact absurd hback hc
  | bare hc _ ih =>
      cases h' with
      | escaped => exact absurd hback hc
      | bare _ h' => rw [ih h']

theorem Spells.mono (hsub : reserved ⊆ reserved') (h : Spells reserved' pattern cs) :
    Spells reserved pattern cs := by
  induction h with
  | nil => exact .nil
  | escaped hc _ ih => exact .escaped hc ih
  | bare hc _ ih => exact .bare (fun hmem => hc (hsub hmem)) ih

theorem Spells.iff_eq (hback : '\\' ∈ reserved) (h : Spells reserved pattern cs) :
    Spells reserved pattern cs' ↔ cs' = cs := by
  constructor
  · exact fun h' => h'.unique hback h
  · rintro rfl
    exact h

theorem foundIn_iff (h : Spells operators pattern cs) : FoundIn pattern hay ↔ cs <:+: hay := by
  constructor
  · rintro ⟨run, hrun, hspells⟩
    rwa [h.unique (by decide) hspells]
  · exact fun hcs => ⟨cs, hcs, h⟩

/-- A reserved slash of a pattern has a backslash, so it is not the closing one. -/
theorem Spells.closed?_append (hback : '\\' ∈ reserved) (hslash : '/' ∈ reserved)
    (h : Spells reserved pattern cs) (rest : List Char) :
    closed? (pattern ++ '/' :: rest) = some (pattern, rest) := by
  induction h with
  | nil => rfl
  | escaped _ _ ih => rw [List.cons_append, List.cons_append, closed?, ih, Option.map_some]
  | @bare c _ _ hc _ ih =>
      have hne : c ≠ '/' := fun h => hc (h ▸ hslash)
      rw [List.cons_append, closed?, if_neg hne, ih, Option.map_some]
      exact fun _ _ h => absurd (h ▸ hback) hc

/-! ## Patterns of texts -/

theorem isSpecial_of_mem_operators {c : Char} (h : c ∈ operators) : isSpecial c = true := by
  have hall : operators.all isSpecial = true := by decide
  exact List.all_eq_true.1 hall c h

theorem not_isAlphanum_of_isSpecial {c : Char} (h : isSpecial c = true) :
    c.isAlphanum = false := by
  have hall : ("()[]\x7b\x7d?*+-|^$\\.&~# \t\n\r\x0b\x0c".toList.all
      fun d => d.isAlphanum == false) = true := by decide
  exact eq_of_beq (List.all_eq_true.1 hall c (List.contains_iff_mem.1 h))

theorem notMem_operators {c : Char} (h : isSpecial c = false) : c ∉ operators := by
  intro hmem
  rw [isSpecial_of_mem_operators hmem] at h
  cases h

theorem spells_escape (cs : List Char) : Spells operators (escape cs) cs := by
  induction cs with
  | nil => exact .nil
  | cons c cs ih =>
      rw [escape]
      cases hc : isSpecial c with
      | true => exact .escaped (not_isAlphanum_of_isSpecial hc) ih
      | false => exact .bare (notMem_operators hc) ih

/-- Each pass puts its backslashes where the other has none: a character that the
first one escapes is no slash, and a slash is left to the second one. -/
theorem spells_escapeSlashes (cs : List Char) :
    Spells ('/' :: operators) (escapeSlashes (escape cs)) cs := by
  induction cs with
  | nil => exact .nil
  | cons c cs ih =>
      rw [escape]
      cases hc : isSpecial c with
      | true =>
          have hne : c ≠ '/' := by
            rintro rfl
            exact absurd hc (by decide)
          rw [if_pos rfl, escapeSlashes, if_neg (by decide), escapeSlashes, if_neg hne]
          exact .escaped (not_isAlphanum_of_isSpecial hc) ih
      | false =>
          rw [if_neg (by decide), escapeSlashes]
          by_cases hslash : c = '/'
          · rw [if_pos hslash, hslash]
            exact .escaped (by decide) ih
          · rw [if_neg hslash]
            refine .bare ?_ ih
            rw [List.mem_cons, not_or]
            exact ⟨hslash, notMem_operators hc⟩

theorem mem_containing_iff {text t : String} {ts : List String} :
    t ∈ PageTexts.containing text ts ↔ t ∈ ts ∧ text.toList <:+: t.toList := by
  rw [PageTexts.containing, List.mem_filter, found_escape, occursIn_iff]
  simp only [List.IsInfix, eq_comm]

theorem hasText_injective {text text' : String} (h : hasText text = hasText text') :
    text = text' := by
  unfold hasText at h
  rw [String.append_left_inj, String.append_right_inj] at h
  have hspells := spells_escapeSlashes text'.toList
  rw [← String.ofList_injective h] at hspells
  exact String.toList_injective ((spells_escapeSlashes text.toList).unique (by decide) hspells)

/-- The pattern of a text spells the text and nothing else, so it is found where the
text occurs. The step of a chain has a pattern between slashes of which the second
is the first without a backslash. That pattern spells the text as well, and it is
found in those texts that a page keeps under the condition. So different texts make
different steps. -/
theorem hasText_literal (text : String) :
    (∀ cs, Spells operators (ofText text).toList cs ↔ cs = text.toList) ∧
    (∀ hay : String, FoundIn (ofText text).toList hay.toList ↔ text.toList <:+: hay.toList) ∧
    (∃ pattern, (Part.hasText text).shown = "internal:has-text=/" ++ String.ofList pattern ++ "/" ∧
      (∀ rest, closed? (pattern ++ '/' :: rest) = some (pattern, rest)) ∧
      (∀ cs, Spells ('/' :: operators) pattern cs ↔ cs = text.toList) ∧
      ∀ ts t, t ∈ PageTexts.containing text ts ↔ t ∈ ts ∧ FoundIn pattern t.toList) ∧
    ∀ text', hasText text = hasText text' ↔ text = text' := by
  have hpattern : Spells operators (ofText text).toList text.toList := by
    rw [ofText, String.toList_ofList]
    exact spells_escape text.toList
  have hstep := spells_escapeSlashes text.toList
  refine ⟨fun cs => hpattern.iff_eq (by decide), fun hay => foundIn_iff hpattern,
    ⟨_, rfl, ?_, ?_, ?_⟩, fun text' => ⟨hasText_injective, congrArg hasText⟩⟩
  · exact hstep.closed?_append (by decide) (by decide)
  · exact fun cs => hstep.iff_eq (by decide)
  · intro ts t
    rw [mem_containing_iff, foundIn_iff (hstep.mono (List.subset_cons_self _ _))]

/-- A backslash and a slash keep apart. -/
example : hasText "\\/." = "internal:has-text=/\\\\\\/\\./" := by decide

end PageAtlas.Text.Pattern
