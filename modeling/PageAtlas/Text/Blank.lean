namespace PageAtlas.Text

/-!
# Blank characters

What counts as padding: the characters of the Unicode property `White_Space`
and, where paths and names are concerned, the four information separators.
Trimming works on lists of characters, so that what it removes can be stated
with `takeWhile` and `dropWhile`.
-/

/-- The characters of the Unicode property `White_Space`. -/
def isSpace (c : Char) : Bool :=
  let n := c.toNat
  (9 ≤ n && n ≤ 13) || n == 0x20 || n == 0x85 || n == 0xA0 || n == 0x1680 ||
    (0x2000 ≤ n && n ≤ 0x200A) || n == 0x2028 || n == 0x2029 || n == 0x202F ||
    n == 0x205F || n == 0x3000

/-- White space and the information separators U+001C to U+001F. -/
def isBlank (c : Char) : Bool :=
  isSpace c || (0x1C ≤ c.toNat && c.toNat ≤ 0x1F)

/-- Removes the longest run of characters satisfying `p` from the end. -/
def dropTrailing (p : Char → Bool) : List Char → List Char
  | [] => []
  | c :: cs =>
      match dropTrailing p cs with
      | [] => if p c then [] else [c]
      | kept => c :: kept

def trimStart (cs : List Char) : List Char := cs.dropWhile isBlank

def trimEnd (cs : List Char) : List Char := dropTrailing isBlank cs

def trim (cs : List Char) : List Char := trimEnd (trimStart cs)

/-- A text is blank when nothing is left after trimming. -/
def allBlank (cs : List Char) : Bool := cs.all isBlank

@[simp] theorem dropTrailing_nil (p : Char → Bool) : dropTrailing p [] = [] := rfl

theorem dropTrailing_eq_nil_iff {p : Char → Bool} {cs : List Char} :
    dropTrailing p cs = [] ↔ ∀ c ∈ cs, p c = true := by
  induction cs with
  | nil => simp
  | cons c cs ih =>
      rw [dropTrailing]
      cases h : dropTrailing p cs with
      | nil =>
          have hcs := ih.1 h
          by_cases hp : p c = true
          · simp only [hp, if_true, true_iff]
            intro x hx
            rcases List.mem_cons.1 hx with rfl | hx
            · exact hp
            · exact hcs x hx
          · simp [hp]
      | cons d ds =>
          simp only [reduceCtorEq, List.mem_cons, forall_eq_or_imp, false_iff, not_and]
          intro _ hall
          rw [ih.2 hall] at h
          cases h

/-- What trimming leaves is a prefix; what it removes is blank. -/
theorem dropTrailing_append_blanks (p : Char → Bool) (cs : List Char) :
    ∃ pad, cs = dropTrailing p cs ++ pad ∧ ∀ c ∈ pad, p c = true := by
  induction cs with
  | nil => exact ⟨[], by simp⟩
  | cons c cs ih =>
      obtain ⟨pad, hpad, hall⟩ := ih
      rw [dropTrailing]
      cases h : dropTrailing p cs with
      | nil =>
          rw [h] at hpad
          by_cases hp : p c = true
          · refine ⟨c :: pad, by simpa [hp] using hpad, ?_⟩
            intro x hx
            rcases List.mem_cons.1 hx with rfl | hx
            · exact hp
            · exact hall x hx
          · exact ⟨pad, by simp [hp, ← hpad], hall⟩
      | cons d ds =>
          rw [h] at hpad
          exact ⟨pad, by simp [hpad], hall⟩

/-- The last character that is kept does not satisfy the predicate. -/
theorem getLast?_dropTrailing {p : Char → Bool} {cs : List Char} {c : Char}
    (h : (dropTrailing p cs).getLast? = some c) : p c = false := by
  induction cs with
  | nil => simp at h
  | cons d ds ih =>
      rw [dropTrailing] at h
      cases hds : dropTrailing p ds with
      | nil =>
          rw [hds] at h
          by_cases hp : p d = true
          · simp [hp] at h
          · simp only [hp] at h
            simp at h
            subst h
            simpa using hp
      | cons e es =>
          rw [hds] at h ih
          exact ih (by simpa using h)

end PageAtlas.Text
