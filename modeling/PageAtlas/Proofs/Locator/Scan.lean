import PageAtlas.Locator.Chain
import PageAtlas.Locator.Page
import PageAtlas.Proofs.Resolution.Outcome

/-!
# Scans by position

Both drivers yield the elements of a collection by their positions. A scan is
then determined by the texts that it meets: it picks the position of the first
one that contains the wanted text. On a page these are the texts to which the
collection evaluates.
-/

namespace PageAtlas

namespace Driver

variable {L : Type}

/-- The texts that a scan meets, in document order. A missing text is empty. -/
def enumerated (d : Driver L) (collection : L) : List String :=
  (d.scan collection).value.map fun e => e.fetch.value.getD ""

/-- The elements of a scan are those of the collection by position. -/
def ScansByPosition (d : Driver L) : Prop :=
  ∀ collection (i : Nat) e, (d.scan collection).value[i]? = some e →
    e.locator = d.elementAt collection i

end Driver

namespace TextMatch

variable {L : Type} {d : Driver L}

theorem chosen_of_combined {combine : Bool} {collection : L} {wanted : String} {query : Called L}
    (h : combined? d combine collection wanted = some query) :
    chosen d combine collection wanted = d.first query.value := by
  rw [chosen, h]

theorem chosen_of_scan (hd : d.ScansByPosition) {combine : Bool} {collection : L} {wanted : String}
    (h : combined? d combine collection wanted = none) :
    chosen d combine collection wanted =
      match (d.enumerated collection).findIdx? (Text.contains · wanted) with
      | some i => d.elementAt collection i
      | none => d.first (d.withText collection wanted).value := by
  have hidx : (d.enumerated collection).findIdx? (Text.contains · wanted) =
      (d.scan collection).value.findIdx? fun e => accepts wanted e.fetch.value := by
    rw [Driver.enumerated, List.findIdx?_map]
    rfl
  rw [chosen, h, hidx]
  simp only [List.find?_eq_bind_findIdx?_getElem?]
  cases hi : (d.scan collection).value.findIdx? fun e => accepts wanted e.fetch.value with
  | none => rfl
  | some i =>
      obtain ⟨hlt, _, _⟩ := List.findIdx?_eq_some_iff_getElem.1 hi
      have hget : (d.scan collection).value[i]? = some (d.scan collection).value[i] :=
        List.getElem?_eq_getElem hlt
      simp only [Option.bind_some, hget]
      exact hd collection i _ hget

end TextMatch

namespace Chain

theorem getElem?_candidates {c : Chain} {ts : List (Option String)} {start i : Nat}
    {e : Candidate Chain} (h : (c.candidates start ts)[i]? = some e) :
    e.locator = c.elementAt (start + i : Nat) := by
  induction ts generalizing start i with
  | nil => simp [candidates] at h
  | cons t ts ih =>
      rw [candidates] at h
      cases i with
      | zero =>
          cases h
          rfl
      | succ i =>
          rw [ih (by simpa using h)]
          congr 2
          omega

theorem scansByPosition (naming : Naming) (texts : Texts) :
    (driver naming texts).ScansByPosition := by
  intro c i e h
  rw [getElem?_candidates h, Nat.zero_add]
  rfl

end Chain

namespace PageTexts

variable (page : PageTexts)

theorem evaluate_append {steps : List Step} (h : steps ≠ []) (more : List Step) :
    page.evaluate (steps ++ more) = more.foldl page.apply (page.evaluate steps) := by
  cases steps with
  | nil => exact absurd rfl h
  | cons s steps => exact List.foldl_append

theorem slice_natCast (ts : List String) (i : Nat) : slice ts i = (ts.drop i).take 1 := by
  simp [slice]

theorem head?_slice (ts : List String) (i : Nat) : (slice ts i).head? = ts[i]? := by
  rw [slice_natCast, List.head?_take]
  simp

end PageTexts

namespace PageLocator

theorem scansByPosition (naming : Naming) (page : PageTexts) :
    (driver naming page).ScansByPosition := by
  intro l i e h
  simp only [driver, List.getElem?_map, Option.map_eq_some_iff] at h
  obtain ⟨j, hj, rfl⟩ := h
  obtain ⟨_, rfl⟩ := List.getElem?_eq_some_iff.1 hj
  simp [candidate, driver]

/-- Scanning a collection meets the texts to which it evaluates. -/
theorem enumerated_eq_evaluate (naming : Naming) (page : PageTexts) (l : PageLocator) :
    (driver naming page).enumerated l = page.evaluate l.steps := by
  by_cases hl : l.steps = []
  · simp [Driver.enumerated, driver, hl, PageTexts.evaluate]
  · refine List.ext_getElem (by simp [Driver.enumerated, driver]) fun i h₁ h₂ => ?_
    have heval : page.evaluate (l.elementAt i).steps = PageTexts.slice (page.evaluate l.steps) i :=
      page.evaluate_append hl [.nth i]
    simp [Driver.enumerated, driver, candidate, heval, PageTexts.head?_slice, h₂]

end PageLocator

end PageAtlas
