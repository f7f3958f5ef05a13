import PageAtlas.Checked

/-!
# Checks that tell what is wrong

A check that collects issues tells what is wrong if it has a result whenever it finds none.
Checks that are combined from such ones tell it too.
-/

namespace PageAtlas

namespace Checked

variable {ε α β : Type}

/-- A check that finds no issue has a result. -/
def Telling (x : Checked ε α) : Prop := issues x = [] → ∃ a, x = .ok a

theorem telling_ok (a : α) : Telling (.ok a : Checked ε α) := fun _ => ⟨a, rfl⟩

namespace Telling

theorem ne_nil {es : List ε} (h : Telling (.error es : Checked ε α)) : es ≠ [] := by
  intro hnil
  obtain ⟨a, ha⟩ := h hnil
  cases ha

theorem both {x : Checked ε α} {y : Checked ε β} (hx : x.Telling) (hy : y.Telling) :
    (Checked.both x y).Telling := by
  intro h
  rw [issues_both, List.append_eq_nil_iff] at h
  obtain ⟨a, rfl⟩ := hx h.1
  obtain ⟨b, rfl⟩ := hy h.2
  exact ⟨(a, b), rfl⟩

theorem map {x : Checked ε α} (hx : x.Telling) (f : α → β) : (Checked.map f x).Telling := by
  intro h
  rw [issues_map] at h
  obtain ⟨a, rfl⟩ := hx h
  exact ⟨f a, rfl⟩

end Telling

end Checked

end PageAtlas
