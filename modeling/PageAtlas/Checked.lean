namespace PageAtlas

/-!
# Checks that collect

The result of a check is a value, or everything that is wrong. Two checks are
combined by keeping what is wrong with either.
-/

/-- A checked value, or every issue found. -/
abbrev Checked (ε α : Type) := Except (List ε) α

namespace Checked

variable {ε α β : Type}

/-- The issues of a result; a value has none. -/
def issues : Checked ε α → List ε
  | .ok _ => []
  | .error es => es

/-- Combines two results, the issues of the first coming first. -/
def both (x : Checked ε α) (y : Checked ε β) : Checked ε (α × β) :=
  match x, y with
  | .ok a, .ok b => .ok (a, b)
  | .ok _, .error es => .error es
  | .error es, .ok _ => .error es
  | .error es, .error es' => .error (es ++ es')

def map (f : α → β) : Checked ε α → Checked ε β
  | .ok a => .ok (f a)
  | .error es => .error es

@[simp] theorem issues_both (x : Checked ε α) (y : Checked ε β) :
    issues (both x y) = issues x ++ issues y := by
  cases x <;> cases y <;> simp [both, issues]

@[simp] theorem issues_map (f : α → β) (x : Checked ε α) : issues (map f x) = issues x := by
  cases x <;> rfl

theorem both_eq_ok_iff {x : Checked ε α} {y : Checked ε β} {p : α × β} :
    both x y = .ok p ↔ x = .ok p.1 ∧ y = .ok p.2 := by
  obtain ⟨a, b⟩ := p
  cases x <;> cases y <;> simp [both]

theorem map_eq_ok_iff {f : α → β} {x : Checked ε α} {b : β} :
    map f x = .ok b ↔ ∃ a, x = .ok a ∧ f a = b := by
  cases x <;> simp [map]

end Checked

end PageAtlas
