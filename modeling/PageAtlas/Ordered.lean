namespace PageAtlas

/-!
# Mappings in order of first insertion

A mapping is a list of pairs with distinct keys. Writing a key that is present
replaces its value where it stands; a new key goes to the end.
-/

/-- A mapping whose entries stay in order of first insertion. -/
abbrev Ordered (κ α : Type) := List (κ × α)

namespace Ordered

variable {κ α : Type} [DecidableEq κ]

/-- Binds `k` to `a`: in place if `k` is present, at the end otherwise. -/
def insert (k : κ) (a : α) : Ordered κ α → Ordered κ α
  | [] => [(k, a)]
  | (k', a') :: m => if k' = k then (k, a) :: m else (k', a') :: insert k a m

/-- Removes `k`; nothing happens if it is absent. -/
def erase (k : κ) : Ordered κ α → Ordered κ α
  | [] => []
  | (k', a') :: m => if k' = k then m else (k', a') :: erase k m

def find? (k : κ) : Ordered κ α → Option α
  | [] => none
  | (k', a') :: m => if k' = k then some a' else find? k m

/-- Overlays `m` with the bindings of `later`, in their order. -/
def update (m later : Ordered κ α) : Ordered κ α :=
  later.foldl (fun m' (e : κ × α) => m'.insert e.1 e.2) m

def keys (m : Ordered κ α) : List κ := m.map Prod.fst

/-- The mapping that results from writing the pairs one after another. -/
def ofList (l : List (κ × α)) : Ordered κ α := update [] l

theorem find?_insert_self (k : κ) (a : α) (m : Ordered κ α) :
    find? k (insert k a m) = some a := by
  induction m with
  | nil => simp [insert, find?]
  | cons e m ih => by_cases h : e.1 = k <;> simp [insert, find?, h, ih]

theorem find?_insert_ne {k k' : κ} (h : k' ≠ k) (a : α) (m : Ordered κ α) :
    find? k' (insert k a m) = find? k' m := by
  induction m with
  | nil => simp [insert, find?, Ne.symm h]
  | cons e m ih =>
      by_cases he : e.1 = k
      · have hk : k ≠ k' := Ne.symm h
        simp [insert, find?, he, hk]
      · simp [insert, find?, he, ih]

theorem keys_insert (k : κ) (a : α) (m : Ordered κ α) :
    keys (insert k a m) = if k ∈ keys m then keys m else keys m ++ [k] := by
  induction m with
  | nil => simp [insert, keys]
  | cons e m ih =>
      by_cases he : e.1 = k
      · simp [insert, keys, he]
      · have hk : k ≠ e.1 := Ne.symm he
        simp only [keys, insert, he, if_false, List.map_cons] at ih ⊢
        rw [ih]
        by_cases hm : k ∈ List.map Prod.fst m <;> simp [hm, hk]

end Ordered

end PageAtlas
