import PageAtlas.Definition.Data

namespace PageAtlas

/-!
# Substitution from the environment

A reference `${NAME}` in a text is replaced by the value of that variable, if
it is set. What has been put in is not looked at again. Keys and everything
that is not a text stay as they are.
-/

/-- Variables and their values; names are distinct. -/
abbrev Environment := Ordered String String

def Environment.spelled (env : Environment) : Environment :=
  env.map fun (name, value) => (name, Text.Spelling.ofText value)

namespace Substitution

def startsName (c : Char) : Bool := c.isAlpha || c == '_'

def continuesName (c : Char) : Bool := c.isAlphanum || c == '_'

def name? (cs : List Char) : Option (List Char × List Char) :=
  let name := cs.takeWhile continuesName
  match name, cs.dropWhile continuesName with
  | c :: _, '\x7d' :: rest => if startsName c then some (name, rest) else none
  | _, _ => none

def reference (name : List Char) : List Char := '$' :: '\x7b' :: name ++ ['\x7d']

def value (env : Environment) (name : List Char) : List Char :=
  match env.find? (String.ofList name) with
  | some v => v.toList
  | none => reference name

/-- The reference that a text begins with: its name, and what follows it. -/
def reference? : List Char → Option (List Char × List Char)
  | '$' :: '\x7b' :: rest => name? rest
  | _ => none

theorem length_of_name? {cs name rest : List Char} (h : name? cs = some (name, rest)) :
    rest.length < cs.length := by
  unfold name? at h
  simp only at h
  split at h
  · rename_i c l r _ hd
    split at h
    · simp only [Option.some.injEq, Prod.mk.injEq] at h
      obtain ⟨_, rfl⟩ := h
      have hl : (cs.dropWhile continuesName).length ≤ cs.length :=
        (List.dropWhile_suffix _).length_le
      rw [hd] at hl
      simp only [List.length_cons] at hl
      omega
    · cases h
  · cases h

theorem length_of_reference? {cs name rest : List Char}
    (h : reference? cs = some (name, rest)) : rest.length < cs.length := by
  unfold reference? at h
  split at h
  · have := length_of_name? h
    simp only [List.length_cons]
    omega
  · cases h

/-- Replaces the references in a text, from left to right. -/
def apply (env : Environment) : List Char → List Char
  | [] => []
  | c :: cs =>
      match h : reference? (c :: cs) with
      | some (name, rest) =>
          have := length_of_reference? h
          value env name ++ apply env rest
      | none => c :: apply env cs
  termination_by cs => cs.length
  decreasing_by all_goals grind

def inText (env : Environment) (s : String) : String := String.ofList (apply env s.toList)

mutual

def inData (env : Environment) : Data → Data
  | .text s => .text (inText env s)
  | .list items => .list (inItems env items)
  | .table entries => .table (inEntries env entries)
  | d => d

def inItems (env : Environment) : List Data → List Data
  | [] => []
  | d :: ds => inData env d :: inItems env ds

def inEntries (env : Environment) : List (Data × Data) → List (Data × Data)
  | [] => []
  | (k, v) :: es => (k, inData env v) :: inEntries env es

end

end Substitution

end PageAtlas
