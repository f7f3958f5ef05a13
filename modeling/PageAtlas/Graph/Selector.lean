import PageAtlas.Failure

namespace PageAtlas

/-!
# Selectors

How a node says which elements it stands for. A definition names the type of
its selector by a word; only when the node is reached is the word looked up,
and the selector turned into a query that every kind of locator understands.
-/

inductive SelectorType where
  | css
  | xpath
  | js
  | cssContainingText
  deriving DecidableEq, Repr

namespace SelectorType

def word : SelectorType → String
  | css => "css"
  | xpath => "xpath"
  | js => "js"
  | cssContainingText => "cssContainingText"

/-- The type of that word; letter case counts. -/
def ofWord? (w : String) : Option SelectorType :=
  if w = "css" then some css
  else if w = "xpath" then some xpath
  else if w = "js" then some js
  else if w = "cssContainingText" then some cssContainingText
  else none

theorem ofWord?_eq_some_iff {w : String} {t : SelectorType} : ofWord? w = some t ↔ w = t.word := by
  constructor
  · intro h
    unfold ofWord? at h
    split at h
    · cases h; assumption
    · split at h
      · cases h; assumption
      · split at h
        · cases h; assumption
        · split at h
          · cases h; assumption
          · cases h
  · rintro rfl
    cases t <;> decide

end SelectorType

/-- What to look for, whatever builds the locator. -/
structure Query where
  type : SelectorType
  selector : String
  text : Option String := none
  deriving DecidableEq, Repr

/-- The query of a declared selector. A selector by contained text needs a
text that is not empty; the other types ignore the text. -/
def Query.of (name : Option String) (selectorType selector : String) (text : Option String) :
    Except Failure Query :=
  match SelectorType.ofWord? selectorType with
  | none => .error (.unknownSelectorType name selectorType)
  | some .cssContainingText =>
      match text with
      | none => .error (.missingText name)
      | some t =>
          if t = "" then .error (.missingText name)
          else .ok { type := .cssContainingText, selector, text := some t }
  | some type => .ok { type, selector }

end PageAtlas
