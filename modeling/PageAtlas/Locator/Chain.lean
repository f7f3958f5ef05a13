import PageAtlas.Locator.Driver
import PageAtlas.Ordered

namespace PageAtlas

/-!
# Selector chains

The driver of a dry run. A chain is a list of parts, printed with ` >> ` in
between; the texts of a collection are looked up by its printed form.
-/

inductive Part where
  | root (selector : String)
  | css (selector : String)
  | xpath (selector : String)
  | js (engine selector : String)
  | hasText (text : String)
  | nth (index : Int)
  deriving DecidableEq, Repr

def Part.shown : Part → String
  | root selector => selector
  | css selector => selector
  | xpath selector => "xpath=" ++ selector
  | js engine selector => engine ++ "=" ++ selector
  | hasText text => Text.Pattern.hasText text
  | nth index => "nth=" ++ Text.Numeral.ofInt index

structure Chain where
  parts : List Part
  engine : Engine
  deriving DecidableEq, Repr

namespace Chain

def separator : String := " >> "

def shown (c : Chain) : String := String.intercalate separator (c.parts.map Part.shown)

def extend (c : Chain) (p : Part) (engine : Engine) : Chain := ⟨c.parts ++ [p], engine⟩

def elementAt (c : Chain) (index : Int) : Chain := c.extend (.nth index) .nth

def first (c : Chain) : Chain := c.elementAt 0

def all (jsEngine : String) (scope : Chain) (q : Query) : Chain :=
  match q.type with
  | .css => scope.extend (.css q.selector) .css
  | .xpath => scope.extend (.xpath q.selector) .xpath
  | .js => scope.extend (.js jsEngine q.selector) .js
  | .cssContainingText =>
      (scope.extend (.css q.selector) .css).extend (.hasText (q.text.getD "")) .cssText

/-- A collection by css takes the text condition as one more part. -/
def combine? (c : Chain) (text : String) : Option Chain :=
  if c.engine = .css then some (c.extend (.hasText text) .cssText) else none

def withText (c : Chain) (text : String) : Chain := c.extend (.hasText text) .filter

/-- The texts of the elements of a collection; a text may be missing. -/
abbrev Texts := Ordered String (List (Option String))

/-- The elements of a collection with their texts, numbered from `start`. -/
def candidates (c : Chain) : Nat → List (Option String) → List (Candidate Chain)
  | _, [] => []
  | i, t :: ts => ⟨c.elementAt i, ⟨t, []⟩⟩ :: candidates c (i + 1) ts

/-- The driver of a dry run over the given texts. No call is ever made. -/
def driver (naming : Naming) (texts : Texts) : Driver Chain where
  root := ⟨⟨[.root naming.rootSelector], .root⟩, []⟩
  locate scope q multiple :=
    let found := all naming.jsEngine scope q
    ⟨if multiple then found else found.first, []⟩
  elementAt := elementAt
  first := first
  combine? c text := (c.combine? text).map (⟨·, []⟩)
  withText c text := ⟨c.withText text, []⟩
  scan c := ⟨c.candidates 0 ((texts.find? c.shown).getD []), []⟩
  engine := Chain.engine

end Chain

end PageAtlas
