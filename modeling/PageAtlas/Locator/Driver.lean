import PageAtlas.Graph.Selector
import PageAtlas.Locator.Call

namespace PageAtlas

/-!
# Drivers

What resolution needs to compose locators. A driver builds locators without
looking at any element; only a scan enumerates a collection, and then fetches
the text of one element after the other.
-/

/-- What produced the last part of a locator. -/
inductive Engine where
  | root
  | css
  | xpath
  | js
  | cssText
  | filter
  | nth
  deriving DecidableEq, Repr

def Engine.word : Engine → String
  | root => "root"
  | css => "css"
  | xpath => "xpath"
  | js => "js"
  | cssText => "css-text"
  | filter => "filter"
  | nth => "nth"

/-- An element met in a scan; fetching its text is a call of its own. -/
structure Candidate (L : Type) where
  locator : L
  fetch : Called (Option String)

structure Driver (L : Type) where
  /-- The scope of the first hop. -/
  root : Called L
  /-- The matches of a query under a scope: all of them, or the first. -/
  locate : L → Query → Bool → Called L
  /-- The element of a collection at a position counted from zero. -/
  elementAt : L → Int → L
  first : L → L
  /-- The collection and a text in one combined query, where the engine of the
  collection allows it. -/
  combine? : L → String → Option (Called L)
  /-- The collection narrowed to the elements that contain a text when the
  locator is evaluated. -/
  withText : L → String → Called L
  /-- The elements of a collection in document order. -/
  scan : L → Called (List (Candidate L))
  engine : L → Engine

/-- The root selector and the name of the `js` engine. -/
structure Naming where
  rootSelector : String := "html"
  jsEngine : String := "pagepath-js"
  deriving DecidableEq, Repr

end PageAtlas
