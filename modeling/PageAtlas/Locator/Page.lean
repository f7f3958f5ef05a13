import PageAtlas.Locator.Driver
import PageAtlas.Ordered
import PageAtlas.Text.Containment

namespace PageAtlas

/-!
# Locators on a page

The driver of a live page, over a page that is known by the texts which each
selector matches. A locator is evaluated lazily, on the texts that the page
has at that moment.
-/

/-- What the page shows now: for each selector the texts of its matches. -/
abbrev PageTexts := Ordered String (List String)

namespace PageTexts

/-- The texts that match a selector, the scope being ignored. -/
def matching (page : PageTexts) (selector : String) : List String :=
  (Ordered.find? selector page).getD []

def containing (text : String) (ts : List String) : List String :=
  ts.filter fun t => Text.Pattern.found (Text.Pattern.escape text.toList) t.toList

/-- The text at a position, as a list of at most one; a negative position
counts from the end, except that the last element has none. -/
def slice (ts : List String) (i : Int) : List String :=
  if 0 ≤ i then (ts.drop i.toNat).take 1
  else if i = -1 then []
  else
    let j := (ts.length : Int) + i
    if j < 0 then [] else (ts.drop j.toNat).take 1

def apply (page : PageTexts) (current : List String) : Step → List String
  | .select selector none => page.matching selector
  | .select selector (some text) => containing text (page.matching selector)
  | .filter text => containing text current
  | .nth i => slice current i
  | .first => current.take 1

/-- The texts that a list of steps matches under the document. The first step
selects the document root, which has an empty text. -/
def evaluate (page : PageTexts) : List Step → List String
  | [] => []
  | _ :: steps => steps.foldl page.apply [""]

end PageTexts

/-- A locator on a page, with the query that made it as long as the query can
still be combined with a text. -/
structure PageLocator where
  steps : List Step
  engine : Engine
  selector : Option String := none
  scope : Option (List Step) := none
  deriving DecidableEq, Repr

namespace PageLocator

def elementAt (l : PageLocator) (index : Int) : PageLocator :=
  ⟨l.steps ++ [.nth index], .nth, none, none⟩

def first (l : PageLocator) : PageLocator := ⟨l.steps ++ [.first], .nth, none, none⟩

def under (on : List Step) (step : String) (text : Option String) (engine : Engine)
    (selector : String) : Called PageLocator :=
  ⟨⟨on ++ [.select step text], engine, some selector, some on⟩, [.locator on step text]⟩

def all (jsEngine : String) (scope : PageLocator) (q : Query) : Called PageLocator :=
  match q.type with
  | .css => under scope.steps q.selector none .css q.selector
  | .xpath => under scope.steps ("xpath=" ++ q.selector) none .xpath q.selector
  | .js => under scope.steps (jsEngine ++ "=" ++ q.selector) none .js q.selector
  | .cssContainingText =>
      under scope.steps q.selector (some (q.text.getD "")) .cssText q.selector

/-- A collection by css is built again under its scope, with the text. -/
def combine? (l : PageLocator) (text : String) : Option (Called PageLocator) :=
  if l.engine = .css then
    match l.scope, l.selector with
    | some on, some selector => some (under on selector (some text) .cssText selector)
    | _, _ => none
  else none

def withText (l : PageLocator) (text : String) : Called PageLocator :=
  ⟨⟨l.steps ++ [.filter text], .filter, none, none⟩, [.filter l.steps text]⟩

/-- The `i`-th element of a scan, which is known to be there. -/
def candidate (page : PageTexts) (l : PageLocator) (i : Nat) : Candidate PageLocator :=
  let element := l.elementAt i
  ⟨element, ⟨(page.evaluate element.steps).head?, [.innerText element.steps]⟩⟩

def driver (naming : Naming) (page : PageTexts) : Driver PageLocator where
  root := ⟨⟨[.select naming.rootSelector none], .root, none, none⟩,
    [.locator [] naming.rootSelector none]⟩
  locate scope q multiple :=
    let found := all naming.jsEngine scope q
    ⟨if multiple then found.value else found.value.first, found.calls⟩
  elementAt := elementAt
  first := first
  combine? := combine?
  withText := withText
  scan l :=
    ⟨(List.range (page.evaluate l.steps).length).map (candidate page l), [.count l.steps]⟩
  engine := PageLocator.engine

end PageLocator

/-- The engine for selectors by script: a selector of this kind is the body of a function of
the scope element, which returns an element, a list of elements, or nothing. -/
def engineScript : String :=
  String.join (List.map (· ++ "\n")
    ["",
      "\x7b",
      "  queryAll(root, body) \x7b",
      "    const found = new Function(\"root\", body)(root);",
      "    if (!found) return [];",
      "    if (found instanceof Element) return [found];",
      "    return Array.from(found);",
      "  \x7d,",
      "  query(root, body) \x7b",
      "    return this.queryAll(root, body)[0] || null;",
      "  \x7d",
      "\x7d"])

end PageAtlas
