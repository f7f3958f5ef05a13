import PageAtlas.Text.Pattern
import PageAtlas.Text.Numeral

namespace PageAtlas

/-!
# Page locators and the calls that build them

A page locator is a list of steps. Building one asks the page for nothing but
the locator itself; a scan also counts elements and reads their texts. Each of
these is a call, recorded in the order in which it is made.
-/

inductive Step where
  /-- Elements matching a selector, and containing a text if one is given. -/
  | select (selector : String) (text : Option String)
  /-- The elements so far that contain a text. -/
  | filter (text : String)
  /-- The element at a position, from the end if it is negative. -/
  | nth (index : Int)
  /-- The first element. -/
  | first
  deriving DecidableEq, Repr

namespace Step

def condition (text : String) : String := "[has_text=/" ++ Text.Pattern.ofText text ++ "/]"

/-- The step as it is shown in a path of steps. -/
def shown : Step → String
  | select selector none => selector
  | select selector (some text) => selector ++ condition text
  | filter text => "filter" ++ condition text
  | nth index => "nth=" ++ Text.Numeral.ofInt index
  | first => "first"

def path (steps : List Step) : String := String.intercalate " >> " (steps.map shown)

end Step

/-- A call to the page, with the steps of the locator it is made on. -/
inductive Call where
  | locator (on : List Step) (selector : String) (text : Option String)
  | filter (on : List Step) (text : String)
  | count (on : List Step)
  | innerText (on : List Step)
  deriving DecidableEq, Repr

/-- A value, and the calls that were made to obtain it. -/
structure Called (α : Type) where
  value : α
  calls : List Call := []
  deriving Repr

end PageAtlas
