import PageAtlas.Locator.Driver
import PageAtlas.Resolution.Run
import PageAtlas.Text.Containment

namespace PageAtlas

/-!
# Matching by text

The first element of a collection that contains a text. Where the driver can
put the text into the query of the collection, no element is looked at.
Otherwise the elements are scanned in document order up to the first match;
without one, the text stays a condition of the locator.
-/

namespace TextMatch

variable {L : Type} (d : Driver L)

/-- Whether a fetched text contains the wanted one. A missing text is empty. -/
def accepts (wanted : String) (fetched : Option String) : Bool :=
  Text.contains (fetched.getD "") wanted

/-- The locator when no element of the scan contains the text. -/
def fallback (collection : L) (wanted : String) (scanned : Nat) : Run L := do
  Run.log (.unmatched wanted scanned)
  let narrowed ← Run.called (d.withText collection wanted)
  pure (d.first narrowed)

/-- Fetches one text after the other, up to the first that matches. -/
def scan (collection : L) (wanted : String) : Nat → List (Candidate L) → Run L
  | scanned, [] => fallback d collection wanted scanned
  | scanned, c :: cs => do
      let fetched ← Run.called c.fetch
      if accepts wanted fetched then
        Run.log (.foundAt wanted scanned)
        pure c.locator
      else scan collection wanted (scanned + 1) cs

/-- The combined query, unless combining is switched off or impossible. -/
def combined? (combine : Bool) (collection : L) (wanted : String) : Option (Called L) :=
  if combine then d.combine? collection wanted else none

def find (combine : Bool) (collection : L) (wanted : String) : Run L :=
  match combined? d combine collection wanted with
  | some query => do
      let combined ← Run.called query
      Run.log (.combined wanted)
      pure (d.first combined)
  | none => do
      let elements ← Run.called (d.scan collection)
      scan d collection wanted 0 elements

end TextMatch

end PageAtlas
