import PageAtlas.Text.Numeral

namespace PageAtlas

/-!
# Failures of a resolution

Why a path could not be read or followed. The first six are reported to the
user as the outcome of a resolution; the last three are misuse of the library.
-/

inductive Failure where
  /-- No node of that alias is registered in the scope. -/
  | aliasNotFound (name : String) (scope : Option String)
  /-- A qualifier was put on a node that matches a single element. -/
  | notACollection (name : String)
  /-- The selector type is none of the known ones. -/
  | unknownSelectorType (name : Option String) (selectorType : String)
  /-- A selector by contained text has no text. -/
  | missingText (name : Option String)
  /-- A qualifier counts elements, but not by a positive number. -/
  | malformedQualifier (token reason : String)
  /-- A single node was looked for under several elements at once. -/
  | ambiguousScope (name scope : Option String)
  /-- An index has more digits than are read as a number. -/
  | oversizedIndex (digits : Nat)
  /-- An index has more digits than are written. -/
  | unwritableIndex
  /-- There was no hop to follow. -/
  | noHops
  deriving DecidableEq, Repr

namespace Failure

/-- An alias as it appears in a message. -/
def shown (name : Option String) : String := name.getD "None"

/-- The scope of an unknown alias is named unless it is missing or empty. -/
def scopeClause : Option String → String
  | none => ""
  | some scope => if scope = "" then "" else " in '" ++ scope ++ "'"

def message : Failure → String
  | aliasNotFound name scope => "There is no such element: '" ++ name ++ "'" ++ scopeClause scope
  | notACollection name => "'" ++ name ++ "' is not a collection"
  | unknownSelectorType name selectorType =>
      "Selector type '" ++ selectorType ++ "' of '" ++ shown name ++ "' is not defined"
  | missingText name =>
      "Text is not defined for cssContainingText selector of '" ++ shown name ++ "'"
  | malformedQualifier token reason => "Malformed qualifier '" ++ token ++ "': " ++ reason
  | ambiguousScope name scope =>
      "'" ++ shown name ++ "' is scoped under collection '" ++ shown scope ++
        "'; pick one element first (e.g. '#1 of " ++ shown scope ++ "')"
  | oversizedIndex digits => Text.Numeral.oversized digits
  | unwritableIndex => Text.Numeral.unwritable
  | noHops => "cannot resolve a path without hops"

/-- The name under which a failure is reported, if it is an outcome of
resolution and not a misuse. -/
def reportName? : Failure → Option String
  | aliasNotFound .. => some "AliasNotFound"
  | notACollection .. => some "NotACollection"
  | unknownSelectorType .. => some "UnknownSelectorType"
  | missingText .. => some "MissingText"
  | malformedQualifier .. => some "MalformedQualifier"
  | ambiguousScope .. => some "AmbiguousScope"
  | oversizedIndex .. => none
  | unwritableIndex => none
  | noHops => none

end Failure

end PageAtlas
