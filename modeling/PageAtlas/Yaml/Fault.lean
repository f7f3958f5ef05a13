import PageAtlas.Text.Spelling

namespace PageAtlas.Yaml

/-!
# Faults of a document stream

Either the text is no YAML, which is all that is said about it, or a scalar is
well formed but has no value.
-/

inductive Fault where
  | malformed
  /-- An escape gives the number of no character. -/
  | noCharacter
  /-- An escape gives a number beyond the words of the machine. -/
  | hugeCharacter
  /-- A date, a time or an offset is out of range. -/
  | calendar (reason : String)
  | notInteger (base : Nat) (text : String)
  | oversizedInteger (digits : Nat)
  | notReal (text : String)
  | notTruth (text : String)
  | notTimestamp
  /-- A date or a moment is not written as a scalar. -/
  | notScalar
  /-- A number has no character at all. -/
  | noDigits
  /-- A place of a number in base sixty counts more than a double can hold. -/
  | hugePlace
  /-- A collection contains itself. -/
  | endless
  deriving DecidableEq, Repr

/-- How much of a quoted numeral a report shows, in characters. -/
def Fault.shownLength : Nat := 200

/-- The text of a fault; there is none for a text that is no YAML. -/
def Fault.message : Fault → String
  | malformed => ""
  | noCharacter => "chr() arg not in range(0x110000)"
  | hugeCharacter => "Python int too large to convert to C int"
  | calendar reason => reason
  | notInteger base text =>
      "invalid literal for int() with base " ++ Text.Numeral.ofNat base ++ ": " ++
        String.ofList ((Text.Spelling.quoted text).toList.take shownLength)
  | oversizedInteger digits => Text.Numeral.oversized digits
  | notReal text => "could not convert string to float: " ++ Text.Spelling.quoted text
  | notTruth text => Text.Spelling.quoted text
  | notTimestamp => "'NoneType' object has no attribute 'groupdict'"
  | notScalar => "expected string or bytes-like object, got 'list'"
  | noDigits => "string index out of range"
  | hugePlace => "int too large to convert to float"
  | endless => "maximum recursion depth exceeded"

end PageAtlas.Yaml
