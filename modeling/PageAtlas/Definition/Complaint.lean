import PageAtlas.Checked
import PageAtlas.Definition.Data

namespace PageAtlas

/-!
# Complaints about a definition

What may be wrong with a value of a definition file, and where. Checks collect
all complaints: two results are combined by keeping the complaints of both.
-/

inductive Complaint where
  | missing
  | notText
  | undecodableText
  | notList
  | notTruth
  | unreadableTruth
  | blankAlias
  | separatorInAlias
  | blankSelector
  | blankPage
  | repeatedWithoutSelector
  | notTable
  | noTag
  | unknownTag (shown : String)
  deriving DecidableEq, Repr

def Complaint.message : Complaint → String
  | missing => "Field required"
  | notText => "Input should be a valid string"
  | undecodableText =>
      "Input should be a valid string, unable to parse raw data as a unicode string"
  | notList => "Input should be a valid list"
  | notTruth => "Input should be a valid boolean"
  | unreadableTruth => "Input should be a valid boolean, unable to interpret input"
  | blankAlias => "Value error, alias cannot be empty"
  | separatorInAlias => "Value error, alias cannot contain '>' (hop separator)"
  | blankSelector => "Value error, selector cannot be empty"
  | blankPage => "Value error, page cannot be empty"
  | repeatedWithoutSelector => "Value error, a repeated component needs a selector"
  | notTable => "Input should be a valid dictionary or object to extract fields from"
  | noTag => "Unable to extract tag using discriminator 'type'"
  | unknownTag shown =>
      "Input tag '" ++ shown ++
        "' found using 'type' does not match any of the expected tags: " ++
        "'element', 'collection', 'component'"

/-- One step on the way to a value: a field, the tag of an entry or its place. -/
inductive Segment where
  | name (n : String)
  | place (i : Nat)
  deriving DecidableEq, Repr

def Segment.shown : Segment → String
  | name n => n
  | place i => Text.Numeral.ofNat i

structure Issue where
  location : List Segment
  complaint : Complaint
  deriving DecidableEq, Repr

namespace Issue

def line (i : Issue) : String :=
  "  - " ++ String.intercalate "." (i.location.map Segment.shown) ++ ": " ++ i.complaint.message

def under (s : Segment) (i : Issue) : Issue := { i with location := s :: i.location }

end Issue

namespace Checked

variable {α : Type}

def under (s : Segment) : Checked Issue α → Checked Issue α
  | .ok a => .ok a
  | .error es => .error (es.map (Issue.under s))

def complain (c : Complaint) : Checked Issue α := .error [⟨[], c⟩]

@[simp] theorem issues_under (s : Segment) (x : Checked Issue α) :
    issues (under s x) = (issues x).map (Issue.under s) := by
  cases x <;> rfl

@[simp] theorem under_eq_ok_iff {s : Segment} {x : Checked Issue α} {a : α} :
    under s x = .ok a ↔ x = .ok a := by
  cases x <;> simp [under]

@[simp] theorem complain_ne_ok (c : Complaint) (a : α) : complain c ≠ .ok a := by
  simp [complain]

end Checked

end PageAtlas
