import PageAtlas.Definition.Complaint
import PageAtlas.Definition.Page
import PageAtlas.Text.Blank
import PageAtlas.Text.Bytes

namespace PageAtlas

/-!
# Checking a definition

The rules for a page definition. Fields are checked in a fixed order and every
complaint is kept. An alias is neither blank nor does it hold the separator of
paths, so that each node can be addressed. A repeated component needs a
selector; this is looked at only when its fields are without complaint.
-/

namespace Check

def text : Data → Except Complaint String
  | .text s => .ok s
  | .bytes b =>
      match Text.decodeBytes? b with
      | some s => .ok (Text.Spelling.ofText s)
      | none => .error .undecodableText
  | _ => .error .notText

def optionalText : Data → Except Complaint (Option String)
  | .null => .ok none
  | d =>
      match text d with
      | .ok s => .ok (some s)
      | .error c => .error c

/-- The words for a truth value, letter case aside. -/
def truthWord? (s : String) : Option Bool :=
  let w := s.toList.map Char.toLower
  if ["0", "off", "f", "false", "n", "no"].any (·.toList == w) then some false
  else if ["1", "on", "t", "true", "y", "yes"].any (·.toList == w) then some true
  else none

/-- The integers of 64 bits reach from the negative of this number to below it. -/
def wordBound : Int := Decimal.twoTo 63

/-- A truth value: one of the words, zero or one, or the value itself. Other
numbers are told apart by whether they are integers of 64 bits, and other texts by
whether they hold surrogates. -/
def truth : Data → Except Complaint Bool
  | .bool b => .ok b
  | .int i => if -wordBound ≤ i && i < wordBound then number i else .error .notTruth
  | .real x =>
      match x.toInt? with
      | some i => if -wordBound < i && i < wordBound then number i else .error .notTruth
      | none => .error .notTruth
  | .text s => if Text.Spelling.hasSurrogate s then .error .undecodableText else word s
  | .bytes b =>
      match Text.decodeBytes? b with
      | some s => word s
      | none => .error .unreadableTruth
  | _ => .error .notTruth
where
  number (i : Int) : Except Complaint Bool :=
    if i = 0 then .ok false else if i = 1 then .ok true else .error .unreadableTruth
  word (s : String) : Except Complaint Bool :=
    match truthWord? s with
    | some b => .ok b
    | none => .error .unreadableTruth

/-- An alias: not blank, and without the separator of paths. -/
def name (d : Data) : Except Complaint String :=
  match text d with
  | .error c => .error c
  | .ok s =>
      if Text.allBlank s.toList then .error .blankAlias
      else if s.toList.contains Path.separator then .error .separatorInAlias
      else .ok s

/-- A text without outer blanks, of which something has to be left. -/
def trimmed (blank : Complaint) (d : Data) : Except Complaint String :=
  match text d with
  | .error c => .error c
  | .ok s =>
      let t := Text.trim s.toList
      if t.isEmpty then .error blank else .ok (String.ofList t)

def required {α : Type} (name : String) (check : Data → Except Complaint α)
    (entries : List (Data × Data)) : Checked Issue α :=
  Checked.under (.name name) <|
    match Data.entry? name entries with
    | none => Checked.complain .missing
    | some d =>
        match check d with
        | .ok a => .ok a
        | .error c => Checked.complain c

def optional {α : Type} (name : String) (default : α) (check : Data → Except Complaint α)
    (entries : List (Data × Data)) : Checked Issue α :=
  Checked.under (.name name) <|
    match Data.entry? name entries with
    | none => .ok default
    | some d =>
        match check d with
        | .ok a => .ok a
        | .error c => Checked.complain c

/-- What an entry of a node list calls itself. -/
inductive Tag where
  | element
  | collection
  | component
  deriving DecidableEq, Repr

def Tag.word : Tag → String
  | element => "element"
  | collection => "collection"
  | component => "component"

def tag (entries : List (Data × Data)) : Except Complaint Tag :=
  match Data.entry? "type" entries with
  | none => .error .noTag
  | some (.text s) =>
      if s = "element" then .ok .element
      else if s = "collection" then .ok .collection
      else if s = "component" then .ok .component
      else .error (.unknownTag (Text.Spelling.lossy s))
  | some d => .error (.unknownTag d.display)

def common (entries : List (Data × Data)) : Checked Issue (String × String × Option String) :=
  Checked.both (required "alias" name entries)
    (Checked.both (optional "selector_type" "css" text entries)
      (optional "text" none optionalText entries))

def leaf (repeated : Bool) (entries : List (Data × Data)) : Checked Issue NodeDef :=
  Checked.map
    (fun ((name, selectorType, text), selector) =>
      .leaf { name, selector, selectorType, text, repeated })
    (Checked.both (common entries) (required "selector" (trimmed .blankSelector) entries))

def header (entries : List (Data × Data)) : Checked Issue Header :=
  Checked.map
    (fun ((name, selectorType, text), selector, repeated) =>
      { name, selectorType, text, selector, repeated })
    (Checked.both (common entries)
      (Checked.both (optional "selector" none optionalText entries)
        (optional "collection" false truth entries)))

def assemble (parts : Checked Issue (Header × List NodeDef)) : Checked Issue NodeDef :=
  match parts with
  | .error es => .error es
  | .ok (h, nodes) =>
      if h.repeated && (nonEmpty? h.selector).isNone then
        Checked.complain .repeatedWithoutSelector
      else .ok (.component h nodes)

mutual

def node : Data → Checked Issue NodeDef
  | .table entries =>
      match tag entries with
      | .error c => Checked.complain c
      | .ok t =>
          Checked.under (.name t.word) <|
            match t with
            | .element => leaf false entries
            | .collection => leaf true entries
            | .component => assemble (Checked.both (header entries) (nodesField entries))
  | _ => Checked.complain .notTable

/-- The `nodes` among the entries of a table; without any, there are none. -/
def nodesField : List (Data × Data) → Checked Issue (List NodeDef)
  | [] => .ok []
  | (.text k, v) :: es =>
      if k = "nodes" then Checked.under (.name "nodes") (nodeList v) else nodesField es
  | _ :: es => nodesField es

/-- The value of `nodes`: a list, or another sequence. -/
def nodeList : Data → Checked Issue (List NodeDef)
  | .list ds => nodes 0 ds
  | .set ds => nodes 0 ds
  | .pair a b => Checked.map (fun (x, y) => [x, y])
      (Checked.both (Checked.under (.place 0) (node a)) (Checked.under (.place 1) (node b)))
  | _ => Checked.complain .notList

def nodes (place : Nat) : List Data → Checked Issue (List NodeDef)
  | [] => .ok []
  | d :: ds =>
      Checked.map (fun (n, ns) => n :: ns)
        (Checked.both (Checked.under (.place place) (node d)) (nodes (place + 1) ds))

end

def page (entries : List (Data × Data)) : Checked Issue PageDef :=
  Checked.map
    (fun (version, page, description, nodes) => { version, page, description, nodes })
    (Checked.both (optional "version" "1" text entries)
      (Checked.both (required "page" (trimmed .blankPage) entries)
        (Checked.both (optional "description" none optionalText entries)
          (nodesField entries))))

end Check

end PageAtlas
