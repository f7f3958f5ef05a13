import PageAtlas.Yaml.Value

namespace PageAtlas.Yaml

/-!
# Documents

A stream holds documents one after another. All but the first begin with a
line of three dashes; directives may stand in front of it. Each document is
valued as soon as it has been read, so a fault inside it comes before anything
that is wrong with the text after it.
-/

namespace Reading

def directives : Nat → Bool → Ordered String String → Reading (Ordered String String)
  | 0, _, _ => fail .malformed
  | fuel + 1, versioned, handles => do
      match ← peek with
      | .directive d =>
          skip
          match d with
          | .version major =>
              if versioned || major ≠ 1 then fail .malformed
              else directives fuel true handles
          | .tag handle start =>
              if (handles.find? handle).isSome then fail .malformed
              else directives fuel versioned (handles.insert handle start)
          | .other => directives fuel versioned handles
      | _ => return handles

def declare (handles : Ordered String String) : Reading Unit := do
  let missing := defaultHandles.filter fun (h, _) => (handles.find? h).isNone
  modify fun r => { r with handles := handles ++ missing, nodes := #[], anchors := [] }

def skipEnds : Nat → Reading Unit
  | 0 => fail .malformed
  | fuel + 1 => do
      if ← accept .documentEnd then skipEnds fuel

def endsDocument : Token → Bool
  | .directive _ => true
  | .documentStart => true
  | .documentEnd => true
  | .streamEnd => true
  | _ => false

def content (fuel : Nat) : Reading Place := do
  if endsDocument (← peek) then addEmpty else node true false fuel

/-- A document with directives or a line of dashes in front, unless the stream
has ended. -/
def announced? (fuel : Nat) : Reading (Option Place) := do
  skipEnds fuel
  if (← peek) = .streamEnd then return none
  else
    declare (← directives fuel false [])
    expect .documentStart
    return some (← content fuel)

def first? (fuel : Nat) : Reading (Option Place) := do
  match ← peek with
  | .directive _ => announced? fuel
  | .documentStart => announced? fuel
  | .streamEnd => return none
  | _ =>
      declare []
      return some (← node true false fuel)

/-- The end of a document, which shows only at the token after it. -/
def documentEnd : Reading Unit := do
  if ← accept .documentEnd then return

def document? (first : Bool) (fuel : Nat) : Reading (Option Place) := do
  match ← (if first then first? fuel else announced? fuel) with
  | none => return none
  | some root =>
      documentEnd
      return some root

end Reading

def Reading.documents (fuel : Nat) : Nat → Bool → Reader → Except Fault (List Document)
  | 0, _, _ => .error .malformed
  | steps + 1, first, r => do
      match ← Reading.document? first fuel r with
      | (none, _) => return []
      | (some root, r) =>
          let d ← r.nodes.document root
          return d :: (← Reading.documents fuel steps false r)

def documents (text : List Char) : Except Fault (List Document) :=
  if !text.all isAllowed then .error .malformed
  else
    let tokens := Tokens.ofText text
    let r : Reader := { items := tokens.items, fault := tokens.fault.getD .malformed }
    let size := tokens.items.length
    Reading.documents (5 * size + 8) (size + 1) true r

end PageAtlas.Yaml
