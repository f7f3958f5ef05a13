import PageAtlas.Markup.Literal
import PageAtlas.Markup.Mark
import PageAtlas.Markup.Style
import PageAtlas.Text.Quoted

namespace PageAtlas.Markup

/-!
# Opening and closing marks

A mark that begins with a slash closes the last open mark of its style, or the
last one at all if it names none. Marks that are still open at the end of the
text are closed there.
-/

inductive MarkFault where
  /-- A mark closes a style that is not open. -/
  | unmatched (mark : Mark)
  /-- A mark without a style closes where nothing is open. -/
  | nothingOpen (position : Nat)
  /-- What a handler is called with cannot be read. -/
  | parameters (text shown : String)
  | color (fault : ColorFault)
  deriving DecidableEq, Repr

namespace MarkFault

def message : MarkFault → String
  | unmatched m =>
      "closing tag '" ++ m.shown ++ "' at position " ++ Text.Numeral.ofNat m.position ++
        " doesn't match any open tag"
  | nothingOpen position =>
      "closing tag '[/]' at position " ++ Text.Numeral.ofNat position ++ " has nothing to close"
  | parameters text shown =>
      "error parsing " ++ Text.quoted text ++ " in " ++ Text.quoted shown ++ "; invalid syntax"
  | color .noNumber => "invalid literal for int() with base 10: ''"

end MarkFault

/-- A mark that is open: the name of its style, and its parameters. -/
structure Opened where
  style : String
  parameters : Option String
  deriving DecidableEq, Repr

namespace Opened

/-- Whether a mark stands for a handler of events and not for a style. -/
def isHandler (o : Opened) : Bool := o.style.toList.head? == some '@'

/-- What is wrong with the parameters of a handler, which are looked at when it
is closed. -/
def fault? (o : Opened) : Option MarkFault :=
  match o.isHandler, o.parameters with
  | true, some shown =>
      let text := Text.trim shown.toList
      if shown = "" || Literal.isCall text || Literal.isRow text then none
      else some (.parameters (String.ofList text) shown)
  | _, _ => none

/-- Takes the last mark of a style out of the open ones, the last of which comes
first. -/
def close? (style : String) : List Opened → Option (Opened × List Opened)
  | [] => none
  | o :: os =>
      if o.style = style then some (o, os) else (close? style os).map fun (x, os) => (x, o :: os)

end Opened

/-- The style that a mark closes, blanks aside; empty if it names none. -/
def Mark.closed? (m : Mark) : Option String :=
  match m.name.toList with
  | '/' :: cs => some (String.ofList (Text.trim cs))
  | _ => none

def Mark.close (m : Mark) (style : String) (opened : List Opened) :
    Except MarkFault (Opened × List Opened) :=
  if style = "" then
    match opened with
    | o :: os => .ok (o, os)
    | [] => .error (.nothingOpen m.position)
  else
    match Style.canonical style with
    | .error e => .error (.color e)
    | .ok name =>
        match Opened.close? name opened with
        | some r => .ok r
        | none => .error (.unmatched m)

/-- The first fault of marks, given those that are open before them. -/
def faultOf? (opened : List Opened) : List Mark → Option MarkFault
  | [] => none
  | m :: ms =>
      match m.closed? with
      | none =>
          match Style.canonical m.name with
          | .error e => some (.color e)
          | .ok style => faultOf? (⟨style, m.parameters⟩ :: opened) ms
      | some style =>
          match m.close style opened with
          | .error e => some e
          | .ok (o, os) =>
              match o.fault? with
              | some e => some e
              | none => faultOf? os ms

/-- Why a text with marks cannot be shown, if it cannot. -/
def fault? (text : String) : Option MarkFault := faultOf? [] (Mark.all text)

end PageAtlas.Markup
