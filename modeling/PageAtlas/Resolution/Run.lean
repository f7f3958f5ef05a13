import PageAtlas.Failure
import PageAtlas.Locator.Call
import PageAtlas.Text.Quoted

namespace PageAtlas

/-!
# Runs

A run yields a value or a failure, together with the notes taken on the way:
the aliases looked up, the lines logged and the calls made to the page. The
notes of a run that fails are kept.
-/

/-- What is worth a line in the log. -/
inductive Event where
  | grouping (name : Option String)
  | matched (name : Option String) (multiple : Bool)
  | picking (name : String) (index : Int)
  | containing (name text : String)
  | resolved (hops : Nat) (root : Option String)
  | combined (text : String)
  | foundAt (text : String) (position : Nat)
  | unmatched (text : String) (scanned : Nat)
  | requested (path : String)
  deriving DecidableEq, Repr

/-- The part of the library that logs an event. -/
inductive Channel where
  | resolver
  | textMatch
  | page
  deriving DecidableEq, Repr

namespace Event

def channel : Event → Channel
  | combined .. => .textMatch
  | foundAt .. => .textMatch
  | unmatched .. => .textMatch
  | requested .. => .page
  | _ => .resolver

def hop (name : Option String) (what : String) : String :=
  "hop '" ++ Failure.shown name ++ "': " ++ what

def message (elapsed : String) : Event → String
  | grouping name => hop name "grouping component, scope unchanged"
  | matched name multiple => hop name (if multiple then "all matches" else "first match")
  | picking name index => hop (some name) ("element " ++ Text.Numeral.ofInt index)
  | containing name text => hop (some name) ("element containing " ++ Text.quoted text)
  | resolved hops root =>
      "Resolved " ++ Text.Numeral.ofNat hops ++ " hop(s) from '" ++ Failure.shown root ++
        "' in " ++ elapsed
  | combined text => "text match " ++ Text.quoted text ++ ": rewritten query"
  | foundAt text position =>
      "text match " ++ Text.quoted text ++ ": element " ++ Text.Numeral.ofNat position ++
        " after scan"
  | unmatched text scanned =>
      "text match " ++ Text.quoted text ++ ": no match among " ++ Text.Numeral.ofNat scanned ++
        " element(s)"
  | requested path => "get_element(" ++ Text.quoted path ++ ")"

end Event

inductive Note where
  | lookup (name : String)
  | event (e : Event)
  | call (c : Call)
  deriving DecidableEq, Repr

structure Run (α : Type) where
  result : Except Failure α
  notes : List Note := []

namespace Run

variable {α β : Type}

protected def pure (a : α) : Run α := ⟨.ok a, []⟩

protected def bind (x : Run α) (f : α → Run β) : Run β :=
  match x.result with
  | .error e => ⟨.error e, x.notes⟩
  | .ok a => ⟨(f a).result, x.notes ++ (f a).notes⟩

instance : Monad Run where
  pure := Run.pure
  bind := Run.bind

def fail (e : Failure) : Run α := ⟨.error e, []⟩

def ofExcept (r : Except Failure α) : Run α := ⟨r, []⟩

def note (n : Note) : Run Unit := ⟨.ok (), [n]⟩

def log (e : Event) : Run Unit := note (.event e)

def called (c : Called α) : Run α := ⟨.ok c.value, c.calls.map .call⟩

def events (x : Run α) : List Event := x.notes.filterMap fun
  | .event e => some e
  | _ => none

def callsIn (notes : List Note) : List Call := notes.filterMap fun
  | .call c => some c
  | _ => none

def calls (x : Run α) : List Call := callsIn x.notes

/-- The notes up to the first event of which a fault is known, and that fault. -/
def cut? {ε : Type} (fault? : Event → Option ε) : List Note → Option (List Note × ε)
  | [] => none
  | .event e :: ns =>
      match fault? e with
      | some x => some ([.event e], x)
      | none => (cut? fault? ns).map fun (ms, x) => (.event e :: ms, x)
  | n :: ns => (cut? fault? ns).map fun (ms, x) => (n :: ms, x)

def lookups (x : Run α) : List String := x.notes.filterMap fun
  | .lookup a => some a
  | _ => none

end Run

end PageAtlas
