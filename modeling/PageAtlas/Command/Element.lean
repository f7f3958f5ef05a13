import PageAtlas.Command.Run

namespace PageAtlas

/-!
# Elements of a page

A page with a driver gives the element behind a path, as the thing that the driver's
own callers work with. That it is asked for is logged before anything else is done.
-/

/-- A driver, and what its callers get for the locator of a path. -/
structure Attached (L N : Type) where
  driver : Driver L
  unwrap : Option L → Except Obstacle N

/-- The callers of a dry run get the printed form of a chain. -/
def Chain.attached (naming : Naming) (texts : Texts) : Attached Chain String where
  driver := driver naming texts
  unwrap c := .ok (Workplace.chainText c)

/-- On a page the callers get what the browser finds by; there is nothing to get it
from where a path has no locator. -/
def PageLocator.attached (naming : Naming) (page : PageTexts) : Attached PageLocator (List Step) where
  driver := driver naming page
  unwrap
    | some l => .ok l.steps
    | none => .error .noLocator

/-- A page is the root of its graph, and may have a driver. -/
structure PageObject (ν L N : Type) where
  root : ν
  attached : Option (Attached L N) := none

inductive ElementFault where
  | noDriver (page : Option String)
  | obstacle (o : Obstacle)
  deriving DecidableEq, Repr

def ElementFault.message : ElementFault → String
  | noDriver page => "page '" ++ Failure.shown page ++ "' has no driver attached"
  | obstacle o => o.message

/-- What asking for an element comes to, and what was logged and done for it. -/
structure ElementRun (N : Type) where
  outcome : Except ElementFault N
  notes : List Note

/-- The element behind a path. A line that cannot be logged ends the run where it
stands. -/
def PageObject.element {ν L N : Type} (g : Graph ν) (l : Logging) (o : Options)
    (p : PageObject ν L N) (path : String) : ElementRun N :=
  let request : Note := .event (.requested path)
  match l.cut? [request], p.attached with
  | some (notes, fault), _ => ⟨.error (.obstacle (.marks fault)), notes⟩
  | none, none => ⟨.error (.noDriver (g.component p.root).name), [request]⟩
  | none, some a =>
      let run := resolvePath g a.driver o p.root path
      match l.cut? run.notes with
      | some (notes, fault) => ⟨.error (.obstacle (.marks fault)), request :: notes⟩
      | none =>
          let outcome :=
            match run.result with
            | .error f => .error (.obstacle (.failure f))
            | .ok located =>
                match a.unwrap located with
                | .error o => .error (.obstacle o)
                | .ok native => .ok native
          ⟨outcome, request :: run.notes⟩

end PageAtlas
