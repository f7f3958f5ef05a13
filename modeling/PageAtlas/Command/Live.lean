import PageAtlas.Locator.Page
import PageAtlas.Log.State
import PageAtlas.Resolution.Walk

namespace PageAtlas

/-!
# Live resolution

A path is resolved on a page in a browser, and its matches are counted. The
browser is closed and stopped however that ends. What is done is logged, and a
line that cannot be logged ends the run where it stands.
-/

/-- What is asked of a browser, in the order in which it is asked. -/
inductive BrowserEvent where
  | register (engine : String)
  | launch (browser : Browser) (headless : Bool)
  | newPage
  /-- Loads a page; the time allowed is in milliseconds. -/
  | goto (url : String) (timeout : Int)
  | close
  | stop
  deriving DecidableEq, Repr

/-- How a page answers: the texts it shows, which are spelled, or why it cannot be
loaded. -/
structure Site where
  texts : PageTexts := []
  refusal : Option String := none

inductive Obstacle where
  | failure (f : Failure)
  /-- The path has no locator to count the matches of. -/
  | noLocator
  | unreachable (reason : String)
  /-- A path is too long to be followed. -/
  | overlong (path : String)
  /-- A line of the log cannot be shown. -/
  | marks (fault : Markup.MarkFault)
  /-- A line cannot be printed. -/
  | unprintable (fault : Text.EncodeFault)
  /-- There is no browser. -/
  | noBrowser
  deriving DecidableEq, Repr

namespace Obstacle

def message : Obstacle → String
  | failure f => f.message
  | noLocator => "'NoneType' object has no attribute 'locator'"
  | unreachable reason => reason
  | overlong path => LoadFault.overlong path
  | marks fault => fault.message
  | unprintable fault => fault.message
  | noBrowser => "no browser is available"

end Obstacle

/-- A live run: its outcome, and what was asked of browser and page. -/
structure LiveRun where
  outcome : Except Obstacle Nat
  events : List BrowserEvent
  calls : List Call

namespace Settings

/-- The names that locators are built with, spelled like the texts of a definition. -/
def naming (s : Settings) : Naming :=
  ⟨Text.Spelling.ofText s.rootSelector, Text.Spelling.ofText s.jsEngine⟩

/-- How a walk behaves; strictness may be given. -/
def options (s : Settings) (strict : Option Bool) : Options :=
  ⟨s.combineText, strict.getD s.strictScope⟩

end Settings

namespace Logging

/-- The first event of a run that cannot be logged: the notes up to it, and what
is wrong. How long something took plays no part. -/
def cut? (l : Logging) (notes : List Note) : Option (List Note × Markup.MarkFault) :=
  Run.cut? (fun e => l.traceFault? (e.message "")) notes

end Logging

namespace LiveRun

def session (s : Settings) (url : String) : List BrowserEvent :=
  [.register s.jsEngine, .launch s.browser s.headless, .newPage, .goto url s.loadTimeout, .close,
    .stop]

def registered (engine : String) : String :=
  "Registered js selector engine as '" ++ engine ++ "'"

def count (l : Logging) (s : Settings) (texts : PageTexts) (page : Block) (path : String)
    (strict : Option Bool) : Except Obstacle Nat × List Call :=
  let d := PageLocator.driver s.naming texts
  let run := resolvePath definitionGraph d (s.options strict) page path
  match l.cut? run.notes with
  | some (notes, fault) => (.error (.marks fault), Run.callsIn notes)
  | none =>
      match run.result with
      | .error f => (.error (.failure f), run.calls)
      | .ok none => (.error .noLocator, run.calls)
      | .ok (some located) =>
          (.ok (texts.evaluate located.steps).length, run.calls ++ [.count located.steps])

def run (l : Logging) (s : Settings) (site : Site) (page : Block) (path url : String)
    (strict : Option Bool) : LiveRun :=
  match l.traceFault? (registered s.jsEngine), site.refusal with
  | some fault, _ => ⟨.error (.marks fault), [.register s.jsEngine, .stop], []⟩
  | none, some reason => ⟨.error (.unreachable reason), session s url, []⟩
  | none, none =>
      let (outcome, calls) := count l s site.texts page path strict
      ⟨outcome, session s url, calls⟩

end LiveRun

end PageAtlas
