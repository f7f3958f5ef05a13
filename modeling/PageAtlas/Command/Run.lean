import PageAtlas.Command.Invocation
import PageAtlas.Command.Live
import PageAtlas.Command.Validate
import PageAtlas.Locator.Chain
import PageAtlas.Log.State
import PageAtlas.Path.Hop

namespace PageAtlas

/-!
# Running commands

What a command prints, with which status it ends, and what it leaves behind. A
failure of resolution is printed; any other obstacle ends the command, with
nothing printed but the lines before a line that cannot be. What a command binds
to the log is unbound at its end.
-/

structure Workplace where
  settings : Settings
  env : Environment
  tree : FileTree
  logging : Logging
  /-- The page behind an address, if there is a browser. -/
  site : Option Site := none

structure Outcome where
  status : Nat := 0
  output : String := ""
  /-- An obstacle that was not printed. -/
  obstacle : Option Obstacle := none
  /-- Why a page could not be built, which ended the command. -/
  unbuilt : Option BuildFault := none
  logging : Logging
  events : List BrowserEvent := []
  calls : List Call := []

namespace Outcome

def printed (w : Workplace) (status : Nat) (lines : List String) : Outcome :=
  { status, output := String.join (lines.map (· ++ "\n")), logging := w.logging }

/-- Prints spelled lines, of which the first that cannot be printed ends the command. -/
def said (w : Workplace) (status : Nat) (lines : List String) : Outcome :=
  match Text.Spelling.printLines lines with
  | (output, none) => { status, output, logging := w.logging }
  | (output, some e) =>
      { status := 1, output, obstacle := some (.unprintable e), logging := w.logging }

/-- Adds that a page could not be built, unless the command had ended before. -/
def halted (e : BuildFault) (o : Outcome) : Outcome :=
  { o with unbuilt := if o.obstacle.isNone then some e else none }

def refused (l : Logging) : Outcome := { status := 2, logging := l }

end Outcome

namespace Workplace

open Text.Spelling (ofText)

def config (w : Workplace) : Outcome := .printed w 0 [Json.pretty w.settings.toJson]

def parse (w : Workplace) (path : String) : Outcome :=
  match Path.parse path with
  | .ok hops => .printed w 0 [Path.describe hops]
  | .error f =>
      if f.reportName?.isSome then .printed w 1 ["ERR " ++ f.message]
      else { status := 1, obstacle := some (.failure f), logging := w.logging }

def validate (w : Workplace) (targets : List String) (dir : Option String) (recursive : Bool) :
    Outcome :=
  match w.tree.visited w.settings targets dir recursive with
  | .error path =>
      { status := 1, obstacle := some (.overlong path.shown), logging := w.logging }
  | .ok none => .printed w 2 ["Provide file(s) or --dir to validate."]
  | .ok (some []) => .printed w 1 ["No page definitions found."]
  | .ok (some files) =>
      match ({} : Report).files w.env w.tree files with
      | (r, none) => .said w (if r.sound then 0 else 1) r.lines
      | (r, some e) => (Outcome.said w 1 r.lines).halted e

/-- What a chain is printed as; without one, a word for nothing. -/
def chainText : Option Chain → String
  | some c => c.shown
  | none => "None"

/-- The line of a resolution that failed; other obstacles have none. -/
def obstacleLine? (path : String) : Obstacle → Option String
  | .failure f =>
      f.reportName?.map fun name => "ERR " ++ path ++ "  ->  " ++ name ++ ": " ++ f.message
  | _ => none

def dryRun (w : Workplace) (page : Block) (path : String) (strict : Option Bool) :
    Except Obstacle String :=
  let driver := Chain.driver w.settings.naming []
  let run := resolvePath definitionGraph driver (w.settings.options strict) page path
  match w.logging.cut? run.notes with
  | some (_, fault) => .error (.marks fault)
  | none =>
      match run.result with
      | .ok c => .ok ("OK  " ++ path ++ "  ->  " ++ chainText c)
      | .error f => .error (.failure f)

def liveRun (w : Workplace) (page : Block) (path url : String) (strict : Option Bool) : LiveRun :=
  match w.site with
  | some site => LiveRun.run w.logging w.settings site page path url strict
  | none => ⟨.error .noBrowser, [], []⟩

def pageKey : String := "page"

/-- What is logged about a resolution that failed, if a line will be printed. -/
def failureNote? (f : Failure) : Option String :=
  f.reportName?.map fun name =>
    "Resolution failed: " ++ name ++ "(" ++ Text.Spelling.quoted f.message ++ ")"

/-- The result of a resolution once its failure has been logged, which is itself
an obstacle if it cannot be done. -/
def noted (w : Workplace) (result : Except Obstacle String) : Except Obstacle String :=
  match result with
  | .error (.failure f) =>
      match (failureNote? f).bind w.logging.traceFault? with
      | some fault => .error (.marks fault)
      | none => result
  | _ => result

/-- Ends a resolution: prints its line, and unbinds the page. -/
def conclude (w : Workplace) (path : String) (result : Except Obstacle String)
    (events : List BrowserEvent) (calls : List Call) : Outcome :=
  let result := w.noted result
  let w := { w with logging := w.logging.unbind [pageKey] }
  let outcome :=
    match result with
    | .ok line => Outcome.said w 0 [line]
    | .error o =>
        match obstacleLine? path o with
        | some line => Outcome.said w 1 [line]
        | none => { status := 1, obstacle := some o, logging := w.logging }
  { outcome with events, calls }

/-- Resolves a path against a page of a definition file. An empty address
counts as none. What is given is spelled before it is compared with a definition. -/
def resolve (w : Workplace) (definition path : String) (page url : Option String)
    (strict : Option Bool) : Outcome :=
  let file := FilePath.ofText definition
  let selected : Except LoadFault Block :=
    match PageDef.load w.env file.shown (w.tree.read file) with
    | .error e => .error e
    | .ok ps => PageDef.buildSelected definition (page.map ofText) ps
  match selected with
  | .error e => .said w 1 ["ERR " ++ ofText definition ++ "  ->  " ++ e.message]
  | .ok root =>
      let path := ofText path
      let w := { w with logging := w.logging.bind [(pageKey, .str root.header.name)] }
      match nonEmpty? url with
      | none => w.conclude path (w.dryRun root path strict) [] []
      | some url =>
          let live := w.liveRun root path url strict
          let result := live.outcome.map fun n =>
            "OK  " ++ path ++ "  ->  " ++ Text.Numeral.ofNat n ++ " match(es) at " ++ ofText url
          w.conclude path result live.events live.calls

def help (w : Workplace) : Outcome :=
  .printed w 0
    ["Usage: pagepath [--log-level LEVEL] COMMAND [ARGS]...",
      "",
      "Commands:",
      "  config                   Print the effective settings.",
      "  parse PATH               Show how PATH splits into hops.",
      "  validate [FILES]...      Validate page definition files.",
      "  resolve DEFINITION PATH  Resolve PATH against the page in DEFINITION."]

def invoke (w : Workplace) : Invocation → Outcome
  | .help => w.help
  | .config => w.config
  | .parse path => w.parse path
  | .validate targets dir recursive => w.validate targets dir recursive
  | .resolve definition path page url strict => w.resolve definition path page url strict

def withLevel (w : Workplace) : Option LogLevel → Workplace
  | some l => { w with logging := { w.logging with level := l.number } }
  | none => w

/-- Runs a command line. The log level is set before the arguments of the
command are read. -/
def run (w : Workplace) (args : List String) : Outcome :=
  match Preface.read? args with
  | none => .refused w.logging
  | some .help => w.help
  | some .version => .printed w 0 ["pagepath, version 0.1.0"]
  | some (.command level name rest) =>
      let w := w.withLevel level
      match Invocation.read? w.tree name rest with
      | none => .refused w.logging
      | some i => w.invoke i

end Workplace

end PageAtlas
