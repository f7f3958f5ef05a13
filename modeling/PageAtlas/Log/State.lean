import PageAtlas.Files.Tree
import PageAtlas.Log.Record
import PageAtlas.Markup.Nesting
import PageAtlas.Settings.Basic

namespace PageAtlas

/-!
# Logging

Logging is set up once, from the settings, when a logger is first asked for.
The set-up replaces the handlers that are there; later ones are kept. What is
bound is attached to every record until it is unbound; a scoped logger keeps
what was bound when it was made. A console that knows marks refuses a message
with wrong ones, and then no later handler gets it.
-/

inductive LogHandler where
  | console (markup : Bool)
  | file
  /-- One that is none of its own. -/
  | other (id : Nat)
  deriving DecidableEq, Repr

structure Logging where
  configured : Bool := false
  level : Nat := 30
  /-- The level of the logger of the browser library; zero if it has none. -/
  browserLevel : Nat := 0
  handlers : List LogHandler := []
  /-- Where the records of the file handler go. -/
  file : FilePath := {}
  context : LogContext := []

/-- A logger; a scoped one has a context of its own. -/
structure Logger where
  name : String
  scope : Option LogContext := none

namespace Logging

def browserLogger : String := "playwright"

/-- Sets logging up, unless that has been done. Where records go to a file, its
directory is made; if that fails, logging counts as not set up. -/
def configure (s : Settings) (tree : FileTree) (l : Logging) :
    Logging × FileTree × Option FileTree.MakeFault :=
  if l.configured then (l, tree, none)
  else
    let console : LogHandler := .console s.colorized
    let level := s.logLevel.number
    let started := { l with level, handlers := [console] }
    let ready := { started with configured := true, browserLevel := max level 30 }
    if s.logToFile then
      match tree.make s.logFile.parent with
      | (tree, some e) => (started, tree, some e)
      | (tree, none) => ({ ready with handlers := [console, .file], file := s.logFile }, tree, none)
    else (ready, tree, none)

/-- Sets the level under a name, letter case aside. -/
def setLevel (name : String) (l : Logging) : Except String Logging :=
  let name := Text.upper name
  match LogLevel.numberOf? name with
  | some n => .ok { l with level := n }
  | none => .error (LogLevel.unknown name)

/-- Adds a handler that is none of its own, unless it is there. -/
def addHandler (id : Nat) (l : Logging) : Logging :=
  if .other id ∈ l.handlers then l else { l with handlers := l.handlers ++ [.other id] }

def bind (values : LogContext) (l : Logging) : Logging :=
  { l with context := l.context.update values }

/-- Unbinds names; nothing happens for one that is not bound. -/
def unbind (names : List String) (l : Logging) : Logging :=
  { l with context := names.foldl (fun c n => c.erase n) l.context }

/-- The logger of a name; the library's own if there is none. -/
def logger (name : Option String) : Logger :=
  { name := match name with
      | some n => if n = "" then "pagepath" else n
      | none => "pagepath" }

/-- A logger with what is bound now, and more. -/
def snapshot (of : Logger) (values : LogContext) (l : Logging) : Logger :=
  { name := of.name, scope := some (l.context.update values) }

def contextOf (g : Logger) (l : Logging) : LogContext := g.scope.getD l.context

def threshold (g : Logger) (l : Logging) : Nat :=
  let ofBrowser :=
    g.name = browserLogger || (browserLogger ++ ".").toList.isPrefixOf g.name.toList
  if ofBrowser && l.browserLevel ≠ 0 then l.browserLevel else l.level

def isEnabled (g : Logger) (level : Nat) (l : Logging) : Bool := l.threshold g ≤ level

/-- Passes a record on to handlers, one after the other. Wherever one writes to the
file it is written as a line; a record without one is passed over there. -/
def deliver (file : FilePath) (record : LogRecord) (tree : FileTree) :
    List LogHandler → FileTree × Option Markup.MarkFault
  | [] => (tree, none)
  | .console true :: hs =>
      match Markup.fault? record.message with
      | some e => (tree, some e)
      | none => deliver file record tree hs
  | .file :: hs =>
      match record.line with
      | .ok line => deliver file record (tree.addLine file line) hs
      | .error _ => deliver file record tree hs
  | _ :: hs => deliver file record tree hs

/-- Passes a record on, if its level is enabled, which is told along with what
is left of the files. -/
def emit (g : Logger) (level : Nat) (message : String) (created : Moment) (tree : FileTree)
    (l : Logging) : FileTree × Except Markup.MarkFault Bool :=
  if l.isEnabled g level then
    let record : LogRecord :=
      { created, level := LogLevel.nameOf level, logger := g.name, message,
        context := l.contextOf g }
    match deliver l.file record tree l.handlers with
    | (tree, some e) => (tree, .error e)
    | (tree, none) => (tree, .ok true)
  else (tree, .ok false)

/-- Why the library cannot log a message of its own for tracing a resolution, if
it cannot. -/
def traceFault? (message : String) (l : Logging) : Option Markup.MarkFault :=
  if l.isEnabled (logger none) LogLevel.debug.number && l.handlers.contains (.console true) then
    Markup.fault? message
  else none

end Logging

end PageAtlas
