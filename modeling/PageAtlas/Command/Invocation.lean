import PageAtlas.Command.Arguments
import PageAtlas.Files.Tree
import PageAtlas.Log.Level

namespace PageAtlas

/-!
# Invocations

What the arguments of the program ask for. A command line is refused if a
command or an option is not known, if arguments are missing or too many, or if
a file or a directory that has to be there is not.
-/

inductive CommandName where
  | config
  | parse
  | validate
  | resolve
  deriving DecidableEq, Repr

def CommandName.ofWord? (w : String) : Option CommandName :=
  if w = "config" then some config
  else if w = "parse" then some parse
  else if w = "validate" then some validate
  else if w = "resolve" then some resolve
  else none

inductive Invocation where
  | help
  | config
  | parse (path : String)
  | validate (targets : List String) (dir : Option String) (recursive : Bool)
  | resolve (definition path : String) (page url : Option String) (strict : Option Bool)
  deriving DecidableEq, Repr

/-- What stands in front of a command. -/
inductive Preface where
  | help
  | version
  /-- A command with its arguments, after the log level was set if one is given. -/
  | command (level : Option LogLevel) (name : CommandName) (rest : List String)
  deriving DecidableEq, Repr

namespace Preface

def helpOptions : List OptionSpec := [⟨"--help", false⟩, ⟨"-h", false⟩]

def options : List OptionSpec := helpOptions ++ [⟨"--log-level", true⟩, ⟨"--version", false⟩]

def asksHelp (a : Arguments) : Bool := a.has "--help" || a.has "-h"

/-- A log level in any letter case. -/
def level? (w : String) : Option LogLevel :=
  LogLevel.ofWord? (String.ofList (w.toList.map Char.toUpper))

def read? (args : List String) : Option Preface :=
  match Arguments.read? options false args with
  | none => none
  | some a =>
      if asksHelp a then some .help
      else if a.has "--version" then some .version
      else
        match a.positional with
        | [] => none
        | word :: rest =>
            match CommandName.ofWord? word, a.value? "--log-level" with
            | none, _ => none
            | some name, none => some (.command none name rest)
            | some name, some w => (level? w).map fun l => .command (some l) name rest

end Preface

namespace Invocation

def options : CommandName → List OptionSpec
  | .config => Preface.helpOptions
  | .parse => Preface.helpOptions
  | .validate =>
      Preface.helpOptions ++ [⟨"--dir", true⟩, ⟨"--recursive", false⟩, ⟨"--no-recursive", false⟩]
  | .resolve =>
      Preface.helpOptions ++
        [⟨"--page", true⟩, ⟨"--url", true⟩, ⟨"--strict-scope", false⟩, ⟨"--no-strict-scope", false⟩]

def isFile (t : FileTree) (s : String) : Bool :=
  match t.readText s with
  | .bytes .. => true
  | _ => false

def isFolder (t : FileTree) (s : String) : Bool :=
  match t.readText s with
  | .directory => true
  | _ => false

def of? (t : FileTree) (name : CommandName) (a : Arguments) : Option Invocation :=
  match name, a.positional with
  | .config, [] => some .config
  | .parse, [path] => some (.parse path)
  | .validate, targets =>
      let dir := a.value? "--dir"
      if dir.all (isFolder t) then
        some (.validate targets dir ((a.switch? "--recursive" "--no-recursive").getD true))
      else none
  | .resolve, [definition, path] =>
      if isFile t definition then
        some (.resolve definition path (a.value? "--page") (a.value? "--url")
          (a.switch? "--strict-scope" "--no-strict-scope"))
      else none
  | _, _ => none

def read? (t : FileTree) (name : CommandName) (args : List String) : Option Invocation :=
  match Arguments.read? (options name) true args with
  | none => none
  | some a => if Preface.asksHelp a then some .help else of? t name a

end Invocation

end PageAtlas
