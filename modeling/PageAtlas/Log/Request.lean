import PageAtlas.Log.State
import PageAtlas.Settings.Load

namespace PageAtlas

/-!
# Requests to logging

Whoever asks for a logger, or sets the level, finds logging set up. Settings are
loaded only as long as that has not been done, and a request fails if there are
none.
-/

inductive LogFault where
  | settings (fault : Settings.Fault)
  /-- The directory of the file of records cannot be made. -/
  | directory (fault : FileTree.MakeFault)
  | level (message : String)
  deriving DecidableEq, Repr

namespace Logging

/-- Sets logging up if that has not been done. -/
def ready (settings : Except Settings.Fault Settings) (tree : FileTree) (l : Logging) :
    Logging × FileTree × Option LogFault :=
  if l.configured then (l, tree, none)
  else
    match settings with
    | .error fault => (l, tree, some (.settings fault))
    | .ok s =>
        let (l, tree, fault) := l.configure s tree
        (l, tree, fault.map .directory)

def get (settings : Except Settings.Fault Settings) (name : Option String) (tree : FileTree)
    (l : Logging) : Logging × FileTree × Except LogFault Logger :=
  match l.ready settings tree with
  | (l, tree, some fault) => (l, tree, .error fault)
  | (l, tree, none) => (l, tree, .ok (logger name))

def demandLevel (settings : Except Settings.Fault Settings) (name : String) (tree : FileTree)
    (l : Logging) : Logging × FileTree × Option LogFault :=
  match l.ready settings tree with
  | (l, tree, some fault) => (l, tree, some fault)
  | (l, tree, none) =>
      match l.setLevel name with
      | .ok l => (l, tree, none)
      | .error message => (l, tree, some (.level message))

end Logging

end PageAtlas
