import PageAtlas.Files.Tree
import PageAtlas.Settings.Basic

namespace PageAtlas

/-!
# Validating files

Files are visited one after the other. A file that does not load gets one line;
otherwise each of its pages is built, and gets a line that it is sound or a line
for each of its problems. A page that cannot be built ends the visit. What is said
is spelled.
-/

/-- What has been said about the files so far, and whether all of them are sound. -/
structure Report where
  lines : List String := []
  sound : Bool := true
  deriving DecidableEq, Repr

namespace Report

open Text.Spelling (ofText)

def faultLine (file : String) (e : LoadFault) : String :=
  "ERR " ++ ofText file ++ "  ->  " ++ e.message

def problemLine (file page : String) (p : Problem) : String :=
  "ERR " ++ ofText file ++ "  ->  [" ++ page ++ "] " ++ p.path ++ ": " ++ p.failure.message

def soundLine (file : String) (p : PageDef) : String :=
  "OK  " ++ ofText file ++ "  ->  [" ++ p.page ++ "] (" ++
    Text.Numeral.ofNat p.nodes.length ++ " nodes)"

def fault (r : Report) (file : String) (e : LoadFault) : Report :=
  ⟨r.lines ++ [faultLine file e], false⟩

def page (r : Report) (file : String) (p : PageDef) : Report :=
  match p.problems with
  | [] => { r with lines := r.lines ++ [soundLine file p] }
  | ps => ⟨r.lines ++ ps.map (problemLine file p.page), false⟩

/-- Builds the pages of a file and reports on them, up to one that cannot be built. -/
def pages (r : Report) (file : String) : List PageDef → Report × Option BuildFault
  | [] => (r, none)
  | p :: ps =>
      match p.build with
      | .error e => (r, some e)
      | .ok _ => (r.page file p).pages file ps

def files (r : Report) (env : Environment) (tree : FileTree) :
    List FilePath → Report × Option BuildFault
  | [] => (r, none)
  | f :: fs =>
      match PageDef.load env f.shown (tree.read f) with
      | .error e => (r.fault f.shown e).files env tree fs
      | .ok ps =>
          match r.pages f.shown ps with
          | (r, none) => r.files env tree fs
          | (r, some e) => (r, some e)

end Report

/-- Whether a path leads to a directory, unless it is too long to be followed. -/
def FileTree.folder? (tree : FileTree) (p : FilePath) : Except FilePath Bool :=
  match tree.read p with
  | .directory => .ok true
  | .overlong => .error p
  | _ => .ok false

/-- The files that targets stand for: each target, or what a target that is a
directory holds. -/
def FileTree.targeted (tree : FileTree) : List String → Except FilePath (List FilePath)
  | [] => .ok []
  | target :: targets => do
      let p := tree.base.resolved (FilePath.ofText target)
      let here := if ← tree.folder? p then tree.definitions true p else [p]
      return here ++ (← tree.targeted targets)

/-- The files to validate: those of the targets; without targets, what a
directory holds. Nothing is returned if there is neither a target nor a
directory. The first path that is too long ends the visit. -/
def FileTree.visited (tree : FileTree) (s : Settings) (targets : List String) (dir : Option String)
    (recursive : Bool) : Except FilePath (Option (List FilePath)) :=
  if targets.isEmpty then
    match nonEmpty? dir with
    | some d => .ok (some (tree.definitions recursive (FilePath.ofText d)))
    | none => do
        if ← tree.folder? s.pagesDir then return some (tree.definitions recursive s.pagesDir)
        else return none
  else do return some (← tree.targeted targets)

end PageAtlas
