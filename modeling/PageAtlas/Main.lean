import PageAtlas.Command.Run
import PageAtlas.Settings.Load

namespace PageAtlas

/-!
# The program

Gathers what a command line may look at, runs it, and prints the outcome. No
browser is attached, so an address cannot be visited.
-/

namespace Program

def placeText (names : List String) : String := "/" ++ String.intercalate "/" names

partial def gather (names : List String) (tree : FileTree) : IO FileTree := do
  let path ← IO.FS.realPath (placeText names)
  if ← path.isDir then
    let mut tree := { tree with made := tree.made ++ [names] }
    for entry in ← path.readDir do
      tree ← gather (names ++ [entry.fileName]) tree
    return tree
  else
    try
      let bytes ← IO.FS.readBinFile path
      return { tree with files := tree.files.insert names bytes.toList }
    catch _ =>
      -- Of a file that cannot be opened only the name is known.
      return { tree with files := tree.files.insert names [], forbidden := names :: tree.forbidden }

def addPlace (tree : FileTree) (p : FilePath) : IO FileTree := do
  let names := (tree.base.resolved p).parts
  try gather names tree catch _ => return tree

def environment : IO Environment := do
  try
    let bytes ← IO.FS.readBinFile "/proc/self/environ"
    let text := (Text.decodeBytes? bytes.toList).getD ""
    return (Text.split '\x00' text.toList).filterMap fun entry =>
      let name := entry.takeWhile (· != '=')
      if name.isEmpty then none
      else some (String.ofList name, String.ofList (entry.drop (name.length + 1)))
  catch _ => return []

def variableFile (tree : FileTree) : Option (List UInt8) :=
  match tree.read (FilePath.ofText ".env") with
  | .bytes b _ => some b
  | _ => none

def mentioned (args : List String) : List FilePath :=
  let values := args.filterMap fun a => (Arguments.cutValue a).2
  ((args ++ values).filter (· ≠ "")).map FilePath.ofText

def run (args : List String) : IO UInt32 := do
  let cwd := (FilePath.ofText (← IO.currentDir).toString).parts
  let env ← environment
  let tree ← addPlace { cwd := cwd } (FilePath.ofText ".env")
  match Settings.load tree.base env (variableFile tree) with
  | .error fault =>
      IO.eprintln fault.message
      return 1
  | .ok settings =>
      let seen ← (settings.pagesDir :: mentioned args).foldlM addPlace tree
      match ({} : Logging).configure settings seen with
      | (_, _, some fault) =>
          IO.eprintln fault.message
          return 1
      | (logging, tree, none) =>
          let outcome := ({ settings, env, tree, logging } : Workplace).run args
          IO.print outcome.output
          match outcome.obstacle with
          | some o => IO.eprintln o.message
          | none => pure ()
          match outcome.unbuilt with
          | some e => IO.eprintln e.message
          | none => pure ()
          return UInt32.ofNat outcome.status

end Program

end PageAtlas

def main (args : List String) : IO UInt32 := PageAtlas.Program.run args
