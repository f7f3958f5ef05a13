import PageAtlas.Text.Split

namespace PageAtlas

/-!
# File paths

A path is a root and the names after it. Repeated slashes, single dots and a
slash at the end mean nothing and are left out; two dots stay as they are. Two
slashes in front are a root of their own, three or more are one.
-/

structure FilePath where
  /-- The slashes in front: none, one or two. -/
  root : String := ""
  parts : List String := []
  deriving DecidableEq, Repr

namespace FilePath

/-- The slashes that a text begins with. -/
def rootOf (cs : List Char) : String :=
  match (cs.takeWhile (· == '/')).length with
  | 0 => ""
  | 2 => "//"
  | _ => "/"

def ofText (s : String) : FilePath :=
  let cs := s.toList
  let names := (Text.split '/' cs).map String.ofList
  ⟨rootOf cs, names.filter fun n => n != "" && n != "."⟩

/-- A path as it is written; the place itself is a dot. -/
def shown (p : FilePath) : String :=
  if p.root = "" && p.parts.isEmpty then "." else p.root ++ String.intercalate "/" p.parts

def isAbsolute (p : FilePath) : Bool := p.root != ""

/-- A path as seen from a directory; an absolute one does not depend on it. -/
def within (base p : FilePath) : FilePath :=
  if p.isAbsolute then p else ⟨base.root, base.parts ++ p.parts⟩

def parent (p : FilePath) : FilePath := { p with parts := p.parts.dropLast }

/-- The names after the root once two dots have taken back the name before. -/
def settle (done : List String) : List String → List String
  | [] => done.reverse
  | n :: ns => if n = ".." then settle (done.drop 1) ns else settle (n :: done) ns

/-- The absolute path without dots that a path stands for in a directory. -/
def resolved (base p : FilePath) : FilePath := ⟨"/", settle [] (base.within p).parts⟩

def precedes (p q : FilePath) : Bool :=
  !List.lex (q.root :: q.parts) (p.root :: p.parts) fun a b => decide (a < b)

end FilePath

end PageAtlas
