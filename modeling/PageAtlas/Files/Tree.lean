import PageAtlas.Definition.Load
import PageAtlas.Files.FilePath

namespace PageAtlas

/-!
# File trees

The files that a command can see, by the names that lead to them from the
root. A directory exists because it was made or because something lies in it;
the working directory always exists. A name that is too long leads nowhere.
-/

structure FileTree where
  /-- The working directory. -/
  cwd : List String := []
  files : Ordered (List String) (List UInt8) := []
  /-- Directories that were made. -/
  made : List (List String) := []
  /-- Files that cannot be opened. -/
  forbidden : List (List String) := []
  /-- What a reader says of contents that are no YAML. -/
  remark : List UInt8 → String := fun _ => ""

namespace FileTree

def base (t : FileTree) : FilePath := ⟨"/", t.cwd⟩

/-- Whether the names lead to a directory. -/
def isDirectory (t : FileTree) (names : List String) : Bool :=
  (t.cwd :: t.made).any (fun d => names.isPrefixOf d) ||
    t.files.any fun (f, _) => names.isPrefixOf f && names != f

def sourceAt (t : FileTree) (names : List String) : Source :=
  match t.files.find? names with
  | some b => if t.forbidden.contains names then .forbidden else .bytes b (t.remark b)
  | none => if t.isDirectory names then .directory else .missing

inductive WalkFault where
  | absent
  /-- Something that is no directory has nothing below it. -/
  | notDirectory
  | overlong
  deriving DecidableEq, Repr

/-- The most bytes that a name may have. -/
def maxName : Nat := 255

def maxPath : Nat := 4095

/-- Follows names from a directory: two dots lead one level up, and only a
directory has anything below it. -/
def walk (t : FileTree) (here : List String) : List String → Except WalkFault (List String)
  | [] => .ok here
  | n :: ns =>
      match t.sourceAt here with
      | .directory =>
          if n = "" || n = "." then walk t here ns
          else if n = ".." then walk t here.dropLast ns
          else if maxName < n.utf8ByteSize then .error .overlong
          else walk t (here ++ [n]) ns
      | .missing => .error .absent
      | _ => .error .notDirectory

def start (t : FileTree) (absolute : Bool) : List String := if absolute then [] else t.cwd

def follow (t : FileTree) (p : FilePath) : Except WalkFault (List String) :=
  if maxPath < p.shown.utf8ByteSize then .error .overlong else t.walk (t.start p.isAbsolute) p.parts

def found (t : FileTree) : Except WalkFault (List String) → Source
  | .ok names => t.sourceAt names
  | .error .overlong => .overlong
  | .error _ => .missing

def read (t : FileTree) (p : FilePath) : Source := t.found (t.follow p)

/-- What stands under a path as it is written: a slash or a dot at its end is
below the name before it. -/
def readText (t : FileTree) (s : String) : Source :=
  let cs := s.toList
  if cs.isEmpty then .missing
  else if maxPath < s.utf8ByteSize then .overlong
  else
    let names := (Text.split '/' cs).map String.ofList
    let ends := (names.getLast?.map fun n => n = "" || n = ".").getD false
    match t.walk (t.start (cs.head? == some '/')) names with
    | .ok here => if ends && !t.isDirectory here then .missing else t.sourceAt here
    | e => t.found e

def entries (t : FileTree) : List (List String) :=
  let known := t.files.map Prod.fst ++ t.made
  (known.flatMap above).eraseDups
where
  /-- The names that lead to a place and to the directories above it. -/
  above (names : List String) : List (List String) :=
    (List.range (names.length + 1)).map names.take

/-- Whether a name is that of a definition file. -/
def isDefinition (name : String) : Bool :=
  [".yaml", ".yml"].any fun ending => ending.toList.isSuffixOf name.toList

/-- The definition files in a directory, also those deeper if wanted, in the
order of their paths. -/
def definitions (t : FileTree) (recursive : Bool) (dir : FilePath) : List FilePath :=
  match t.follow dir with
  | .error _ => []
  | .ok top =>
      let below := t.entries.filterMap fun names =>
        if top.isPrefixOf names then
          let inner := names.drop top.length
          match inner.getLast? with
          | some last =>
              if isDefinition last && (recursive || inner.length == 1) then
                some (⟨dir.root, dir.parts ++ inner⟩ : FilePath)
              else none
          | none => none
        else none
      below.mergeSort FilePath.precedes

inductive MakeFault where
  | exists (path : FilePath)
  | notBelowDirectory (path : FilePath)
  | overlong (path : FilePath)
  deriving DecidableEq, Repr

def MakeFault.message : MakeFault → String
  | .exists p => "[Errno 17] File exists: " ++ Text.quoted p.shown
  | .notBelowDirectory p => "[Errno 20] Not a directory: " ++ Text.quoted p.shown
  | .overlong p => LoadFault.overlong p.shown

/-- Makes a directory in another one, unless it is there. Nothing is returned if
the other one is missing. -/
def makeBelow? (t : FileTree) (p : FilePath) : Option (Except MakeFault FileTree) :=
  match t.follow p with
  | .error .absent => none
  | .error .notDirectory => some (.error (.notBelowDirectory p))
  | .error .overlong => some (.error (.overlong p))
  | .ok names =>
      match t.sourceAt names with
      | .directory => some (.ok t)
      | .missing => some (.ok { t with made := t.made ++ [names] })
      | _ => some (.error (.exists p))

/-- Makes the directory that so many names of a path lead to, and those above
it that are missing. Those that were made stay if another one cannot be. -/
def makeUpTo (t : FileTree) (p : FilePath) : Nat → FileTree × Option MakeFault
  | 0 => (t, none)
  | count + 1 =>
      let q := { p with parts := p.parts.take (count + 1) }
      let settled (t : FileTree) : Except MakeFault FileTree → FileTree × Option MakeFault
        | .ok t' => (t', none)
        | .error e => (t, some e)
      match t.makeBelow? q with
      | some r => settled t r
      | none =>
          match makeUpTo t p count with
          | (t, some e) => (t, some e)
          | (t, none) => settled t ((t.makeBelow? q).getD (.ok t))

def make (t : FileTree) (p : FilePath) : FileTree × Option MakeFault :=
  t.makeUpTo p p.parts.length

/-- Adds a line to a file, which is made if it is missing. Nothing is written
if the path leads to no file in a directory. -/
def addLine (t : FileTree) (p : FilePath) (line : String) : FileTree :=
  match t.follow p with
  | .error _ => t
  | .ok names =>
      match t.sourceAt names with
      | .bytes b _ => { t with files := t.files.insert names (b ++ Text.encode (line ++ "\n")) }
      | .missing => { t with files := t.files.insert names (Text.encode (line ++ "\n")) }
      | _ => t

end FileTree

end PageAtlas
