import PageAtlas.Definition.Substitution
import PageAtlas.Text.Blank
import PageAtlas.Text.Bytes

namespace PageAtlas

/-!
# Files of variables

A line assigns a value to a name; `export` may stand in front of it, and a name
may stand alone. Values are bare, which ends them before a comment, or quoted,
which lets them run over several lines. A line of another form is left out. A
value may refer to the environment and to names that were assigned before it.
-/

namespace Dotenv

/-- A name with its value; a name that stands alone has none. -/
structure Binding where
  name : String
  value : Option String
  deriving Repr

def isLineEnd (c : Char) : Bool := c == '\n' || c == '\r'

def isGap (c : Char) : Bool := Text.isBlank c && !isLineEnd c

def skipGap (cs : List Char) : List Char := cs.dropWhile isGap

def skipLine (cs : List Char) : List Char := (cs.dropWhile fun c => !isLineEnd c).drop 1

def skipExport (cs : List Char) : List Char :=
  match cs with
  | 'e' :: 'x' :: 'p' :: 'o' :: 'r' :: 't' :: c :: rest => if isGap c then skipGap rest else cs
  | _ => cs

def quotedName? (cs : List Char) : Option (List Char × List Char) :=
  let name := cs.takeWhile (· != '\'')
  match cs.dropWhile (· != '\'') with
  | _ :: rest => if name.isEmpty then none else some (name, rest)
  | [] => none

def isNameChar (c : Char) : Bool := !(c == '=' || c == '#' || Text.isBlank c)

/-- The name of an assignment; a comment has none. -/
def name? (cs : List Char) : Option (Option (List Char) × List Char) :=
  match cs with
  | '#' :: _ => some (none, cs)
  | '\'' :: rest => (quotedName? rest).map fun (n, r) => (some n, r)
  | _ =>
      let name := cs.takeWhile isNameChar
      if name.isEmpty then none else some (some name, cs.dropWhile isNameChar)

/-- A quoted value, up to its closing quote. A backslash keeps the character
after it from being one. -/
def quoted? (quote : Char) : List Char → Option (List Char × List Char)
  | [] => none
  | '\\' :: c :: cs => (quoted? quote cs).map fun (v, r) => ('\\' :: c :: v, r)
  | c :: cs =>
      if c = quote then some ([], cs)
      else if c = '\\' then none
      else (quoted? quote cs).map fun (v, r) => (c :: v, r)

def escape? (c : Char) : Option Char :=
  match c with
  | '\\' => some '\\'
  | '\'' => some '\''
  | '"' => some '"'
  | 'a' => some '\x07'
  | 'b' => some '\x08'
  | 'f' => some '\x0c'
  | 'n' => some '\n'
  | 'r' => some '\r'
  | 't' => some '\t'
  | 'v' => some '\x0b'
  | _ => none

/-- Between single quotes only a backslash and the quote itself are escaped. -/
def singleEscape? (c : Char) : Option Char := if c = '\\' || c = '\'' then some c else none

def unescape (read : Char → Option Char) : List Char → List Char
  | [] => []
  | [c] => [c]
  | c :: d :: cs =>
      match if c = '\\' then read d else none with
      | some x => x :: unescape read cs
      | none => c :: unescape read (d :: cs)
  termination_by cs => cs.length

def uncommented : List Char → List Char
  | [] => []
  | c :: cs =>
      if Text.isBlank c && (cs.dropWhile Text.isBlank).head? == some '#' then []
      else c :: uncommented cs

/-- A value, after the equals sign. A comment behind blanks leaves it empty. -/
def value? (cs : List Char) : Option (List Char × List Char) :=
  match skipGap cs with
  | '\'' :: rest => (quoted? '\'' rest).map fun (v, r) => (unescape singleEscape? v, r)
  | '"' :: rest => (quoted? '"' rest).map fun (v, r) => (unescape escape? v, r)
  | _ =>
      let line := cs.takeWhile fun c => !isLineEnd c
      some (Text.trim (uncommented line), cs.dropWhile fun c => !isLineEnd c)

def lineEnd? (cs : List Char) : Option (List Char) :=
  let cs :=
    match skipGap cs with
    | '#' :: rest => rest.dropWhile fun c => !isLineEnd c
    | _ => cs
  match skipGap cs with
  | [] => some []
  | '\r' :: '\n' :: rest => some rest
  | c :: rest => if isLineEnd c then some rest else none

/-- Reads one line; if it has another form, the place where that shows. -/
def line (cs : List Char) : Option Binding × List Char :=
  let start := skipExport cs
  match name? start with
  | none => (none, skipLine start)
  | some (name, afterName) =>
      let afterName := skipGap afterName
      let read : Option (Option (List Char) × List Char) × List Char :=
        match afterName with
        | '=' :: rest => ((value? rest).map fun (v, r) => (some v, r), skipGap rest)
        | _ => (some (none, afterName), afterName)
      match read with
      | (none, rest) => (none, skipLine rest)
      | (some (value, rest), _) =>
          match lineEnd? rest with
          | none => (none, skipLine rest)
          | some next =>
              (name.map fun n => ⟨String.ofList n, value.map String.ofList⟩, next)

def bindings : Nat → List Char → List Binding
  | 0, _ => []
  | fuel + 1, cs =>
      match cs.dropWhile Text.isBlank with
      | [] => []
      | c :: rest =>
          let (b, next) := line (c :: rest)
          b.toList ++ bindings fuel next

/-- A reference inside a value: the name, what is taken if it is not assigned,
and what follows. -/
def reference? : List Char → Option (List Char × List Char × List Char)
  | '$' :: '\x7b' :: cs =>
      let isPart (c : Char) : Bool := c != '\x7d' && c != ':'
      let name := cs.takeWhile isPart
      match cs.dropWhile isPart with
      | '\x7d' :: rest => some (name, [], rest)
      | ':' :: '-' :: rest =>
          match rest.dropWhile (· != '\x7d') with
          | _ :: after => some (name, rest.takeWhile (· != '\x7d'), after)
          | [] => none
      | _ => none
  | _ => none

def expand (lookup : String → Option String) : Nat → List Char → List Char
  | 0, _ => []
  | _ + 1, [] => []
  | fuel + 1, c :: cs =>
      match reference? (c :: cs) with
      | some (name, otherwise, rest) =>
          let found := ((lookup (String.ofList name)).map String.toList).getD otherwise
          found ++ expand lookup fuel rest
      | none => c :: expand lookup fuel cs

/-- The variables visible to a value: those assigned before win over the
environment, and one without a value is empty. -/
def visible (env : Environment) (before : Ordered String (Option String)) (name : String) :
    Option String :=
  match before.find? name with
  | some v => some (v.getD "")
  | none => env.find? name

def assign (env : Environment) (before : Ordered String (Option String)) (b : Binding) :
    Ordered String (Option String) :=
  let expanded := b.value.map fun v =>
    String.ofList (expand (visible env before) (v.length + 1) v.toList)
  before.insert b.name expanded

/-- The text of a file: the mark of byte order does not belong to it, and lines
end with line feeds. -/
def text (bytes : List UInt8) : Except Text.DecodeFault String :=
  match Text.decode bytes with
  | .ok cs => .ok (String.ofList (Text.normalizeBreaks (Text.unmarked cs)))
  | .error e => .error e

end Dotenv

/-- The variables that a text assigns, in order of first assignment. -/
def Dotenv.read (env : Environment) (text : String) : Ordered String (Option String) :=
  let cs := text.toList
  (bindings (cs.length + 1) cs).foldl (assign env) []

end PageAtlas
