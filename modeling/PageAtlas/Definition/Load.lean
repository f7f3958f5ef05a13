import PageAtlas.Definition.Check
import PageAtlas.Definition.Substitution
import PageAtlas.Yaml.Documents

namespace PageAtlas

/-!
# Loading page definitions

A definition file holds one page per document; empty documents are passed over
but counted. Loading is all or nothing: the first document that is no page
definition is reported, and nothing is returned. The names of files are not
spelled, but what is said of them is.
-/

/-- What stands under the name of a file. -/
inductive Source where
  | missing
  | directory
  /-- A file that cannot be opened. -/
  | forbidden
  /-- The name is longer than a name can be. -/
  | overlong
  /-- A file, and what a reader says of its text if it is no YAML. -/
  | bytes (b : List UInt8) (remark : String := "")
  deriving Repr

/-- Why no page could be loaded. -/
inductive LoadFault where
  | notFound (file : String)
  | isDirectory (file : String)
  | forbidden (file : String)
  | overlongName (file : String)
  | undecodable (fault : Text.DecodeFault)
  | notYaml (file remark : String)
  | noValue (fault : Yaml.Fault)
  | notTable (place : Nat) (file : String)
  | invalid (file : String) (place : Nat) (issues : List Issue)
  | noDefinitions (file : String)
  | noPage (name path : String) (found : List String)
  | refused (fault : BuildFault)
  deriving Repr

namespace LoadFault

open Text.Spelling (ofText)

def report (heading : String) (issues : List Issue) : String :=
  String.intercalate "\n" (heading :: issues.map Issue.line)

/-- What is said of a file name that is too long. Between quotes a name is its own
spelling. -/
def overlong (file : String) : String := "[Errno 36] File name too long: " ++ Text.quoted file

def message : LoadFault → String
  | notFound file => "Page definition file not found: " ++ ofText file
  | isDirectory file => "[Errno 21] Is a directory: " ++ Text.quoted file
  | forbidden file => "[Errno 13] Permission denied: " ++ Text.quoted file
  | overlongName file => overlong file
  | undecodable fault => fault.message
  | notYaml file remark => "YAML parse error in " ++ ofText file ++ ": " ++ ofText remark
  | noValue fault => fault.message
  | notTable place file =>
      "Document " ++ Text.Numeral.ofNat place ++ " in " ++ ofText file ++
        " must be a mapping/object."
  | invalid file place issues =>
      report
        ("Invalid page definition '" ++ ofText file ++ "' (document " ++ Text.Numeral.ofNat place ++
          "):")
        issues
  | noDefinitions file => "No page definitions found in " ++ ofText file
  | noPage name path found =>
      "No page '" ++ name ++ "' in " ++ ofText path ++ " (found: " ++
        String.intercalate ", " found ++ ")"
  | refused fault => fault.message

end LoadFault

namespace Source

def documents (file : String) : Source → Except LoadFault (List Yaml.Document)
  | missing => .error (.notFound file)
  | directory => .error (.isDirectory file)
  | forbidden => .error (.forbidden file)
  | overlong => .error (.overlongName file)
  | bytes b remark =>
      match Text.decode b with
      | .error e => .error (.undecodable e)
      | .ok text =>
          match Yaml.documents (Text.normalizeBreaks text) with
          | .ok docs => .ok docs
          | .error .malformed => .error (.notYaml file remark)
          | .error e => .error (.noValue e)

end Source

namespace PageDef

/-- The definition in a document, which has to be a table. -/
def ofDocument (env : Environment) (file : String) (place : Nat) (doc : Data) :
    Except LoadFault PageDef :=
  match Substitution.inData env doc with
  | .table entries =>
      match Check.page entries with
      | .ok p => .ok p
      | .error issues => .error (.invalid file place issues)
  | _ => .error (.notTable place file)

/-- The definitions in the documents from a place on; empty ones hold none. -/
def ofDocumentsFrom (env : Environment) (file : String) :
    Nat → List Data → Except LoadFault (List PageDef)
  | _, [] => .ok []
  | place, .null :: docs => ofDocumentsFrom env file (place + 1) docs
  | place, doc :: docs =>
      match ofDocument env file place doc with
      | .error e => .error e
      | .ok p =>
          match ofDocumentsFrom env file (place + 1) docs with
          | .error e => .error e
          | .ok ps => .ok (p :: ps)

/-- The definitions in the documents of a file, of which there has to be one. -/
def ofDocuments (env : Environment) (file : String) (docs : List Data) :
    Except LoadFault (List PageDef) :=
  match ofDocumentsFrom env file 1 docs with
  | .ok [] => .error (.noDefinitions file)
  | r => r

/-- The definitions in a file. That a document contains itself shows only when
the documents before it have been looked at. -/
def load (env : Environment) (file : String) (source : Source) : Except LoadFault (List PageDef) :=
  let env := env.spelled
  match source.documents file with
  | .error e => .error e
  | .ok docs =>
      match Yaml.Document.finite docs with
      | (finite, none) => ofDocuments env file finite
      | (finite, some isTable) =>
          match ofDocumentsFrom env file 1 finite with
          | .error e => .error e
          | .ok _ =>
              if isTable then .error (.noValue .endless)
              else .error (.notTable (finite.length + 1) file)

/-- The first definition, or the first of a name, which is spelled. -/
def select (path : String) (name : Option String) (ps : List PageDef) : Except LoadFault PageDef :=
  match name with
  | none =>
      match ps with
      | p :: _ => .ok p
      | [] => .error (.noDefinitions path)
  | some n =>
      match ps.find? fun p => p.page == n with
      | some p => .ok p
      | none => .error (.noPage n path (ps.map PageDef.page))

def buildSelected (path : String) (name : Option String) (ps : List PageDef) :
    Except LoadFault Block :=
  match select path name ps with
  | .error e => .error e
  | .ok p =>
      match p.build with
      | .ok b => .ok b
      | .error e => .error (.refused e)

end PageDef

end PageAtlas
