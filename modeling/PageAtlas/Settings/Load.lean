import PageAtlas.Definition.Check
import PageAtlas.Settings.Basic
import PageAtlas.Settings.Dotenv

namespace PageAtlas

/-!
# Loading settings

Each setting is taken from the environment, else from the file of variables,
else it has its default. Letter case does not count in names; of names that
differ in case only, the last one wins. Every setting is checked, and all that
are refused are reported together.
-/

namespace Settings

def lowered (source : List (String × Option String)) : Ordered String (Option String) :=
  source.foldl (fun m (n, v) => m.insert (String.ofList (n.toList.map Char.toLower)) v) []

def given? (env : Environment) (file : Ordered String (Option String)) (name : String) :
    Option String :=
  let key := String.ofList (name.toList.map Char.toLower)
  match (lowered (env.map fun (n, v) => (n, some v))).find? key with
  | some (some v) => some v
  | _ => ((lowered file).find? key).join

namespace Field

/-- A text without outer blanks, of which something has to be left. -/
def word (s : String) : Except SettingComplaint String :=
  let t := Text.trim s.toList
  if t.isEmpty then .error .empty else .ok (String.ofList t)

def truth (s : String) : Except SettingComplaint Bool :=
  match Check.truthWord? s with
  | some b => .ok b
  | none => .error .notTruth

/-- Digits from the first one that counts on; zeros and underscores in front of
it are left out. Nothing is returned if another character comes first. -/
def significant? (cs : List Char) : Option (List Char) :=
  let isPositive (c : Char) : Bool := '1' ≤ c && c ≤ '9'
  match cs with
  | '0' :: rest =>
      let isFiller (c : Char) : Bool := c == '0' || c == '_'
      let last := ((cs.takeWhile isFiller).getLast?).toList
      match rest.dropWhile isFiller with
      | [] => some last
      | '.' :: zeros => some (last ++ '.' :: zeros)
      | c :: ds => if isPositive c then some (c :: ds) else none
  | c :: _ => if isPositive c then some cs else none
  | [] => none

/-- Whether digits may be grouped so: by single underscores between them. -/
def isGrouped : List Char → Bool
  | [] => false
  | [c] => Text.Numeral.isDigit c
  | c :: '_' :: cs => Text.Numeral.isDigit c && isGrouped cs
  | c :: cs => Text.Numeral.isDigit c && isGrouped cs

/-- Digits, after which a point and zeros may stand. -/
def whole? (cs : List Char) : Option (List Char) := do
  let ds ← significant? cs
  let digits := ds.takeWhile (· != '.')
  let isWhole :=
    match ds.dropWhile (· != '.') with
    | [] => true
    | _ :: zeros => !zeros.isEmpty && zeros.all (· == '0')
  if isGrouped digits && isWhole then some (digits.filter (· != '_')) else none

def signed (cs : List Char) : Bool × List Char :=
  match cs with
  | '-' :: ds => (true, ds)
  | '+' :: ds => (false, ds)
  | ds => (false, ds)

/-- How many characters the numeral has that a text begins with: digits without
a zero in front, behind a minus sign or none. -/
def numeralLength (cs : List Char) : Nat :=
  let length (ds : List Char) : Nat :=
    if ds.head? == some '0' then 1 else (ds.takeWhile Text.Numeral.isDigit).length
  match cs with
  | '-' :: ds => length ds + 1
  | ds => length ds

/-- An integer with or without sign. White space around it does not count. A text
that begins with a numeral of too many characters is told apart from others
that are no integer. -/
def integer (s : String) : Except SettingComplaint Int :=
  if Text.Numeral.maxDigits < numeralLength s.toList then .error .hugeInteger
  else
    let bare := Text.dropTrailing Text.isSpace (s.toList.dropWhile Text.isSpace)
    let (negative, cs) := signed bare
    match whole? cs with
    | none => .error .notInteger
    | some ds =>
        let length := if negative then ds.length + 1 else ds.length
        if Text.Numeral.maxDigits < length then .error .notInteger
        else
          let n := Text.Numeral.value ds
          .ok (if negative then -(n : Int) else n)

def atLeast (least : Nat) (s : String) : Except SettingComplaint Int :=
  match integer s with
  | .error c => .error c
  | .ok i => if i < least then .error (.tooSmall least) else .ok i

def browser (s : String) : Except SettingComplaint Browser :=
  match Browser.ofWord? s with
  | some b => .ok b
  | none => .error .notBrowser

def level (s : String) : Except SettingComplaint LogLevel :=
  match LogLevel.ofWord? s with
  | some l => .ok l
  | none => .error .notLevel

/-- A path, taken from the working directory unless it is absolute. -/
def path (cwd : FilePath) (s : String) : Except SettingComplaint FilePath :=
  .ok (cwd.within (FilePath.ofText s))

end Field

/-- A setting: its default, or the text given for it if that passes the check. -/
def field {α : Type} (given : String → Option String) (name : String) (default : α)
    (check : String → Except SettingComplaint α) : Checked SettingIssue α :=
  match given name with
  | none => .ok default
  | some s =>
      match check s with
      | .ok a => .ok a
      | .error c => .error [⟨name, c⟩]

def leastTimeout : Nat := 1000

def check (cwd : FilePath) (given : String → Option String) : Checked SettingIssue Settings :=
  let truth (name : String) (default : Bool) := field given name default Field.truth
  let path (name default : String) :=
    field given name (cwd.within (FilePath.ofText default)) (Field.path cwd)
  let resolution :=
    Checked.both (field given "ROOT_SELECTOR" "html" Field.word)
      (Checked.both (field given "JS_ENGINE_NAME" "pagepath-js" Field.word)
        (Checked.both (truth "TEXT_MATCH_REWRITE" true) (truth "STRICT_COLLECTION_SCOPE" false)))
  let browser :=
    Checked.both (truth "HEADLESS" true)
      (Checked.both (field given "BROWSER_TYPE" Browser.chromium Field.browser)
        (field given "PAGE_LOAD_TIMEOUT" 30000 (Field.atLeast leastTimeout)))
  let logging :=
    Checked.both (field given "LOG_LEVEL" LogLevel.info Field.level)
      (Checked.both (truth "LOG_TO_FILE" false)
        (Checked.both (path "LOG_FILE" "./pagepath.log") (truth "COLORIZED_OUTPUT" true)))
  Checked.map
    (fun ((rootSelector, jsEngine, combineText, strictScope), (headless, browser, loadTimeout),
        pagesDir, (logLevel, logToFile, logFile, colorized)) =>
      { rootSelector, jsEngine, combineText, strictScope, headless, browser, loadTimeout,
        pagesDir, logLevel, logToFile, logFile, colorized })
    (Checked.both resolution
      (Checked.both browser (Checked.both (path "PAGES_DIR" "./pages") logging)))

inductive Fault where
  /-- The file of variables is no text. -/
  | undecodable (fault : Text.DecodeFault)
  | refused (issues : List SettingIssue)
  deriving DecidableEq, Repr

def Fault.message : Fault → String
  | undecodable fault => fault.message
  | refused issues => SettingIssue.report issues

/-- The settings of an environment and the text of a file of variables. -/
def ofText (cwd : FilePath) (env : Environment) (text : String) : Except Fault Settings :=
  match check cwd (given? env (Dotenv.read env text)) with
  | .ok s => .ok s
  | .error issues => .error (.refused issues)

def load (cwd : FilePath) (env : Environment) (file : Option (List UInt8)) :
    Except Fault Settings :=
  match file with
  | none => ofText cwd env ""
  | some bytes =>
      match Dotenv.text bytes with
      | .error e => .error (.undecodable e)
      | .ok text => ofText cwd env text

end Settings

end PageAtlas
