import PageAtlas.Checked
import PageAtlas.Files.FilePath
import PageAtlas.Json.Value
import PageAtlas.Log.Level

namespace PageAtlas

/-!
# Settings

What can be set from outside, with its defaults, and what may be wrong with a
given value.
-/

inductive Browser where
  | chromium
  | firefox
  | webkit
  deriving DecidableEq, Repr

def Browser.word : Browser → String
  | chromium => "chromium"
  | firefox => "firefox"
  | webkit => "webkit"

def Browser.ofWord? (w : String) : Option Browser :=
  [chromium, firefox, webkit].find? fun b => b.word == w

structure Settings where
  rootSelector : String
  jsEngine : String
  /-- Combine collections by css with a text into one query. -/
  combineText : Bool
  /-- Refuse a single node under several elements. -/
  strictScope : Bool
  headless : Bool
  browser : Browser
  /-- In milliseconds. -/
  loadTimeout : Int
  pagesDir : FilePath
  logLevel : LogLevel
  logToFile : Bool
  logFile : FilePath
  colorized : Bool
  deriving DecidableEq, Repr

/-- What may be wrong with the text given for a setting. -/
inductive SettingComplaint where
  | empty
  | notTruth
  | notInteger
  | hugeInteger
  | tooSmall (least : Nat)
  | notBrowser
  | notLevel
  deriving DecidableEq, Repr

def SettingComplaint.message : SettingComplaint → String
  | empty => "Value error, value cannot be empty"
  | notTruth => "Input should be a valid boolean, unable to interpret input"
  | notInteger => "Input should be a valid integer, unable to parse string as an integer"
  | hugeInteger => "Unable to parse input string as an integer, exceeded maximum size"
  | tooSmall least => "Input should be greater than or equal to " ++ Text.Numeral.ofNat least
  | notBrowser => "Input should be 'chromium', 'firefox' or 'webkit'"
  | notLevel => "Input should be 'DEBUG', 'INFO', 'WARNING', 'ERROR' or 'CRITICAL'"

structure SettingIssue where
  name : String
  complaint : SettingComplaint
  deriving DecidableEq, Repr

namespace SettingIssue

def line (i : SettingIssue) : String := "  - " ++ i.name ++ ": " ++ i.complaint.message

def report (issues : List SettingIssue) : String :=
  String.intercalate "\n" ("invalid" :: issues.map line)

end SettingIssue

namespace Settings

def toJson (s : Settings) : Json := .obj
  [("ROOT_SELECTOR", .str s.rootSelector),
    ("JS_ENGINE_NAME", .str s.jsEngine),
    ("TEXT_MATCH_REWRITE", .bool s.combineText),
    ("STRICT_COLLECTION_SCOPE", .bool s.strictScope),
    ("HEADLESS", .bool s.headless),
    ("BROWSER_TYPE", .str s.browser.word),
    ("PAGE_LOAD_TIMEOUT", .int s.loadTimeout),
    ("PAGES_DIR", .str s.pagesDir.shown),
    ("LOG_LEVEL", .str s.logLevel.word),
    ("LOG_TO_FILE", .bool s.logToFile),
    ("LOG_FILE", .str s.logFile.shown),
    ("COLORIZED_OUTPUT", .bool s.colorized)]

def launchOptions (s : Settings) : Json := .obj [("headless", .bool s.headless)]

end Settings

end PageAtlas
