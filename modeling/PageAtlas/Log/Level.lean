import PageAtlas.Text.Case
import PageAtlas.Text.Quoted
import PageAtlas.Text.Numeral

namespace PageAtlas

/-!
# Log levels

A level is a number; the settings know five of them by name, and a few more
names stand for the same numbers.
-/

inductive LogLevel where
  | debug
  | info
  | warning
  | error
  | critical
  deriving DecidableEq, Repr

namespace LogLevel

def all : List LogLevel := [debug, info, warning, error, critical]

def word : LogLevel → String
  | debug => "DEBUG"
  | info => "INFO"
  | warning => "WARNING"
  | error => "ERROR"
  | critical => "CRITICAL"

def number : LogLevel → Nat
  | debug => 10
  | info => 20
  | warning => 30
  | error => 40
  | critical => 50

/-- The level of that word; letter case counts. -/
def ofWord? (w : String) : Option LogLevel := all.find? fun l => l.word == w

def numberOf? (name : String) : Option Nat :=
  match ofWord? name with
  | some l => some l.number
  | none =>
      if name = "WARN" then some warning.number
      else if name = "FATAL" then some critical.number
      else if name = "NOTSET" then some 0
      else none

def nameOf (n : Nat) : String :=
  match all.find? fun l => l.number == n with
  | some l => l.word
  | none => if n = 0 then "NOTSET" else "Level " ++ Text.Numeral.ofNat n

def unknown (name : String) : String := "Unknown level: " ++ Text.quoted ("Level " ++ name)

end LogLevel

end PageAtlas
