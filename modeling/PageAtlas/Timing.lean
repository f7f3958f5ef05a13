import PageAtlas.Decimal.Shortest

namespace PageAtlas

/-!
# Stopwatches

Times of a clock that never goes back, in whole milliseconds. A stopwatch that
was never started shows zero, and reads no clock.
-/

/-- Nanoseconds as whole milliseconds, rounded down. -/
def milliseconds (nanoseconds : Int) : Int := nanoseconds.fdiv 1000000

structure Stopwatch where
  /-- The time of the last start, in milliseconds. -/
  started : Option Int := none
  deriving DecidableEq, Repr

namespace Stopwatch

def start (now : Int) : Stopwatch := ⟨some now⟩

/-- The milliseconds since the start, never less than zero. -/
def elapsed (s : Stopwatch) (now : Int) : Int :=
  match s.started with
  | none => 0
  | some t => max 0 (now - t)

/-- A span as it is shown: below a second in milliseconds, otherwise in seconds
with three places. There is nothing to show if no double holds the seconds. -/
def shown? (ms : Int) : Option String :=
  if ms < 1000 then some (Text.Numeral.ofInt ms ++ " ms")
  else
    match Decimal.Binary64.ofRatio false ms.toNat 1000 with
    | .infinite _ => none
    | seconds => some (seconds.fixed 3 ++ " s")

def notShown : String := "integer division result too large for a float"

end Stopwatch

end PageAtlas
