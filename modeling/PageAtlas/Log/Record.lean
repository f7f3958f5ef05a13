import PageAtlas.Calendar
import PageAtlas.Json.Printer

namespace PageAtlas

/-!
# Log records

A record is written as one line of JSON: when, at which level, by whom and
what, then what was bound to it, then what went wrong. What was bound replaces
a member of the same name where it stands.
-/

abbrev LogContext := Ordered String Json

structure LogRecord where
  /-- The moment, in universal time. -/
  created : Moment
  /-- The name of the level. -/
  level : String
  logger : String
  message : String
  context : LogContext := []
  /-- What went wrong, if that is said. -/
  failure : Option String := none

namespace LogRecord

/-- The moment as it is written. -/
def stamp (r : LogRecord) : String := r.created.shown "T"

def basis (r : LogRecord) : Ordered String Json :=
  [("ts", .str r.stamp), ("level", .str r.level), ("logger", .str r.logger),
    ("msg", .str r.message)]

def members (r : LogRecord) : Ordered String Json :=
  let bound := r.basis.update r.context
  match r.failure with
  | none => bound
  | some text => bound.insert "exc_info" (.str text)

/-- The line of a record, unless it cannot be written. -/
def line (r : LogRecord) : Except Json.WriteFault String := Json.write (.obj r.members)

end LogRecord

end PageAtlas
