/-!
# Log records

What the library reports on its way: new extension units, a full extension table, the steps of a
parse, and the options file that was loaded.
-/

namespace Metrology

namespace Log

/-- How urgent a record is. -/
inductive Level where
  | debug | info | warning
deriving DecidableEq, Repr

def Level.name : Level → String
  | .debug => "DEBUG"
  | .info => "INFO"
  | .warning => "WARNING"

/-- A number that grows with the urgency. -/
def Level.rank : Level → Nat
  | .debug => 0
  | .info => 1
  | .warning => 2

/-- Which part of the library a record comes from. -/
inductive Source where
  | parser | registry | commandLine
deriving DecidableEq, Repr

/-- The name of a source in the log. -/
def Source.name : Source → String
  | .parser => "physunits.io.parser"
  | .registry => "physunits.registry.unit_registry"
  | .commandLine => "physunits.cli"

/-- One record. -/
structure Record where
  level : Level
  source : Source
  text : String
deriving DecidableEq, Repr

/-- The line of a record in a log that names its sources. -/
def Record.line (r : Record) : String := s!"{r.source.name}: {r.text}\n"

/-- The lines of the records that are at least as urgent as `level`. -/
def lines (level : Level) (rs : List Record) : String :=
  String.join ((rs.filter fun r => level.rank ≤ r.level.rank).map Record.line)

end Log

end Metrology
