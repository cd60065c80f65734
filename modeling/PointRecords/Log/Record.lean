/-!
# Log records

A computation that logs returns its records beside its value, in the order in
which they were made.
-/

namespace PointRecords.Log

/-- Severity of a record, the most severe first. -/
inductive Level
  | error
  | warn
  | info
  | debug
  | trace
  deriving DecidableEq

namespace Level

def name : Level → String
  | .error => "ERROR"
  | .warn => "WARN"
  | .info => "INFO"
  | .debug => "DEBUG"
  | .trace => "TRACE"

/-- Levels are ordered by how much they let through. -/
def rank : Level → Nat
  | .error => 1
  | .warn => 2
  | .info => 3
  | .debug => 4
  | .trace => 5

end Level

/-- One log record. -/
structure Record where
  level : Level
  text : String
  deriving DecidableEq

end PointRecords.Log

namespace PointRecords

/-- A value and the log records made on the way to it. -/
structure Logged (α : Type) where
  value : α
  records : List Log.Record

end PointRecords
