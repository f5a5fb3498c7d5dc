/-!
# Log records

The library tells what it does in records.  A record has a level, the part of the library that it
comes from, and a message.
-/

namespace HugePool

/-- How much a record matters, from most to least. -/
inductive LogLevel where
  | error
  | warn
  | info
  | debug
  | trace
  deriving DecidableEq, Repr

namespace LogLevel

/-- The name of a level. -/
def name : LogLevel → String
  | .error => "ERROR"
  | .warn => "WARN"
  | .info => "INFO"
  | .debug => "DEBUG"
  | .trace => "TRACE"

/-- The rank of a level: the more a record matters, the lower. -/
def rank : LogLevel → Nat
  | .error => 1
  | .warn => 2
  | .info => 3
  | .debug => 4
  | .trace => 5

end LogLevel

/-- A record of the log. -/
structure LogRecord where
  level : LogLevel
  /-- The part of the library that the record comes from. -/
  origin : String
  message : String
  deriving DecidableEq, Repr

end HugePool
