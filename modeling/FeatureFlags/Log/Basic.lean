import FeatureFlags.Value.Basic

/-!
# Log records

A record is an event with a level and named fields.  A method makes a record of an event.
-/

set_option autoImplicit false

namespace FeatureFlags.Log

inductive Level where
  | debug
  | info
  | warning
  | error
  | critical
  deriving DecidableEq, Repr

namespace Level

def name : Level → String
  | .debug => "debug"
  | .info => "info"
  | .warning => "warning"
  | .error => "error"
  | .critical => "critical"

def severity : Level → Nat
  | .debug => 10
  | .info => 20
  | .warning => 30
  | .error => 40
  | .critical => 50

end Level

inductive Method where
  | debug
  | info
  | warning
  | error
  /-- Logs an error together with the failure that is being handled. -/
  | exception
  | critical
  | fatal
  deriving DecidableEq, Repr

namespace Method

def name : Method → String
  | .debug => "debug"
  | .info => "info"
  | .warning => "warning"
  | .error => "error"
  | .exception => "exception"
  | .critical => "critical"
  | .fatal => "fatal"

/-- The method of a name; the short name of a warning counts too. -/
def ofName? (name : String) : Option Method :=
  [("debug", .debug), ("info", .info), ("warning", .warning), ("warn", .warning),
    ("error", .error), ("exception", .exception), ("critical", .critical),
    ("fatal", .fatal)].lookup name

def level : Method → Level
  | .debug => .debug
  | .info => .info
  | .warning => .warning
  | .error | .exception => .error
  | .critical | .fatal => .critical

end Method

structure Record where
  level : Level
  event : String
  fields : List (String × Value)

end FeatureFlags.Log
