import SqlGateway.Error
import SqlGateway.Text.Number

namespace SqlGateway.Command

inductive Level where
  | debug
  | info
  | warn
  | error
deriving DecidableEq, Repr, Inhabited

namespace Level

def rank : Level → Nat
  | debug => 0
  | info => 1
  | warn => 2
  | error => 3

def name : Level → String
  | debug => "DEBUG"
  | info => "INFO"
  | warn => "WARN"
  | error => "ERROR"

def ofVerbosity (s : String) : Result Level :=
  match Text.lowerText s with
  | "debug" => .ok debug
  | "info" => .ok info
  | "warn" => .ok warn
  | "error" => .ok error
  | other => .error (.config ("unknown verbosity '" ++ other ++ "'"))

end Level

structure LogLine where
  level : Level
  text : String
deriving DecidableEq, Repr

def shown (level : Level) (lines : List LogLine) : List LogLine :=
  lines.filter fun l => level.rank ≤ l.level.rank

end SqlGateway.Command
