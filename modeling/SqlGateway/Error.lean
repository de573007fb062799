import SqlGateway.Text.Quoted

namespace SqlGateway

inductive Stage where
  | connection
  | prepare
  | execute
  | fetch
deriving DecidableEq, Repr

def Stage.label : Stage → String
  | .connection => "Connection"
  | .prepare => "Prepare"
  | .execute => "Execute"
  | .fetch => "Fetch"

inductive Error where
  | config (reason : String)
  | native (stage : Stage) (code message : String)
  | bind (reason : String)
  | parse (input target : String)
  | outOfRange (index size : Nat)
  /-- The cursor is exhausted, or a later execution took its statement over. -/
  | invalidIterator
  | notFound (what : String)
  | io (reason : String)
  | yaml (reason : String)
deriving DecidableEq, Repr, Inhabited

namespace Error

def message : Error → String
  | config reason => "Configuration error: " ++ reason
  | native stage code message => stage.label ++ " failed [" ++ code ++ "]: " ++ message
  | bind reason => "Bind failed: " ++ reason
  | parse input target => "Cannot parse " ++ Text.quoted input ++ " as " ++ target
  | outOfRange index size =>
    "Index " ++ toString index ++ " out of range (size " ++ toString size ++ ")"
  | invalidIterator => "Invalid iterator"
  | notFound what => "Not found: " ++ what
  | io reason => "IO error: " ++ reason
  | yaml reason => "YAML error: " ++ reason

def code? : Error → Option String
  | native _ code _ => some code
  | _ => none

/-- Mistakes in what the user configured or named leave with 2, all else with 1. -/
def exitCode : Error → UInt8
  | config _ | yaml _ | notFound _ | io _ => 2
  | _ => 1

def causes : Error → List String
  | io reason => [reason]
  | yaml reason => [reason]
  | _ => []

/-- The report of the command line: the error, then its causes by depth. -/
def report (e : Error) : String :=
  let cause (c : String × Nat) : String :=
    "\nCaused by:\n  " ++ toString (c.2 + 1) ++ ": " ++ c.1
  "Error: " ++ e.message ++ "\n" ++ String.join (e.causes.zipIdx.map cause)

end Error

abbrev Result (α : Type) := Except Error α

end SqlGateway
