import SqlGateway.Command.Arguments
import SqlGateway.Config.Basic

namespace SqlGateway.Command

inductive Mode where
  | cursor
  | buffered
  | callback
deriving DecidableEq, Repr, Inhabited

structure Query where
  sql : String
  mode : Mode := .cursor
  parameters : List String := []
  namedParameters : List String := []
  limit : Option Nat := none
  format : Option OutputFormat := none
deriving DecidableEq, Repr, Inhabited

inductive Task where
  | query (q : Query)
  | exec (sql : String)
  | drivers
  | healthCheck
deriving DecidableEq, Repr, Inhabited

structure Invocation where
  config : Option String := none
  connection : Option String := none
  url : Option String := none
  logFormat : String := "text"
  verbosity : String := "warn"
  task : Task
deriving DecidableEq, Repr, Inhabited

namespace Invocation

def modes : List (String × Mode) :=
  [("cursor", .cursor), ("buffered", .buffered), ("callback", .callback)]

def formats : List (String × OutputFormat) := [("text", .text), ("json", .json)]

def count? (s : String) : Option Nat :=
  let digits := match s.toList with
    | '+' :: cs => cs
    | cs => cs
  (Text.nat? digits).filter (· < twoTo 64)

def grammar : Grammar where
  options := [
    { long := "config", short := some 'c', accepts := fun s => !s.isEmpty },
    { long := "connection" }, { long := "url" }, { long := "log-format" }, { long := "verbosity" }]
  operands := 0
  subcommands := true

def queryGrammar : Grammar where
  options := [
    { long := "mode", accepts := fun s => (modes.lookup s).isSome },
    { long := "param", short := some 'p', repeats := true },
    { long := "named-param", repeats := true },
    { long := "limit", accepts := fun s => (count? s).isSome },
    { long := "format", accepts := fun s => (formats.lookup s).isSome }]
  operands := 1

def execGrammar : Grammar := { options := [], operands := 1 }

def bareGrammar : Grammar := { options := [], operands := 0 }

def theOperand (name : String) (a : Arguments) : Except Interrupt String :=
  match a.operands with
  | s :: _ => .ok s
  | [] => .error (.usage (name ++ " is required"))

def Query.ofArguments (a : Arguments) : Except Interrupt Query := do
  return {
    sql := ← theOperand "SQL" a
    mode := ((a.last? "mode").bind (modes.lookup ·)).getD .cursor
    parameters := a.all "param"
    namedParameters := a.all "named-param"
    limit := (a.last? "limit").bind count?
    format := (a.last? "format").bind (formats.lookup ·) }

def taskOf (name : String) (args : List String) : Except Interrupt Task := do
  match name with
  | "query" => return .query (← Query.ofArguments (← Arguments.read queryGrammar {} args))
  | "exec" => return .exec (← theOperand "SQL" (← Arguments.read execGrammar {} args))
  | "drivers" =>
    let _ ← Arguments.read bareGrammar {} args
    return .drivers
  | "health-check" =>
    let _ ← Arguments.read bareGrammar {} args
    return .healthCheck
  | "help" => throw .help
  | _ => throw (.usage ("unknown command " ++ name))

def ofArguments (args : List String) : Except Interrupt Invocation := do
  let a ← Arguments.read grammar {} args
  match a.rest with
  | [] => throw (.usage "a command is required")
  | name :: rest =>
    return {
      config := a.last? "config"
      connection := a.last? "connection"
      url := a.last? "url"
      logFormat := (a.last? "log-format").getD "text"
      verbosity := (a.last? "verbosity").getD "warn"
      task := ← taskOf name rest }

end Invocation
end SqlGateway.Command
