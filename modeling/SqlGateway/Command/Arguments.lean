import SqlGateway.Text.Number

namespace SqlGateway.Command

/-- Why a command line is not carried out. -/
inductive Interrupt where
  | usage (reason : String)
  | help
  | version
deriving DecidableEq, Repr

structure OptionRule where
  long : String
  short : Option Char := none
  repeats : Bool := false
  accepts : String → Bool := fun _ => true

structure Grammar where
  options : List OptionRule
  operands : Nat
  subcommands : Bool := false

structure Arguments where
  values : List (String × String) := []
  operands : List String := []
  rest : List String := []
deriving DecidableEq, Repr

namespace Arguments

def last? (a : Arguments) (long : String) : Option String := a.values.reverse.lookup long

def all (a : Arguments) (long : String) : List String :=
  (a.values.filter (·.1 = long)).map (·.2)

def record (o : OptionRule) (value : String) (a : Arguments) : Except Interrupt Arguments :=
  if !o.accepts value then .error (.usage ("invalid value for --" ++ o.long))
  else if !o.repeats && (a.last? o.long).isSome then
    .error (.usage ("--" ++ o.long ++ " is given more than once"))
  else .ok { a with values := a.values ++ [(o.long, value)] }

def operand (g : Grammar) (s : String) (a : Arguments) : Except Interrupt Arguments :=
  if a.operands.length < g.operands then .ok { a with operands := a.operands ++ [s] }
  else .error (.usage ("unexpected argument " ++ s))

def isOperand (s : String) : Bool := !s.startsWith "-" || s == "-"

def option (g : Grammar) (s : String) : Except Interrupt (OptionRule × Option String) :=
  let unknown : Except Interrupt (OptionRule × Option String) :=
    .error (.usage ("unexpected argument " ++ s))
  match s.toList with
  | '-' :: '-' :: cs =>
    let name := String.ofList (cs.takeWhile (· ≠ '='))
    let value := match cs.dropWhile (· ≠ '=') with
      | _ :: value => some (String.ofList value)
      | [] => none
    match g.options.find? (·.long = name) with
    | some o => .ok (o, value)
    | none =>
      if value.isSome then unknown
      else if name = "help" then .error .help
      else if name = "version" ∧ g.subcommands then .error .version
      else unknown
  | '-' :: c :: cs =>
    match g.options.find? (·.short = some c) with
    | some o =>
      .ok (o, match cs with
        | [] => none
        | '=' :: value => some (String.ofList value)
        | value => some (String.ofList value))
    | none =>
      if c = 'h' then .error .help
      else if c = 'V' ∧ g.subcommands then .error .version
      else unknown
  | _ => unknown

/-- Reads arguments from left to right; the first thing that cannot stand ends the reading. The
value of an option is the next argument, or attached to a long name by an equals sign and to a short
one with or without it. Behind `--` all arguments are operands. -/
def read (g : Grammar) (a : Arguments) : List String → Except Interrupt Arguments
  | [] => .ok a
  | s :: rest =>
    if s = "--" then
      if g.subcommands then
        match rest with
        | [] => .ok a
        | s :: _ => .error (.usage ("unexpected argument " ++ s))
      else rest.foldlM (fun a s => a.operand g s) a
    else if isOperand s then
      if g.subcommands then .ok { a with rest := s :: rest }
      else do read g (← a.operand g s) rest
    else do
      let (o, value) ← option g s
      match value, rest with
      | some value, rest => read g (← a.record o value) rest
      | none, value :: rest =>
        if isOperand value then read g (← a.record o value) rest
        else throw (.usage ("a value is required for --" ++ o.long))
      | none, [] => throw (.usage ("a value is required for --" ++ o.long))

end Arguments
end SqlGateway.Command
