import SqlGateway.Command.Run
import SqlGateway.Sql.World

namespace SqlGateway

def configContent (args : List String) : IO (Option Text.Utf8.Bytes) :=
  match Command.Invocation.ofArguments args with
  | .ok { config := some path, .. } => do
    try return some (← IO.FS.readBinFile path).toList
    catch _ => return none
  | _ => return none

def offline : Servers where
  postgres := { refusal := some ⟨"08001", "error connecting to server"⟩ }
  mysql := { refusal := some ⟨"2002", "Could not connect"⟩ }

end SqlGateway

open SqlGateway in
def main (args : List String) : IO UInt32 := do
  let content ← configContent args
  let (o, _) := Command.run Sql.engine args { file := fun _ => content }
    { engine := {}, servers := offline }
  for l in o.log do IO.eprintln (l.level.name ++ " " ++ l.text)
  IO.print o.output
  IO.eprint o.report
  return o.exitCode.toUInt32
