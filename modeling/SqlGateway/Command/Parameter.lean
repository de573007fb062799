import SqlGateway.Value.Convert

namespace SqlGateway.Command

def splitOnce (mark : Char) (cs : List Char) : Option (List Char × List Char) :=
  match cs.dropWhile (· ≠ mark) with
  | [] => none
  | _ :: rest => some (cs.takeWhile (· ≠ mark), rest)

namespace Parameter

def truthValue? (payload : List Char) : Option Bool :=
  match String.ofList ((Text.trimChars payload).map Text.lowerAscii) with
  | "true" | "1" => some true
  | "false" | "0" => some false
  | _ => none

def kind? (name : String) : Option (List Char → Option Value) :=
  match name with
  | "int" => some fun cs => (Text.int32? (Text.trimChars cs)).map .int
  | "int64" => some fun cs => (Text.int64? (Text.trimChars cs)).map .int64
  | "double" => some fun cs => (Text.double? (Text.trimChars cs)).map .double
  | "bool" => some fun cs => (truthValue? cs).map .bool
  | "text" => some fun cs => some (.string (String.ofList cs))
  | "hex" => some fun cs => (decodeHex (String.ofList cs)).toOption.map .blob
  | _ => none

def read (text : String) : Result Value :=
  if text = "null" then .ok .null
  else
    match splitOnce ':' text.toList with
    | none => .ok (.string text)
    | some (kind, payload) =>
      match kind? (String.ofList kind) with
      | none => .ok (.string text)
      | some reader =>
        match reader payload with
        | some v => .ok v
        | none => .error (.config ("invalid parameter value '" ++ text ++ "'"))

def readNamed (text : String) : Result (String × Value) := do
  match splitOnce '=' text.toList with
  | none => throw (.config ("named parameter '" ++ text ++ "' is not name=value"))
  | some (name, value) => return (String.ofList name, ← read (String.ofList value))

end Parameter
end SqlGateway.Command
