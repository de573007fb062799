import SqlGateway.Text.Hex

namespace SqlGateway.Text.Json

def escape (c : Char) : List Char :=
  if c = '"' ∨ c = '\\' then ['\\', c]
  else if c = '\n' then ['\\', 'n']
  else if c = '\r' then ['\\', 'r']
  else if c = '\t' then ['\\', 't']
  else if c = '\x08' then ['\\', 'b']
  else if c = '\x0c' then ['\\', 'f']
  else if c.toNat < 0x20 then
    ['\\', 'u', '0', '0', Hex.digit (c.toNat / 16), Hex.digit (c.toNat % 16)]
  else [c]

def string (s : String) : String := String.ofList ('"' :: s.toList.flatMap escape ++ ['"'])

def object (members : List (String × String)) : String :=
  let member (m : String × String) : String := string m.1 ++ ":" ++ m.2
  "\x7b" ++ ",".intercalate (members.map member) ++ "\x7d"

end SqlGateway.Text.Json
