import SqlGateway.Error
import SqlGateway.Text.Hex
import SqlGateway.Text.Utf8
import SqlGateway.Value.Basic

namespace SqlGateway.Postgres.Bytea

def isAsciiBlank (c : Char) : Bool := c == ' ' || c == '\t' || c == '\n' || c == '\x0c' || c == '\r'

def octalDigit? (b : UInt8) : Option Nat :=
  if 48 ≤ b.toNat ∧ b.toNat < 56 then some (b.toNat - 48) else none

def octal? (a b c : UInt8) : Option UInt8 := do
  let n := (← octalDigit? a) * 64 + (← octalDigit? b) * 8 + (← octalDigit? c)
  if n < 256 then some n.toUInt8 else none

def unescape : Text.Utf8.Bytes → Option Blob
  | [] => some []
  | 92 :: 92 :: bs => (unescape bs).map (92 :: ·)
  | 92 :: a :: b :: c :: bs => do
    let octet ← octal? a b c
    let rest ← unescape bs
    return octet :: rest
  | b :: bs => if b = 92 then none else (unescape bs).map (b :: ·)

def decodeChars? : List Char → Option Blob
  | '\\' :: 'x' :: cs => Text.Hex.decode? (cs.filter (!isAsciiBlank ·))
  | '\\' :: 'X' :: cs => Text.Hex.decode? (cs.filter (!isAsciiBlank ·))
  | cs => unescape (Text.Utf8.encodeChars cs)

def decode (text : String) : Result Blob :=
  match decodeChars? text.toList with
  | some b => .ok b
  | none => .error (.parse text "bytea")

end SqlGateway.Postgres.Bytea
