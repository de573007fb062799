import SqlGateway.Text.Blank
import SqlGateway.Text.Utf8

namespace SqlGateway.Text

namespace Utf8

/-- An octet that no character begins with continues the one in front of it. -/
def beginsCharacter (b : UInt8) : Bool := b < 0x80 || 0xc0 ≤ b

def isBoundary (bs : Bytes) (i : Nat) : Bool :=
  i == 0 || match bs[i]? with
    | some b => beginsCharacter b
    | none => i == bs.length

/-- The first boundary on the way down from an octet; `none` if the way leads below zero. -/
def boundaryDown? (bs : Bytes) : Nat → Option Nat
  | 0 => if isBoundary bs 0 then some 0 else none
  | i + 1 => if isBoundary bs (i + 1) then some (i + 1) else boundaryDown? bs i

def upTo? (bs : Bytes) (i : Nat) : Option String :=
  if isBoundary bs i then decode? (bs.take i) else none

end Utf8

def preview? (sql : String) : Option String :=
  let sql := trim sql
  let octets := Utf8.encode sql
  if octets.length ≤ 120 then some sql
  else do
    let i ← Utf8.boundaryDown? octets 120
    Utf8.upTo? octets i

/-- The start of a statement as log lines show it. There is always a place to cut at, so the default
is never taken. -/
def preview (sql : String) : String := (preview? sql).getD ""

end SqlGateway.Text
