import SqlGateway.Text.Hex
import SqlGateway.Text.Number

namespace SqlGateway.Yaml.Resolution

def isNull (s : String) : Bool := s.isEmpty || ["null", "Null", "NULL", "~"].contains s

def isTruthValue (s : String) : Bool :=
  ["true", "True", "TRUE", "false", "False", "FALSE"].contains s

def isSign (c : Char) : Bool := c == '+' || c == '-'

def isPadded (cs : List Char) : Bool :=
  match (Text.splitSign cs).2 with
  | '0' :: d :: ds => (d :: ds).all Text.isDigit
  | _ => false

def digits? (base : Nat) (cs : List Char) : Option Nat :=
  if cs.isEmpty then none
  else cs.foldl (fun n c => do
    let d ← Text.Hex.digitValue? c
    if d < base then return base * (← n) + d else none) (some 0)

def base? : Char → Option Nat
  | 'x' => some 16
  | 'o' => some 8
  | 'b' => some 2
  | _ => none

/-- An integer of at most 128 bits to the base 16, 8 or 2, behind `0x`, `0o` or `0b`. -/
def isBased (cs : List Char) : Bool :=
  let (negative, digits) := Text.splitSign cs
  match digits with
  | '0' :: mark :: digits =>
    (match (base? mark).bind (digits? · digits) with
      | some n => if negative then n ≤ twoTo 127 else n < twoTo 128
      | none => false)
  | _ => false

/-- Numbers in decimal notation that do not overflow, and the names of those that are no numbers. -/
def isDecimal (cs : List Char) : Bool :=
  let (plus, body) := match cs with
    | '+' :: cs => (true, cs)
    | cs => (false, cs)
  if plus && (body.head?.map isSign).getD false then false
  else [".inf", ".Inf", ".INF"].contains (String.ofList body)
    || ["-.inf", "-.Inf", "-.INF", ".nan", ".NaN", ".NAN"].contains (String.ofList cs)
    || ((Text.double? body).map (·.isFinite)).getD false

def isAmbiguous (s : String) : Bool :=
  isNull s || isTruthValue s || isPadded s.toList || isBased s.toList || isDecimal s.toList

end SqlGateway.Yaml.Resolution
