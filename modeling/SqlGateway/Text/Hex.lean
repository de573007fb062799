namespace SqlGateway.Text.Hex

def digit (n : Nat) : Char := Char.ofNat (if n < 10 then 48 + n else 87 + n)

def digitValue? (c : Char) : Option Nat :=
  let n := c.toNat
  if 48 ≤ n ∧ n ≤ 57 then some (n - 48)
  else if 65 ≤ n ∧ n ≤ 70 then some (n - 55)
  else if 97 ≤ n ∧ n ≤ 102 then some (n - 87)
  else none

def encode : List UInt8 → List Char
  | [] => []
  | b :: bs => digit (b.toNat / 16) :: digit (b.toNat % 16) :: encode bs

/-- Refuses an odd number of digits and every character that is no digit. -/
def decode? : List Char → Option (List UInt8)
  | [] => some []
  | [_] => none
  | c :: d :: cs => do
    let hi ← digitValue? c
    let lo ← digitValue? d
    let rest ← decode? cs
    return (hi * 16 + lo).toUInt8 :: rest

def text (bs : List UInt8) : String := String.ofList (encode bs)

def ofNat (n : Nat) : List Char := Nat.toDigits 16 n

end SqlGateway.Text.Hex
