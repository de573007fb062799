import SqlGateway.Double.Arithmetic
import SqlGateway.Text.Number
import SqlGateway.Text.Utf8

namespace SqlGateway.Postgres

/-- `mantissa · 10 ^ (-scale)` with a sign. -/
structure Numeric where
  negative : Bool
  mantissa : Nat
  scale : Nat
deriving DecidableEq, Repr

namespace Numeric

def maxMantissa : Nat := twoTo 96

def maxScale : Nat := 28

def ofInt (n : Int) : Numeric := ⟨n < 0, n.natAbs, 0⟩

def dropDigit (m : Nat) : Nat := if 5 ≤ m % 10 then m / 10 + 1 else m / 10

/-- What has been read of a number: its sign, digits and places, whether the point has been
passed, and whether a digit has been seen. -/
structure Reading where
  negative : Bool := false
  mantissa : Nat := 0
  scale : Nat := 0
  point : Bool := false
  hasDigit : Bool := false

/-- The number with the next digit only rounded into it; what follows that digit is not read. -/
def Reading.rounded (r : Reading) (next : Char) : Option Numeric :=
  if Text.isDigit next then
    let m := if 5 ≤ Text.digitValue next then r.mantissa + 1 else r.mantissa
    if m < maxMantissa then some ⟨r.negative, m, r.scale⟩
    else if r.scale = 0 then none
    else some ⟨r.negative, (m + 4) / 10, r.scale - 1⟩
  else if next = '_' ∨ next = '.' then some ⟨r.negative, r.mantissa, r.scale⟩
  else none

/-- Reads digits with one point among them. Digits may be followed by `_`, which counts for
nothing. Places beyond those that a number can hold are rounded away, other digits too many are
refused. -/
def Reading.digits (r : Reading) : List Char → Option Numeric
  | [] => if r.hasDigit then some ⟨r.negative, r.mantissa, r.scale⟩ else none
  | c :: cs =>
    if r.point ∧ r.hasDigit ∧ maxScale ≤ r.scale then r.rounded c
    else if Text.isDigit c then
      let m := 10 * r.mantissa + Text.digitValue c
      if m < maxMantissa then
        { r with
          mantissa := m
          scale := if r.point then r.scale + 1 else 0
          hasDigit := true }.digits cs
      else if r.point then r.rounded c
      else none
    else if c = '.' ∧ !r.point then { r with point := true }.digits cs
    else if c = '_' ∧ r.hasDigit then r.digits cs
    else none

def ofText? (cs : List Char) : Option Numeric :=
  let (negative, cs) := Text.splitSign cs
  Reading.digits { negative } cs

/-- A positive number `bits · 2 ^ (-five) · 10 ^ ten …` on its way to base ten: `bits` has at most
96 bits, `five` powers of five are still to be multiplied in or, where negative, divided out. -/
structure Base where
  bits : Nat
  ten : Int

/-- Multiplies `n` powers of five in. An even number is halved instead, and so is one that has no
room for the factor. -/
def timesFives : Nat → Base → Base
  | 0, b => b
  | n + 1, b =>
    if b.bits % 2 = 1 ∧ 5 * b.bits < maxMantissa then timesFives n ⟨5 * b.bits, b.ten⟩
    else timesFives n ⟨b.bits / 2, b.ten + 1⟩

/-- Divides `n` powers of five out: by doubling where there is room. -/
def overFives : Nat → Base → Base
  | 0, b => b
  | n + 1, b =>
    if 2 * b.bits < maxMantissa then overFives n ⟨2 * b.bits, b.ten - 1⟩
    else overFives n ⟨b.bits / 5, b.ten⟩

def spread : Nat → Nat → Option Nat
  | 0, m => some m
  | n + 1, m => if 10 * m < maxMantissa then spread n (10 * m) else none

/-- Drops places, rounding each time, until at most 28 are left. A number that vanishes has none. -/
def fitScale : Nat → Nat → Nat × Nat
  | m, scale =>
    if h : maxScale < scale then
      if m / 10 = 0 then (0, 0) else fitScale (dropDigit m) (scale - 1)
    else (m, scale)
termination_by _ scale => scale
decreasing_by exact Nat.sub_lt (Nat.lt_of_le_of_lt (Nat.zero_le _) h) Nat.one_pos

/-- Drops places that a double does not guarantee: all beyond 52 bits. -/
def fitPrecision : Nat → Nat → Nat × Nat
  | m, 0 => (m, 0)
  | m, scale + 1 => if twoTo 52 ≤ m then fitPrecision (dropDigit m) scale else (m, scale + 1)

def stripZeros : Nat → Nat → Nat × Nat
  | m, 0 => (m, 0)
  | m, scale + 1 => if m % 10 = 0 then stripZeros (m / 10) scale else (m, scale + 1)

/-- The decimal that a finite number is taken for; none if it is out of range. -/
def ofDouble? (x : Double) : Option Numeric :=
  if !x.isFinite then none
  else if x.isZero then some ⟨x.isNegative, 0, 0⟩
  else do
    let start : Base := ⟨x.significand, x.scale⟩
    let b :=
      if 0 ≤ x.scale then overFives x.scale.toNat start else timesFives (-x.scale).toNat start
    let m ← spread b.ten.toNat b.bits
    let (m, scale) := fitScale m (-b.ten).toNat
    let (m, scale) := fitPrecision m scale
    let (m, scale) := stripZeros m scale
    return ⟨x.isNegative, m, scale⟩

def groups (n : Nat) : List Nat :=
  go n []
where
  go (n : Nat) (tail : List Nat) : List Nat :=
    if h : n = 0 then tail else go (n / 10000) (n % 10000 :: tail)
  termination_by n
  decreasing_by omega

def word (n : Nat) : Text.Utf8.Bytes := [(n / 256).toUInt8, n.toUInt8]

def signedWord (n : Int) : Text.Utf8.Bytes := word (n % twoTo 16).toNat

/-- Number of groups, weight of the first one, sign, places, then the groups. Groups that are zero
are left out at the end if they are behind the point of a number that is at least one. -/
def encode (x : Numeric) : Text.Utf8.Bytes :=
  if x.mantissa = 0 then word 0 ++ word 0 ++ word 0 ++ word 0
  else
    let places := (x.scale + 3) / 4
    let all := groups (x.mantissa * tenTo (4 * places - x.scale))
    let weight : Int := (all.length : Int) - places - 1
    let kept :=
      if 0 ≤ weight then
        let whole := all.length - places
        all.take whole ++ ((all.drop whole).reverse.dropWhile (· == 0)).reverse
      else all
    word kept.length ++ signedWord weight ++ word (if x.negative then 0x4000 else 0)
      ++ word x.scale ++ kept.flatMap word

def readWord? : Text.Utf8.Bytes → Option (Nat × Text.Utf8.Bytes)
  | a :: b :: bs => some (a.toNat * 256 + b.toNat, bs)
  | _ => none

def readWords? : Nat → Text.Utf8.Bytes → Option (List Nat × Text.Utf8.Bytes)
  | 0, bs => some ([], bs)
  | n + 1, bs => do
    let (w, bs) ← readWord? bs
    let (ws, bs) ← readWords? n bs
    return (w :: ws, bs)

def dropPlaces (n m : Nat) : Nat := (m + tenTo n / 2) / tenTo n

def fitMantissa : Nat → Nat → Option (Nat × Nat)
  | m, 0 => if m < maxMantissa then some (m, 0) else none
  | m, scale + 1 =>
    if m < maxMantissa then some (m, scale + 1) else fitMantissa (dropDigit m) scale

def rescale (x : Numeric) (scale : Nat) : Numeric :=
  if x.scale ≤ scale then
    match fitMantissa (x.mantissa * tenTo (scale - x.scale)) scale with
    | some (m, s) => ⟨x.negative, m, s⟩
    | none => x
  else ⟨x.negative, dropPlaces (x.scale - scale) x.mantissa, scale⟩

def decode? (bs : Text.Utf8.Bytes) : Option Numeric := do
  let (count, bs) ← readWord? bs
  let (weight, bs) ← readWord? bs
  let (sign, bs) ← readWord? bs
  let (scale, bs) ← readWord? bs
  let (ws, _) ← readWords? count bs
  if sign = 0xC000 then none
  else
    let weight : Int := if weight < twoTo 15 then weight else (weight : Int) - twoTo 16
    let digits := ws.foldl (fun n w => n * 10000 + w) 0
    let exponent : Int := 4 * (weight + 1 - ws.length)
    let exact := digits * tenTo exponent.toNat
    let places := (-exponent).toNat
    let (m, places) :=
      if maxScale < places then (dropPlaces (places - maxScale) exact, maxScale)
      else (exact, places)
    let (m, places) ← fitMantissa m places
    return (Numeric.mk (sign = 0x4000) m places).rescale (min scale maxScale)

/-- The double for a decimal: the whole and the broken part apart, their sum rounded to the places
that the decimal has. -/
def toDouble (x : Numeric) : Double :=
  let signed (d : Double) : Double := if x.negative then d.neg else d
  let power := tenTo x.scale
  let whole := Double.ofInt (x.mantissa / power : Nat)
  let part := (Double.ofInt (x.mantissa % power : Nat)).div (Double.ofInt (power : Nat))
  if x.scale = 0 then if x.mantissa = 0 then Double.zero else signed whole
  else if part.isZero then signed whole
  else
    let unit := (Double.ofInt 10).powNat x.scale
    signed (((whole.add part).mul unit).round.div unit)

end Numeric
end SqlGateway.Postgres
