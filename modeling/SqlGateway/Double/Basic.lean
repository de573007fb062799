import SqlGateway.Power

namespace SqlGateway

/-- A binary64 number. Equality of the structure is equality of the bits; `Double.eqNum` compares
numbers. -/
structure Double where
  bits : UInt64
deriving DecidableEq, Repr, Inhabited

namespace Double

def exponentField (x : Double) : Nat := x.bits.toNat / twoTo 52 % twoTo 11

def fraction (x : Double) : Nat := x.bits.toNat % twoTo 52

def isNegative (x : Double) : Bool := twoTo 63 ≤ x.bits.toNat

def isNaN (x : Double) : Bool := x.exponentField = 2047 && x.fraction ≠ 0

def isInfinite (x : Double) : Bool := x.exponentField = 2047 && x.fraction = 0

def isFinite (x : Double) : Bool := x.exponentField ≠ 2047

def isZero (x : Double) : Bool := x.exponentField = 0 && x.fraction = 0

/-- A finite number is its sign times `significand · 2 ^ scale`. -/
def significand (x : Double) : Nat :=
  if x.exponentField = 0 then x.fraction else x.fraction + twoTo 52

def scale (x : Double) : Int :=
  if x.exponentField = 0 then -1074 else (x.exponentField : Int) - 1075

def signBit (negative : Bool) : Nat := if negative then twoTo 63 else 0

def ofParts (negative : Bool) (magnitude : Nat) : Double :=
  ⟨UInt64.ofNat (signBit negative + magnitude)⟩

def zero (negative : Bool := false) : Double := ofParts negative 0

def infinity (negative : Bool := false) : Double := ofParts negative (2047 * twoTo 52)

def nan : Double := ⟨0x7ff8000000000000⟩

def neg (x : Double) : Double := ofParts (!x.isNegative) (x.bits.toNat % twoTo 63)

/-- The pattern of `m · 2 ^ q`, where `m` is below `2 ^ 52` only if `q` is the least scale. A
carry out of the significand moves into the exponent by itself. -/
def assemble (negative : Bool) (m : Nat) (q : Int) : Double :=
  if m < twoTo 52 then ofParts negative m
  else
    let magnitude := (q + 1075).toNat * twoTo 52 + (m - twoTo 52)
    if magnitude < 2047 * twoTo 52 then ofParts negative magnitude else infinity negative

/-- The integer nearest to `num / den`, the even one of two. -/
def roundQuotient (num den : Nat) : Nat :=
  let t := num / den
  let r := num % den
  if den < 2 * r ∨ (den = 2 * r ∧ t % 2 = 1) then t + 1 else t

def twoPow (n : Int) : Nat := twoTo n.toNat

/-- Significand and scale of the nearest `m · 2 ^ q` to a positive `num / den`, where `m` has at
most `precision` bits (or is the power of two above them) and `q` is at least `least`. -/
def nearest (precision : Nat) (least : Int) (num den : Nat) : Nat × Int :=
  let q := max ((Nat.log2 num : Int) - Nat.log2 den - precision) least
  let q := if num * twoPow (-q) / (den * twoPow q) < twoTo precision then q else q + 1
  (roundQuotient (num * twoPow (-q)) (den * twoPow q), q)

def ofRatio (negative : Bool) (num den : Nat) : Double :=
  if num = 0 then zero negative
  else
    let (m, q) := nearest 53 (-1074) num den
    assemble negative m q

/-- The number nearest to `m · 10 ^ e`. Far outside the range the answer is known without the
power. -/
def ofDecimal (negative : Bool) (m : Nat) (e : Int) : Double :=
  if m = 0 then zero negative
  else if 400 < e then infinity negative
  else if e + Nat.log2 m < -400 then zero negative
  else ofRatio negative (m * tenTo e.toNat) (tenTo (-e).toNat)

def ofInt (n : Int) : Double := ofRatio (n < 0) n.natAbs 1

def ratio (x : Double) : Int × Nat :=
  let m := x.significand * twoPow x.scale
  (if x.isNegative then -(m : Int) else m, twoPow (-x.scale))

def truncate (x : Double) : Int :=
  let (n, d) := x.ratio
  n.tdiv d

/-- The integer without fraction, held within the bounds; no number counts as zero. -/
def toIntWithin (lo hi : Int) (x : Double) : Int :=
  if x.isNaN then 0
  else if x.isInfinite then if x.isNegative then lo else hi
  else max lo (min hi x.truncate)

/-- Order of two numbers that are not NaN, the infinities included. -/
def compareNum (x y : Double) : Ordering :=
  let rank (z : Double) : Int := if z.isInfinite then if z.isNegative then -1 else 1 else 0
  match compare (rank x) (rank y) with
  | .eq =>
    if x.isInfinite then .eq
    else
      let (n, d) := x.ratio
      let (m, e) := y.ratio
      compare (n * e) (m * d)
  | o => o

/-- Equality as numbers: no NaN equals anything, and the two zeros are equal. -/
def eqNum (x y : Double) : Bool :=
  !x.isNaN && !y.isNaN && x.compareNum y == .eq

end Double
end SqlGateway
