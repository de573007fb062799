import SqlGateway.Double.Text

namespace SqlGateway

structure Single where
  bits : UInt32
deriving DecidableEq, Repr, Inhabited

namespace Single

def exponentField (x : Single) : Nat := x.bits.toNat / twoTo 23 % twoTo 8

def fraction (x : Single) : Nat := x.bits.toNat % twoTo 23

def isNegative (x : Single) : Bool := twoTo 31 ≤ x.bits.toNat

def significand (x : Single) : Nat :=
  if x.exponentField = 0 then x.fraction else x.fraction + twoTo 23

def scale (x : Single) : Int :=
  if x.exponentField = 0 then -149 else (x.exponentField : Int) - 150

def ofParts (negative : Bool) (magnitude : Nat) : Single :=
  ⟨UInt32.ofNat ((if negative then twoTo 31 else 0) + magnitude)⟩

def infinityMagnitude : Nat := 255 * twoTo 23

def ofRatio (negative : Bool) (num den : Nat) : Single :=
  if num = 0 then ofParts negative 0
  else
    let (m, q) := Double.nearest 24 (-149) num den
    if m < twoTo 23 then ofParts negative m
    else ofParts negative (min ((q + 150).toNat * twoTo 23 + (m - twoTo 23)) infinityMagnitude)

/-- The nearest single. A NaN keeps its sign and the high bits of its payload. -/
def ofDouble (x : Double) : Single :=
  if x.isNaN then
    let payload := x.fraction / twoTo 29
    ofParts x.isNegative (infinityMagnitude + twoTo 22 + payload % twoTo 22)
  else if x.isInfinite then ofParts x.isNegative infinityMagnitude
  else
    let (n, d) := x.ratio
    ofRatio x.isNegative n.natAbs d

def toDouble (x : Single) : Double :=
  if x.exponentField = 255 then
    if x.fraction = 0 then Double.infinity x.isNegative
    else
      let payload := x.fraction % twoTo 22 * twoTo 29
      Double.ofParts x.isNegative (2047 * twoTo 52 + twoTo 51 + payload)
  else
    Double.ofRatio x.isNegative (x.significand * Double.twoPow x.scale) (Double.twoPow (-x.scale))

def readsBack (x : Single) (t : Nat) (k : Int) : Bool :=
  ofRatio x.isNegative (t * tenTo k.toNat) (tenTo (-k).toNat) = x

/-- The fewest digits that round back to the single, written as for a double. -/
def plain (x : Single) : String :=
  if x.exponentField = 255 then x.toDouble.plain
  else
    let digits := Double.fewestDigits x.readsBack .up 9 x.significand x.scale
    String.ofList (x.toDouble.signed digits.positional)

end Single
end SqlGateway
