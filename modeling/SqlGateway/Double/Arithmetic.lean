import SqlGateway.Double.Basic

namespace SqlGateway.Double

def ofExact (n : Int) (d : Nat) : Double := ofRatio (n < 0) n.natAbs d

/-- An exact zero keeps a minus sign only if both operands have one. -/
def add (x y : Double) : Double :=
  if x.isNaN ∨ y.isNaN then nan
  else if x.isInfinite then if y.isInfinite ∧ x.isNegative ≠ y.isNegative then nan else x
  else if y.isInfinite then y
  else
    let (n, d) := x.ratio
    let (m, e) := y.ratio
    let sum := n * e + m * d
    if sum = 0 then zero (x.isNegative && y.isNegative) else ofExact sum (d * e)

def sub (x y : Double) : Double := x.add y.neg

def mul (x y : Double) : Double :=
  let negative := x.isNegative != y.isNegative
  if x.isNaN ∨ y.isNaN then nan
  else if x.isInfinite ∨ y.isInfinite then
    if x.isZero ∨ y.isZero then nan else infinity negative
  else
    let (n, d) := x.ratio
    let (m, e) := y.ratio
    ofRatio negative (n * m).natAbs (d * e)

def div (x y : Double) : Double :=
  let negative := x.isNegative != y.isNegative
  if x.isNaN ∨ y.isNaN then nan
  else if x.isInfinite then if y.isInfinite then nan else infinity negative
  else if y.isInfinite then zero negative
  else if y.isZero then if x.isZero then nan else infinity negative
  else
    let (n, d) := x.ratio
    let (m, e) := y.ratio
    ofRatio negative (n.natAbs * e) (d * m.natAbs)

/-- The nearest integer, a half going away from zero. -/
def round (x : Double) : Double :=
  if !x.isFinite then x
  else
    let (n, d) := x.ratio
    ofRatio x.isNegative ((2 * n.natAbs + d) / (2 * d)) 1

def powNat (x : Double) (n : Nat) : Double :=
  go (ofInt 1) x n
where
  go (acc base : Double) (n : Nat) : Double :=
    let acc := if n % 2 = 1 then acc.mul base else acc
    if n / 2 = 0 then acc else go acc (base.mul base) (n / 2)
  termination_by n

end SqlGateway.Double
