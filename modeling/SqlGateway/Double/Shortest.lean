import SqlGateway.Double.Basic

namespace SqlGateway

/-- Of two shortest decimals that are equally near, plain text takes the greater magnitude and JSON
the one with the even last digit. -/
inductive Tie where
  | up
  | toEven
deriving DecidableEq, Repr

/-- `digits · 10 ^ exponent`. -/
structure Decimal where
  digits : Nat
  exponent : Int
deriving DecidableEq, Repr

def Decimal.strip (x : Decimal) : Decimal :=
  if x.digits ≠ 0 ∧ x.digits % 10 = 0 then
    Decimal.strip ⟨x.digits / 10, x.exponent + 1⟩
  else x
termination_by x.digits
decreasing_by omega

namespace Double

def scaleTen (num den : Nat) (k : Int) : Nat × Nat :=
  (num * tenTo (-k).toNat, den * tenTo k.toNat)

/-- The exponent of the first decimal digit of `num / den`, from the binary one by a correction
of at most one. -/
def leadingExponent (num den : Nat) : Int :=
  let guess := (((Nat.log2 num : Int) - Nat.log2 den) * 1233) / 4096
  let atLeast (k : Int) : Bool := let (n, d) := scaleTen num den k; d ≤ n
  if atLeast (guess + 1) then guess + 1 else if atLeast guess then guess else guess - 1

/-- The two neighbours of `num / den` with last digit at `10 ^ k`, the nearer one first. -/
def neighbours (tie : Tie) (num den : Nat) (k : Int) : List Nat :=
  let (n, d) := scaleTen num den k
  let t := n / d
  let twice := 2 * (n % d)
  if twice < d ∨ (twice = d ∧ tie = .toEven ∧ t % 2 = 0) then [t, t + 1] else [t + 1, t]

def exactDecimal (m : Nat) (q : Int) : Decimal :=
  if 0 ≤ q then ⟨m * twoPow q, 0⟩ else ⟨m * Nat.pow 5 (-q).toNat, q⟩

def firstDigits (readsBack : Nat → Int → Bool) (tie : Tie) (num den : Nat) (e : Int) :
    Nat → Nat → Option Decimal
  | _, 0 => none
  | n, fuel + 1 =>
    let k := e - n
    match (neighbours tie num den k).find? (readsBack · k) with
    | some t => some ⟨t, k⟩
    | none => firstDigits readsBack tie num den e (n + 1) fuel

/-- The fewest digits of `m · 2 ^ q` that pass the test, at most `most` of them. -/
def fewestDigits (readsBack : Nat → Int → Bool) (tie : Tie) (most m : Nat) (q : Int) : Decimal :=
  if m = 0 then ⟨0, 0⟩
  else
    let num := m * twoPow q
    let den := twoPow (-q)
    let found := firstDigits readsBack tie num den (leadingExponent num den) 0 most
    (found.getD (exactDecimal m q)).strip

/-- The digits of the magnitude of a finite number. Seventeen always suffice. -/
def shortest (tie : Tie) (x : Double) : Decimal :=
  fewestDigits (fun t k => ofDecimal x.isNegative t k = x) tie 17 x.significand x.scale

end Double
end SqlGateway
