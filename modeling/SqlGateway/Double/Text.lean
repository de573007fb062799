import SqlGateway.Double.Shortest

namespace SqlGateway

namespace Decimal

def digitChars (x : Decimal) : List Char := Nat.toDigits 10 x.digits

/-- Digits with the point where it falls and zeros up to it; no point after an integer. -/
def positional (x : Decimal) : List Char :=
  let ds := x.digitChars
  if 0 ≤ x.exponent then ds ++ List.replicate x.exponent.toNat '0'
  else
    let places := (-x.exponent).toNat
    if ds.length ≤ places then '0' :: '.' :: List.replicate (places - ds.length) '0' ++ ds
    else ds.take (ds.length - places) ++ '.' :: ds.drop (ds.length - places)

def order (x : Decimal) : Int := x.exponent + x.digitChars.length - 1

def scientific (x : Decimal) : List Char :=
  let sign := if x.order < 0 then '-' else '+'
  let mantissa := match x.digitChars with
    | [] => []
    | [d] => [d]
    | d :: ds => d :: '.' :: ds
  mantissa ++ 'e' :: sign :: Nat.toDigits 10 x.order.natAbs

end Decimal

namespace Double

def signed (x : Double) (cs : List Char) : List Char := if x.isNegative then '-' :: cs else cs

def plainChars (x : Double) : List Char :=
  if x.isNaN then ['N', 'a', 'N']
  else if x.isInfinite then x.signed ['i', 'n', 'f']
  else x.signed (x.shortest .up).positional

def plain (x : Double) : String := String.ofList x.plainChars

/-- Magnitudes from `10 ^ -5` up to below `10 ^ 16` are positional; there is no JSON number for
NaN and the infinities. -/
def json? (x : Double) : Option String :=
  if !x.isFinite then none
  else
    let d := x.shortest .toEven
    let cs :=
      if d.digits = 0 then ['0', '.', '0']
      else if -5 ≤ d.order ∧ d.order < 16 then
        d.positional ++ (if 0 ≤ d.exponent then ['.', '0'] else [])
      else d.scientific
    some (String.ofList (x.signed cs))

end Double
end SqlGateway
