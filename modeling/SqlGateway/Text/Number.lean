import SqlGateway.Double.Basic
import SqlGateway.Text.Blank

namespace SqlGateway.Text

def digitValue (c : Char) : Nat := c.toNat - 48

def isDigit (c : Char) : Bool := '0' ≤ c && c ≤ '9'

def digitsFrom (n : Nat) (cs : List Char) : Nat := cs.foldl (fun n c => 10 * n + digitValue c) n

def nat? (cs : List Char) : Option Nat :=
  if !cs.isEmpty && cs.all isDigit then some (digitsFrom 0 cs) else none

def splitSign : List Char → Bool × List Char
  | '-' :: cs => (true, cs)
  | '+' :: cs => (false, cs)
  | cs => (false, cs)

def int? (cs : List Char) : Option Int :=
  let (negative, cs) := splitSign cs
  (nat? cs).map fun n => if negative then -(n : Int) else n

def intWithin? (lo hi : Int) (cs : List Char) : Option Int :=
  (int? cs).filter fun n => lo ≤ n ∧ n ≤ hi

def int32? (cs : List Char) : Option Int32 := (intWithin? int32Min int32Max cs).map Int32.ofInt

def int64? (cs : List Char) : Option Int64 := (intWithin? int64Min int64Max cs).map Int64.ofInt

def lowerAscii (c : Char) : Char := if 'A' ≤ c ∧ c ≤ 'Z' then Char.ofNat (c.toNat + 32) else c

def upperAscii (c : Char) : Char := if 'a' ≤ c ∧ c ≤ 'z' then Char.ofNat (c.toNat - 32) else c

def lowerText (s : String) : String := String.ofList (s.toList.map lowerAscii)

def exponent? : List Char → Option Int
  | [] => some 0
  | c :: cs => if c = 'e' ∨ c = 'E' then int? cs else none

/-- Digits with at most one point among them and at least one digit, then the exponent. -/
def decimal? (negative : Bool) (cs : List Char) : Option Double :=
  let whole := cs.takeWhile isDigit
  let rest := cs.dropWhile isDigit
  let (places, rest) := match rest with
    | '.' :: rest => (rest.takeWhile isDigit, rest.dropWhile isDigit)
    | rest => ([], rest)
  if whole.isEmpty && places.isEmpty then none
  else (exponent? rest).map fun e =>
    Double.ofDecimal negative (digitsFrom 0 (whole ++ places)) (e - places.length)

def double? (cs : List Char) : Option Double :=
  let (negative, cs) := splitSign cs
  let name := cs.map lowerAscii
  if name = ['i', 'n', 'f'] ∨ name = ['i', 'n', 'f', 'i', 'n', 'i', 't', 'y'] then
    some (Double.infinity negative)
  else if name = ['n', 'a', 'n'] then some (if negative then Double.nan.neg else Double.nan)
  else decimal? negative cs

end SqlGateway.Text
