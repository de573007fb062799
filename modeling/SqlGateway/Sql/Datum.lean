import SqlGateway.Double.Arithmetic
import SqlGateway.Double.Text
import SqlGateway.Text.Number
import SqlGateway.Text.Utf8
import SqlGateway.Value.Basic

namespace SqlGateway.Sql

inductive Datum where
  | null
  | integer (n : Int64)
  | real (x : Double)
  | text (b : Blob)
  | blob (b : Blob)
deriving DecidableEq, Repr, Inhabited

inductive Affinity where
  | blob
  | text
  | numeric
  | integer
  | real
deriving DecidableEq, Repr, Inhabited

/-- What a numeric text looks like: nothing numeric at its start, a number followed by something
else, or a number and nothing but blanks around it. -/
inductive NumberForm where
  | none
  | start
  | whole
deriving DecidableEq, Repr

structure NumberText where
  form : NumberForm
  integral : Bool
  negative : Bool
  digits : Nat
  exponent : Int

namespace NumberText

def isSpace (c : Char) : Bool :=
  c == ' ' || c == '\t' || c == '\n' || c == '\x0b' || c == '\x0c' || c == '\r'

def exponentOf : List Char → Option (Int × List Char)
  | e :: cs =>
    if e = 'e' ∨ e = 'E' then
      let (negative, ds) := Text.splitSign cs
      let digits := ds.takeWhile Text.isDigit
      if digits.isEmpty then none
      else
        let n : Int := Text.digitsFrom 0 digits
        some (if negative then -n else n, ds.dropWhile Text.isDigit)
    else none
  | [] => none

def read (cs : List Char) : NumberText :=
  let (negative, cs) := Text.splitSign (cs.dropWhile isSpace)
  let whole := cs.takeWhile Text.isDigit
  let rest := cs.dropWhile Text.isDigit
  let (point, places, rest) := match rest with
    | '.' :: rest => (true, rest.takeWhile Text.isDigit, rest.dropWhile Text.isDigit)
    | rest => (false, [], rest)
  if whole.isEmpty ∧ places.isEmpty then ⟨.none, true, negative, 0, 0⟩
  else
    let (power, exponent, rest) := match exponentOf rest with
      | some (e, rest) => (true, e, rest)
      | none => (false, 0, rest)
    let digits := Text.digitsFrom 0 (whole ++ places)
    ⟨if (rest.dropWhile isSpace).isEmpty then .whole else .start, !point && !power, negative,
      digits, exponent - places.length⟩

def toReal (t : NumberText) : Double := Double.ofDecimal t.negative t.digits t.exponent

def toInt (t : NumberText) : Int := if t.negative then -(t.digits : Int) else t.digits

def fitsInt64 (n : Int) : Bool := int64Min ≤ n && n ≤ int64Max

/-- An integer where the text has the form of one that fits 64 bits, else a double. -/
def toDatum (t : NumberText) : Datum :=
  if t.integral ∧ fitsInt64 t.toInt then .integer (Int64.ofInt t.toInt) else .real t.toReal

end NumberText

/-- The nearest decimal with `n` digits, a half going up, as digits and the exponent of the first
one. -/
def roundedDigits (n : Nat) (x : Double) : Nat × Int :=
  let num := x.significand * Double.twoPow x.scale
  let den := Double.twoPow (-x.scale)
  let e := Double.leadingExponent num den
  let (p, q) := Double.scaleTen num den (e - (n : Int) + 1)
  let m := (2 * p + q) / (2 * q)
  if tenTo n ≤ m then (m / 10, e + 1) else (m, e)

/-- Fifteen digits, of which zeros at the end are left out but for one behind the point. Exponents
below -4 and from 15 on are written. -/
def realChars (x : Double) : List Char :=
  if x.isNaN then ['N', 'a', 'N']
  else if x.isInfinite then x.signed ['I', 'n', 'f']
  else if x.isZero then x.signed ['0', '.', '0']
  else
    let (m, e) := roundedDigits 15 x
    let strip (ds : List Char) : List Char := (ds.reverse.dropWhile (· == '0')).reverse
    let ds := strip (Nat.toDigits 10 m)
    let fraction (cs : List Char) : List Char := '.' :: (if cs.isEmpty then ['0'] else cs)
    x.signed (
      if e < -4 ∨ 14 < e then
        let power := Nat.toDigits 10 e.natAbs
        ds.take 1 ++ fraction (ds.drop 1) ++ ['e', if e < 0 then '-' else '+']
          ++ List.replicate (2 - power.length) '0' ++ power
      else if e < 0 then '0' :: fraction (List.replicate (-e - 1).toNat '0' ++ ds)
      else
        let whole := e.toNat + 1
        ds.take whole ++ List.replicate (whole - ds.length) '0' ++ fraction (ds.drop whole))

namespace Datum

def isNull (d : Datum) : Bool := d = null

def ofText (s : String) : Datum := text (Text.Utf8.encode s)

def ofBool (b : Bool) : Datum := integer (if b then 1 else 0)

def ofReal (x : Double) : Datum := if x.isNaN then null else real x

def typeName : Datum → String
  | null => "null"
  | integer _ => "integer"
  | real _ => "real"
  | text _ => "text"
  | blob _ => "blob"

def octets : Datum → Blob
  | null => []
  | integer n => Text.Utf8.encode (toString n.toInt)
  | real x => Text.Utf8.encodeChars (realChars x)
  | text b | blob b => b

def chars (b : Blob) : List Char := Text.Utf8.decodeLossy b

/-- The number that a datum counts as in arithmetic; a text counts as the number it starts with. -/
def toNumber : Datum → Datum
  | text b | blob b =>
    let t := NumberText.read (chars b)
    match t.form with
    | .none => integer 0
    | _ => t.toDatum
  | d => d

def toReal (d : Datum) : Double :=
  match d.toNumber with
  | integer n => Double.ofInt n.toInt
  | real x => x
  | _ => Double.zero

def toInteger (d : Datum) : Int64 :=
  match d.toNumber with
  | integer n => n
  | real x => Int64.ofInt (x.toIntWithin int64Min int64Max)
  | _ => 0

def truth : Datum → Option Bool
  | null => none
  | integer n => some (n ≠ 0)
  | d => some !d.toReal.isZero

/-- An integer for a real that is one and stays clear of the ends of 64 bits. -/
def integerIfExact (x : Double) : Datum :=
  let n := x.toIntWithin int64Min int64Max
  if (Double.ofInt n).eqNum x ∧ int64Min < n ∧ n < int64Max then integer (Int64.ofInt n) else real x

def numericText (b : Blob) : Datum :=
  let t := NumberText.read (chars b)
  if t.form = .whole then
    match t.toDatum with
    | real x => integerIfExact x
    | d => d
  else text b

def store : Affinity → Datum → Datum
  | .blob, d => d
  | .text, integer n => text (octets (integer n))
  | .text, real x => text (octets (real x))
  | .text, d => d
  | .real, text b =>
    match numericText b with
    | integer n => real (Double.ofInt n.toInt)
    | d => d
  | .real, integer n => real (Double.ofInt n.toInt)
  | .real, d => d
  | _, text b => numericText b
  | _, real x => integerIfExact x
  | _, d => d

/-- The number that a text compares as with a number, without turning whole reals to integers. -/
def comparedNumber : Datum → Datum
  | text b =>
    let t := NumberText.read (chars b)
    if t.form = .whole then t.toDatum else text b
  | d => d

def comparedText : Datum → Datum
  | integer n => text (octets (integer n))
  | real x => text (octets (real x))
  | d => d

def rank : Datum → Nat
  | null => 0
  | integer _ | real _ => 1
  | text _ => 2
  | blob _ => 3

def compareReals (x y : Double) : Ordering := x.compareNum y

def compareInteger (n : Int64) (x : Double) : Ordering :=
  if x.isInfinite then if x.isNegative then .gt else .lt
  else
    let (p, q) := x.ratio
    compare (n.toInt * q) p

def compareOctets : Blob → Blob → Ordering
  | [], [] => .eq
  | [], _ :: _ => .lt
  | _ :: _, [] => .gt
  | a :: as, b :: bs => if a < b then .lt else if b < a then .gt else compareOctets as bs

def order (a b : Datum) : Ordering :=
  match a, b with
  | integer m, integer n => compare m.toInt n.toInt
  | integer m, real x => compareInteger m x
  | real x, integer n => (compareInteger n x).swap
  | real x, real y => compareReals x y
  | text s, text t => compareOctets s t
  | blob s, blob t => compareOctets s t
  | a, b => compare a.rank b.rank

end Datum

def occurs (part : List Char) : List Char → Bool
  | [] => part.isEmpty
  | c :: cs => part.isPrefixOf (c :: cs) || occurs part cs

/-- Affinity that a declared type gives: by the first of these parts that occurs in it. -/
def Affinity.ofDeclared (declared : Option String) : Affinity :=
  let name := (declared.getD "").toList.map Text.upperAscii
  let has (part : String) : Bool := occurs part.toList name
  if has "INT" then .integer
  else if has "CHAR" || has "CLOB" || has "TEXT" then .text
  else if name.isEmpty || has "BLOB" then .blob
  else if has "REAL" || has "FLOA" || has "DOUB" then .real
  else .numeric

end SqlGateway.Sql
