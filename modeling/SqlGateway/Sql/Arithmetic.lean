import SqlGateway.Double.Arithmetic
import SqlGateway.Sql.Expr
import SqlGateway.Sql.Failure

namespace SqlGateway.Sql.Datum

/-- An exact integer result, or the double of the operation where it leaves 64 bits. -/
def ofIntOr (n : Int) (x : Double) : Datum :=
  if NumberText.fitsInt64 n then integer (Int64.ofInt n) else ofReal x

def arithmetic (exact : Int → Int → Int) (rounded : Double → Double → Double) (a b : Datum) :
    Datum :=
  match a.toNumber, b.toNumber with
  | null, _ | _, null => null
  | integer m, integer n =>
    ofIntOr (exact m.toInt n.toInt) (rounded (Double.ofInt m.toInt) (Double.ofInt n.toInt))
  | x, y => ofReal (rounded x.toReal y.toReal)

def add : Datum → Datum → Datum := arithmetic (· + ·) Double.add

def subtract : Datum → Datum → Datum := arithmetic (· - ·) Double.sub

def multiply : Datum → Datum → Datum := arithmetic (· * ·) Double.mul

def divide (a b : Datum) : Datum :=
  if b.toReal.isZero then null else arithmetic Int.tdiv Double.div a b

/-- The remainder of the integer parts, with the sign of the dividend. -/
def remainder (a b : Datum) : Datum :=
  if a.isNull ∨ b.isNull ∨ b.toInteger = 0 then null
  else
    let r := a.toInteger.toInt.tmod b.toInteger.toInt
    match a.toNumber, b.toNumber with
    | integer _, integer _ => integer (Int64.ofInt r)
    | _, _ => real (Double.ofInt r)

def onIntegers (f : Int64 → Int64 → Int64) (a b : Datum) : Datum :=
  if a.isNull ∨ b.isNull then null else integer (f a.toInteger b.toInteger)

/-- Shifts by any number of bits; a negative number shifts the other way. -/
def shift (n : Int64) (bits : Int) : Int64 :=
  if 0 ≤ bits then
    if 64 ≤ bits then 0 else Int64.ofInt (n.toInt * twoTo bits.toNat)
  else if bits ≤ -64 then if n < 0 then -1 else 0
  else Int64.ofInt (n.toInt.fdiv (twoTo (-bits).toNat))

def concat (a b : Datum) : Datum :=
  if a.isNull ∨ b.isNull then null else text (a.octets ++ b.octets)

def isNumeric : Affinity → Bool
  | .numeric | .integer | .real => true
  | .blob | .text => false

/-- How two operands are made comparable: by the affinity that only one has, or as numbers if one of
two affinities is numeric. -/
def comparisonAffinity : Option Affinity → Option Affinity → Affinity
  | some a, some b => if isNumeric a || isNumeric b then .numeric else .blob
  | some a, none | none, some a => a
  | none, none => .blob

def isText : Datum → Bool
  | text _ => true
  | _ => false

def compareAs (affinity : Affinity) (a b : Datum) : Ordering :=
  if isNumeric affinity then a.comparedNumber.order b.comparedNumber
  else if affinity = .text ∧ (a.isText ∨ b.isText) then a.comparedText.order b.comparedText
  else a.order b

def compared (affinity : Affinity) (holds : Ordering → Bool) (a b : Datum) : Datum :=
  if a.isNull ∨ b.isNull then null else ofBool (holds (compareAs affinity a b))

def same (affinity : Affinity) (a b : Datum) : Datum :=
  if a.isNull ∨ b.isNull then ofBool (a.isNull && b.isNull)
  else ofBool (compareAs affinity a b == .eq)

def ofTruth : Option Bool → Datum
  | none => null
  | some b => ofBool b

def binary (op : Binary) (affinity : Affinity) (a b : Datum) : Datum :=
  match op with
  | .or => match a.truth, b.truth with
    | some true, _ | _, some true => ofBool true
    | some false, some false => ofBool false
    | _, _ => null
  | .and => match a.truth, b.truth with
    | some false, _ | _, some false => ofBool false
    | some true, some true => ofBool true
    | _, _ => null
  | .equal => compared affinity (· == .eq) a b
  | .unequal => compared affinity (· != .eq) a b
  | .less => compared affinity (· == .lt) a b
  | .lessEqual => compared affinity (· != .gt) a b
  | .greater => compared affinity (· == .gt) a b
  | .greaterEqual => compared affinity (· != .lt) a b
  | .is => same affinity a b
  | .bitAnd => onIntegers (· &&& ·) a b
  | .bitOr => onIntegers (· ||| ·) a b
  | .shiftLeft => onIntegers (fun n bits => shift n bits.toInt) a b
  | .shiftRight => onIntegers (fun n bits => shift n (-bits.toInt)) a b
  | .add => add a b
  | .subtract => subtract a b
  | .multiply => multiply a b
  | .divide => if a.isNull ∨ b.isNull then null else divide a b
  | .remainder => remainder a b
  | .concat => concat a b

def unary (op : Unary) (a : Datum) : Datum :=
  match op with
  | .not => ofTruth (a.truth.map (!·))
  | .negate => subtract (integer 0) a
  | .plus => a
  | .complement => if a.isNull then null else integer (~~~a.toInteger)
  | .isNull => ofBool a.isNull

def abs : Datum → Except Failure Datum
  | null => .ok null
  | integer n =>
    if n.toInt = int64Min then .error .integerOverflow
    else .ok (integer (Int64.ofInt n.toInt.natAbs))
  | d => .ok (real (if d.toReal.isNegative ∧ !d.toReal.isZero then d.toReal.neg else d.toReal))

def behindCharacter (b : UInt8) (bs : Blob) : Blob :=
  if 0xc0 ≤ b then bs.dropWhile fun c => c &&& 0xc0 == 0x80 else bs

theorem behindCharacter_length_le (b : UInt8) (bs : Blob) :
    (behindCharacter b bs).length ≤ bs.length := by
  unfold behindCharacter
  split
  · exact (List.dropWhile_sublist _).length_le
  · exact Nat.le_refl _

def characters : Blob → Nat
  | [] => 0
  | b :: bs => if b = 0 then 0 else characters (behindCharacter b bs) + 1
termination_by bs => bs.length
decreasing_by exact Nat.lt_succ_of_le (behindCharacter_length_le b bs)

def length : Datum → Datum
  | null => null
  | text b => integer (Int64.ofInt (characters b))
  | d => integer (Int64.ofInt d.octets.length)

/-- The octets of a character by its number; numbers beyond the last one stand for U+FFFD. -/
def characterOctets (n : Int) : Blob :=
  let n := if n < 0 ∨ 0x10ffff < n then 0xfffd else n.toNat
  if n < 0x80 then [n.toUInt8]
  else if n < 0x800 then [(0xc0 + n / 0x40).toUInt8, Text.Utf8.continuation n]
  else if n < 0x10000 then
    [(0xe0 + n / 0x1000).toUInt8, Text.Utf8.continuation (n / 0x40), Text.Utf8.continuation n]
  else
    [(0xf0 + n / 0x40000).toUInt8, Text.Utf8.continuation (n / 0x1000),
      Text.Utf8.continuation (n / 0x40), Text.Utf8.continuation n]

def char (ds : List Datum) : Datum := text (ds.flatMap fun d => characterOctets d.toInteger.toInt)

end SqlGateway.Sql.Datum
