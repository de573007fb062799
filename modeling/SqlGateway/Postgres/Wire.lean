import SqlGateway.Double.Single
import SqlGateway.Postgres.Bytea
import SqlGateway.Postgres.Kind
import SqlGateway.Postgres.Numeric
import SqlGateway.Value.Convert

namespace SqlGateway.Postgres

def bigEndian : Nat → Nat → Blob
  | 0, _ => []
  | width + 1, n => (n / twoTo (8 * width)).toUInt8 :: bigEndian width n

def fromBigEndian (n : Nat) (bs : Blob) : Nat := bs.foldl (fun n b => n * 256 + b.toNat) n

def signedOctets (width : Nat) (n : Int) : Blob := bigEndian width (n % twoTo (8 * width)).toNat

def readOctets? (width : Nat) (bs : Blob) : Option Nat :=
  if bs.length = width then some (fromBigEndian 0 bs) else none

def readSigned? (width : Nat) (bs : Blob) : Option Int :=
  (readOctets? width bs).map fun n => (n : Int).bmod (twoTo (8 * width))

inductive EncodeError where
  | value (e : Error)
  | tooLarge
  | tooSmall
  | unbindable (type : ValueType) (name : String)
deriving DecidableEq, Repr

def EncodeError.message : EncodeError → String
  | value e => e.message
  | tooLarge => "number too large to fit in target type"
  | tooSmall => "number too small to fit in target type"
  | unbindable type name => "cannot bind " ++ type.name ++ " to a parameter of type " ++ name
      ++ "; cast the parameter in SQL"

abbrev EncodeResult (α : Type) := Except EncodeError α

def narrow (width : Nat) (n : Int64) : EncodeResult Blob :=
  if n.toInt < -((twoTo (8 * width) / 2 : Nat) : Int) then .error .tooSmall
  else if ((twoTo (8 * width) / 2 : Nat) : Int) ≤ n.toInt then .error .tooLarge
  else .ok (signedOctets width n.toInt)

def numericOf (v : Value) : Result Numeric :=
  let parsed (text : String) (x : Option Numeric) : Result Numeric :=
    match x with
    | some x => .ok x
    | none => .error (.parse text "numeric")
  match v with
  | .bool b => .ok (Numeric.ofInt (if b then 1 else 0))
  | .int n => .ok (Numeric.ofInt n.toInt)
  | .int64 n => .ok (Numeric.ofInt n.toInt)
  | .double x => parsed x.plain (Numeric.ofDouble? x)
  | v => parsed v.toText (Numeric.ofText? (Text.trimChars v.toText.toList))

/-- A text that starts with a backslash is taken for the text form of the octets. -/
def byteaOf : Value → Result Blob
  | .string s => if s.startsWith "\\" then Bytea.decode s else .ok (Value.string s).toBlob
  | v => .ok v.toBlob

def encodeAs (kind : Kind) (name : String) (v : Value) : EncodeResult Blob :=
  match kind with
  | .bool => .ok [if v.toBool then 1 else 0]
  | .int2 => do narrow 2 (← v.toInt64.mapError .value)
  | .int4 => do narrow 4 (← v.toInt64.mapError .value)
  | .int8 => do return signedOctets 8 (← v.toInt64.mapError .value).toInt
  | .float4 => do return bigEndian 4 (Single.ofDouble (← v.toDouble.mapError .value)).bits.toNat
  | .float8 => do return bigEndian 8 (← v.toDouble.mapError .value).bits.toNat
  | .numeric => do return (← (numericOf v).mapError .value).encode
  | .bytea => (byteaOf v).mapError .value
  | .char => .ok [(Text.Utf8.encode v.toText).headD 0]
  | .text | .varchar | .bpchar | .name | .unknown => .ok (Text.Utf8.encode v.toText)
  | .other => .error (.unbindable v.type name)

def encode (oid : Nat) (v : Value) : EncodeResult (Option Blob) :=
  if v.isEmpty then .ok none else (encodeAs (.ofOid oid) (typeName oid) v).map some

/-- The value of a cell, if its octets are a form of the type. -/
def decodeAs? (kind : Kind) (bs : Blob) : Option Value :=
  match kind with
  | .bool => (readOctets? 1 bs).map fun n => .bool (n ≠ 0)
  | .int2 => (readSigned? 2 bs).map fun n => .int (Int32.ofInt n)
  | .int4 => (readSigned? 4 bs).map fun n => .int (Int32.ofInt n)
  | .int8 => (readSigned? 8 bs).map fun n => .int64 (Int64.ofInt n)
  | .float4 => (readOctets? 4 bs).map fun n => .double (Single.toDouble ⟨UInt32.ofNat n⟩)
  | .float8 => (readOctets? 8 bs).map fun n => .double ⟨UInt64.ofNat n⟩
  | .numeric => (Numeric.decode? bs).map fun x => .double x.toDouble
  | .text | .varchar | .bpchar | .name => (Text.Utf8.decode? bs).map .string
  | .char => (readOctets? 1 bs).map fun n => .string (String.singleton (Char.ofNat n))
  | .bytea => some (.blob bs)
  | .unknown | .other => some .absent

def undecodable (column : Nat) : Error :=
  .native .fetch "22000" ("error deserializing column " ++ toString column)

/-- Cells of a type without values of its own are absent, null cells included. -/
def decode (oid column : Nat) (cell : Option Blob) : Result Value :=
  match Kind.ofOid oid, cell with
  | .unknown, _ | .other, _ => .ok .absent
  | _, none => .ok .null
  | kind, some bs =>
    match decodeAs? kind bs with
    | some v => .ok v
    | none => .error (undecodable column)

end SqlGateway.Postgres
