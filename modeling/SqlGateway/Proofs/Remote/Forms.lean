import SqlGateway.MySql.Cell
import SqlGateway.Odbc.Cell
import SqlGateway.Proofs.Postgres.Coercion
import SqlGateway.Proofs.Postgres.Groups

namespace SqlGateway

namespace Postgres

/-- The octets that stand for a value, other than null, where a parameter of a kind is expected. -/
inductive Octets : Kind → Value → Blob → Prop where
  | zero {v : Value} (hv : v.toBool = false) : Octets .bool v [0]
  | one {v : Value} (hv : v.toBool = true) : Octets .bool v [1]
  | int {kind : Kind} {width : Nat} {v : Value} {n : Int64} {b : Blob}
      (hwidth : kind.intWidth = some width) (hn : v.toInt64 = .ok n)
      (hb : readSigned? width b = some n.toInt) : Octets kind v b
  | int8 {v : Value} {n : Int64} {b : Blob} (hn : v.toInt64 = .ok n)
      (hb : readSigned? 8 b = some n.toInt) : Octets .int8 v b
  | float4 {v : Value} {x : Double} {b : Blob} (hx : v.toDouble = .ok x)
      (hb : readOctets? 4 b = some (Single.ofDouble x).bits.toNat) : Octets .float4 v b
  | float8 {v : Value} {x : Double} {b : Blob} (hx : v.toDouble = .ok x)
      (hb : readOctets? 8 b = some x.bits.toNat) : Octets .float8 v b
  | numeric {v : Value} {x : Numeric} {b : Blob} (hx : numericOf v = .ok x) (hb : x.Written b) :
      Octets .numeric v b
  | escaped {text : String} {b : Blob} (htext : text.startsWith "\\")
      (hb : Bytea.decode text = .ok b) : Octets .bytea (.string text) b
  | bytea {v : Value} (hv : ∀ text, v = .string text → text.startsWith "\\" = false) :
      Octets .bytea v v.toBlob
  | char {v : Value} {x : UInt8} {rest : Blob} (hv : Text.Utf8.encode v.toText = x :: rest) :
      Octets .char v [x]
  | charless {v : Value} (hv : v.toText = "") : Octets .char v [0]
  | text {kind : Kind} {v : Value} {b : Blob} (hkind : kind.isText ∨ kind = .unknown)
      (hb : Text.Utf8.decode? b = some v.toText) : Octets kind v b

/-- The cell that stands for a value where a parameter of a type is expected. -/
inductive Form (type : Nat) : Value → Option Blob → Prop where
  | null {v : Value} (hv : v.isEmpty = true) : Form type v none
  | octets {v : Value} {b : Blob} (hv : v.isEmpty = false) (hb : Octets (.ofOid type) v b) :
      Form type v (some b)

variable {kind : Kind} {name : String} {type : Nat} {v : Value} {b : Blob} {cell : Option Blob}

theorem signedOctets_ok_iff {width : Nat} {n : Int} (hwidth : 0 < width) (h : FitsSigned width n) :
    signedOctets width n = b ↔ readSigned? width b = some n := by
  constructor
  · rintro rfl
    exact readSigned?_signedOctets h
  · intro hb
    exact (readSigned?_some hwidth hb).1

theorem bigEndian_eq_iff {width n : Nat} (h : n < twoTo (8 * width)) :
    bigEndian width n = b ↔ readOctets? width b = some n := by
  constructor
  · rintro rfl
    exact readOctets?_bigEndian h
  · intro hb
    exact (readOctets?_some hb).1

theorem narrow_ok_iff {width : Nat} {n : Int64} (hwidth : 0 < width) :
    narrow width n = .ok b ↔ readSigned? width b = some n.toInt := by
  by_cases hfits : FitsSigned width n.toInt
  · rw [(narrow_eq width n).1 hfits, Except.ok.injEq]
    exact signedOctets_ok_iff hwidth hfits
  · obtain ⟨e, he⟩ := (narrow_eq width n).2 hfits
    rw [he]
    constructor
    · intro h
      cases h
    · intro hb
      exact absurd (readSigned?_some hwidth hb).2 hfits

theorem Kind.intWidth_pos {width : Nat} (h : kind.intWidth = some width) : 0 < width := by
  cases kind <;> cases h <;> decide

theorem Octets.encodeAs (h : Octets kind v b) (name : String) :
    Postgres.encodeAs kind name v = .ok b := by
  cases h with
  | zero hv => simp [Postgres.encodeAs, hv]
  | one hv => simp [Postgres.encodeAs, hv]
  | int hwidth hn hb =>
    rw [encodeAs_int hwidth, hn]
    exact (narrow_ok_iff (Kind.intWidth_pos hwidth)).mpr hb
  | int8 hn hb =>
    rw [Postgres.encodeAs, hn]
    exact congrArg _ (readSigned?_some (by decide) hb).1
  | float4 hx hb =>
    rw [Postgres.encodeAs, hx]
    exact congrArg _ (readOctets?_some hb).1
  | float8 hx hb =>
    rw [Postgres.encodeAs, hx]
    exact congrArg _ (readOctets?_some hb).1
  | numeric hx hb =>
    rw [Postgres.encodeAs, hx]
    exact congrArg _ (Numeric.written_iff.mp hb)
  | escaped htext hb => simp [Postgres.encodeAs, byteaOf, htext, hb, Except.mapError]
  | bytea hv =>
    cases v with
    | string text =>
      have htext : text.startsWith "\\" = false := hv text rfl
      simp [Postgres.encodeAs, byteaOf, htext, Except.mapError]
    | _ => rfl
  | char hv => simp [Postgres.encodeAs, hv]
  | charless hv =>
    rw [Postgres.encodeAs, hv]
    rfl
  | text hkind hb =>
    have hencode : Text.Utf8.encode v.toText = b := Text.Utf8.decode?_eq_some_iff.mp hb
    rcases hkind with hkind | rfl
    · rw [encodeAs_text hkind, hencode]
    · rw [Postgres.encodeAs, hencode]

theorem octets_int {width : Nat} (hwidth : kind.intWidth = some width)
    (h : encodeAs kind name v = .ok b) : Octets kind v b := by
  rw [encodeAs_int hwidth] at h
  obtain ⟨n, hn, hb⟩ := bind_eq_ok_iff.mp h
  exact .int hwidth (mapError_eq_ok_iff.mp hn) ((narrow_ok_iff (Kind.intWidth_pos hwidth)).mp hb)

theorem octets_text (hkind : kind.isText ∨ kind = .unknown) (h : Text.Utf8.encode v.toText = b) :
    Octets kind v b :=
  .text hkind (Text.Utf8.decode?_eq_some_iff.mpr h)

theorem octets_bytea (h : (byteaOf v).mapError EncodeError.value = .ok b) : Octets .bytea v b := by
  rw [mapError_eq_ok_iff] at h
  cases v with
  | string text =>
    by_cases htext : text.startsWith "\\"
    · exact .escaped htext (by simpa [byteaOf, htext] using h)
    · obtain rfl : (Value.string text).toBlob = b := by simpa [byteaOf, htext] using h
      refine .bytea fun text' htext' ↦ ?_
      cases htext'
      simpa using htext
  | _ =>
    obtain rfl := Except.ok.inj h
    exact .bytea fun text htext ↦ by cases htext

theorem octets_char (v : Value) : Octets .char v [(Text.Utf8.encode v.toText).headD 0] := by
  cases hv : Text.Utf8.encode v.toText with
  | nil =>
    refine .charless ?_
    have hread : Text.Utf8.decode? [] = some v.toText := Text.Utf8.decode?_eq_some_iff.mpr hv
    have hempty : Text.Utf8.decode? [] = some "" := Text.Utf8.decode?_eq_some_iff.mpr rfl
    exact Option.some.inj (hread.symm.trans hempty)
  | cons x rest => exact .char hv

theorem octets_of_encodeAs (h : encodeAs kind name v = .ok b) : Octets kind v b := by
  cases kind with
  | bool =>
    obtain rfl := Except.ok.inj h
    cases hv : v.toBool with
    | false => exact .zero hv
    | true => exact .one hv
  | int2 => exact octets_int rfl h
  | int4 => exact octets_int rfl h
  | int8 =>
    obtain ⟨n, hn, hb⟩ := bind_eq_ok_iff.mp h
    exact .int8 (mapError_eq_ok_iff.mp hn)
      ((signedOctets_ok_iff (by decide) (fitsSigned_int64 n)).mp (Except.ok.inj hb))
  | float4 =>
    obtain ⟨x, hx, hb⟩ := bind_eq_ok_iff.mp h
    exact .float4 (mapError_eq_ok_iff.mp hx)
      ((bigEndian_eq_iff (UInt32.toNat_lt _)).mp (Except.ok.inj hb))
  | float8 =>
    obtain ⟨x, hx, hb⟩ := bind_eq_ok_iff.mp h
    exact .float8 (mapError_eq_ok_iff.mp hx)
      ((bigEndian_eq_iff (UInt64.toNat_lt _)).mp (Except.ok.inj hb))
  | numeric =>
    obtain ⟨x, hx, hb⟩ := bind_eq_ok_iff.mp h
    exact .numeric (mapError_eq_ok_iff.mp hx) (Numeric.written_iff.mpr (Except.ok.inj hb))
  | bytea => exact octets_bytea h
  | char =>
    obtain rfl := Except.ok.inj h
    exact octets_char v
  | text => exact octets_text (.inl rfl) (Except.ok.inj h)
  | varchar => exact octets_text (.inl rfl) (Except.ok.inj h)
  | bpchar => exact octets_text (.inl rfl) (Except.ok.inj h)
  | name => exact octets_text (.inl rfl) (Except.ok.inj h)
  | unknown => exact octets_text (.inr rfl) (Except.ok.inj h)
  | other => cases h

theorem form_iff : Form type v cell ↔ encode type v = .ok cell := by
  cases hv : v.isEmpty with
  | true =>
    have hnull : encode type v = .ok none := if_pos hv
    rw [hnull]
    constructor
    · rintro (hv' | ⟨hv', -⟩)
      · rfl
      · simp [hv] at hv'
    · intro h
      obtain rfl := Except.ok.inj h
      exact .null hv
  | false =>
    constructor
    · rintro (hv' | ⟨-, hb⟩)
      · simp [hv] at hv'
      · exact (encode_ok_iff hv).mpr (hb.encodeAs _)
    · intro h
      rw [encode_eq hv] at h
      obtain ⟨b, hb, rfl⟩ := map_eq_ok_iff.mp h
      exact .octets hv (octets_of_encodeAs hb)

end Postgres

namespace MySql

/-- The cell that stands for a value. Texts and octets look alike, and all integers do. -/
inductive Form : Value → Cell → Prop where
  | absent : Form .absent .null
  | null : Form .null .null
  | string {text : String} {b : Blob} (hb : Text.Utf8.decode? b = some text) :
      Form (.string text) (.bytes b)
  | blob (b : Blob) : Form (.blob b) (.bytes b)
  | zero : Form (.bool false) (.int 0)
  | one : Form (.bool true) (.int 1)
  | int {n : Int32} {m : Int64} (hm : m.toInt = n.toInt) : Form (.int n) (.int m)
  | int64 (n : Int64) : Form (.int64 n) (.int n)
  | double (x : Double) : Form (.double x) (.double x)

theorem form_encode (v : Value) : Form v (Cell.encode v) := by
  cases v with
  | absent => exact .absent
  | null => exact .null
  | string text => exact .string (Text.Utf8.decode?_eq_some_iff.mpr rfl)
  | blob b => exact .blob b
  | bool b =>
    cases b with
    | false => exact .zero
    | true => exact .one
  | int n => exact .int (Int32.toInt_toInt64 n)
  | int64 n => exact .int64 n
  | double x => exact .double x

theorem Form.eq_encode {v : Value} {cell : Cell} (h : Form v cell) : cell = Cell.encode v := by
  cases h with
  | string hb => exact congrArg _ (Text.Utf8.decode?_eq_some_iff.mp hb).symm
  | @int n m hm =>
    have hsame : m = n.toInt64 := Int64.toInt_inj.mp (hm.trans (Int32.toInt_toInt64 n).symm)
    exact congrArg _ hsame
  | _ => rfl

end MySql

namespace Odbc

/-- The parameter that stands for a value, of the kind of the value itself. -/
inductive Form : Value → Parameter → Prop where
  | absent : Form .absent .null
  | null : Form .null .null
  | string (text : String) : Form (.string text) (.text text)
  | blob (b : Blob) : Form (.blob b) (.binary b)
  | bool (b : Bool) : Form (.bool b) (.bit b)
  | int (n : Int32) : Form (.int n) (.int n)
  | int64 (n : Int64) : Form (.int64 n) (.int64 n)
  | double (x : Double) : Form (.double x) (.double x)

theorem form_ofValue (v : Value) : Form v (Parameter.ofValue v) := by
  cases v with
  | absent => exact .absent
  | null => exact .null
  | string text => exact .string text
  | blob b => exact .blob b
  | bool b => exact .bool b
  | int n => exact .int n
  | int64 n => exact .int64 n
  | double x => exact .double x

theorem Form.eq_ofValue {v : Value} {p : Parameter} (h : Form v p) : p = Parameter.ofValue v := by
  cases h <;> rfl

end Odbc
end SqlGateway
