import SqlGateway.Proofs.Postgres.Octets
import SqlGateway.Proofs.Success
import SqlGateway.Proofs.Text.Utf8

namespace SqlGateway.Postgres

def Kind.intWidth : Kind → Option Nat
  | .int2 => some 2
  | .int4 => some 4
  | _ => none

def Kind.isText : Kind → Bool
  | .text | .varchar | .bpchar | .name => true
  | _ => false

/-- What a value becomes as a parameter of a type. An integer keeps its number; a text that starts
with a backslash is not taken for octets. -/
inductive Coerced : Kind → Value → Value → Prop where
  | bool {v : Value} : Coerced .bool v (.bool v.toBool)
  | int {kind : Kind} {width : Nat} {v : Value} {n : Int64} {m : Int32}
      (hwidth : kind.intWidth = some width) (hn : v.toInt64 = .ok n)
      (hfits : FitsSigned width n.toInt) (hm : m.toInt = n.toInt) : Coerced kind v (.int m)
  | int8 {v : Value} {n : Int64} (hn : v.toInt64 = .ok n) : Coerced .int8 v (.int64 n)
  | float8 {v : Value} {x : Double} (hx : v.toDouble = .ok x) : Coerced .float8 v (.double x)
  | text {kind : Kind} {v : Value} (hkind : kind.isText) : Coerced kind v (.string v.toText)
  | bytea {v : Value} (hv : ∀ s, v = .string s → s.startsWith "\\" = false) :
      Coerced .bytea v (.blob v.toBlob)

def Kind.coercing : List Kind :=
  [.bool, .int2, .int4, .int8, .float8, .text, .varchar, .bpchar, .name, .bytea]

theorem Kind.supported_coercing : ∀ kind ∈ coercing, kind.valueType ≠ .unsupported := by decide

variable {kind : Kind} {name : String} {oid column width : Nat} {v w : Value} {b : Blob}

theorem encodeAs_int (hwidth : kind.intWidth = some width) :
    encodeAs kind name v = (v.toInt64.mapError .value).bind (narrow width) := by
  cases kind <;> cases hwidth <;> rfl

theorem decodeAs?_int (hwidth : kind.intWidth = some width) (b : Blob) :
    decodeAs? kind b = (readSigned? width b).map fun n ↦ .int (Int32.ofInt n) := by
  cases kind <;> cases hwidth <;> rfl

theorem encodeAs_text (hkind : kind.isText) :
    encodeAs kind name v = .ok (Text.Utf8.encode v.toText) := by
  cases kind <;> first | rfl | cases hkind

theorem decodeAs?_text (hkind : kind.isText) (b : Blob) :
    decodeAs? kind b = (Text.Utf8.decode? b).map .string := by
  cases kind <;> first | rfl | cases hkind

theorem int32_of_fits {n : Int} (hwidth : kind.intWidth = some width) (h : FitsSigned width n) :
    (Int32.ofInt n).toInt = n := by
  obtain ⟨hlo, hhi⟩ := h
  cases kind <;> cases hwidth <;> simp only [twoTo_eq] at hlo hhi <;>
    exact Int32.toInt_ofInt_of_le (by omega) (by omega)

theorem fitsSigned_int64 (n : Int64) : FitsSigned 8 n.toInt := by
  have hlo := n.le_toInt
  have hhi := n.toInt_lt
  simp only [FitsSigned, twoTo_eq]
  omega

theorem Coerced.encodeAs (h : Coerced kind v w) (name : String) :
    ∃ b, Postgres.encodeAs kind name v = .ok b ∧ decodeAs? kind b = some w := by
  cases h with
  | bool =>
    refine ⟨_, rfl, ?_⟩
    cases v.toBool <;> rfl
  | @int _ width _ n m hwidth hn hfits hm =>
    refine ⟨signedOctets width n.toInt, ?_, ?_⟩
    · rw [encodeAs_int hwidth, hn]
      exact (narrow_eq width n).1 hfits
    · rw [decodeAs?_int hwidth, readSigned?_signedOctets hfits, ← hm, Option.map_some,
        Int32.ofInt_toInt]
  | @int8 _ n hn =>
    refine ⟨signedOctets 8 n.toInt, by rw [Postgres.encodeAs, hn]; rfl, ?_⟩
    rw [decodeAs?, readSigned?_signedOctets (fitsSigned_int64 n), Option.map_some,
      Int64.ofInt_toInt]
  | @float8 _ x hx =>
    refine ⟨bigEndian 8 x.bits.toNat, by rw [Postgres.encodeAs, hx]; rfl, ?_⟩
    rw [decodeAs?, readOctets?_bigEndian x.bits.toNat_lt, Option.map_some, UInt64.ofNat_toNat]
  | text hkind =>
    refine ⟨_, encodeAs_text hkind, ?_⟩
    rw [decodeAs?_text hkind, Text.Utf8.decode?_eq_some_iff.mpr rfl, Option.map_some]
  | bytea hv =>
    refine ⟨v.toBlob, ?_, rfl⟩
    cases v with
    | string s =>
      have hs : s.startsWith "\\" = false := hv s rfl
      simp [Postgres.encodeAs, byteaOf, hs, Except.mapError]
    | _ => rfl

theorem encodeAs_int_error_iff (hwidth : kind.intWidth = some width) :
    (∃ e, encodeAs kind name v = .error e) ↔
      (∃ e, v.toInt64 = .error e) ∨ ∃ n, v.toInt64 = .ok n ∧ ¬ FitsSigned width n.toInt := by
  rw [encodeAs_int hwidth]
  cases hn : v.toInt64 with
  | error e => simp [Except.mapError, Except.bind]
  | ok n =>
    by_cases hfits : FitsSigned width n.toInt
    · simp [Except.mapError, Except.bind, (narrow_eq width n).1 hfits, hfits]
    · obtain ⟨e, he⟩ := (narrow_eq width n).2 hfits
      simp [Except.mapError, Except.bind, he, hfits]

theorem exists_coerced_int (hwidth : kind.intWidth = some width)
    (h : encodeAs kind name v = .ok b) : ∃ w, Coerced kind v w := by
  have hsent : ¬ ∃ e, encodeAs kind name v = .error e := by
    rintro ⟨e, he⟩
    rw [h] at he
    cases he
  rw [encodeAs_int_error_iff hwidth] at hsent
  push Not at hsent
  obtain ⟨hread, hfits⟩ := hsent
  cases hn : v.toInt64 with
  | error e => exact absurd hn (hread e)
  | ok n => exact ⟨_, .int hwidth hn (hfits n hn) (int32_of_fits hwidth (hfits n hn))⟩

theorem exists_coerced (hkind : kind ∈ Kind.coercing)
    (hv : kind = .bytea → ∀ s, v = .string s → s.startsWith "\\" = false)
    (h : encodeAs kind name v = .ok b) : ∃ w, Coerced kind v w := by
  cases kind with
  | bool => exact ⟨_, .bool⟩
  | int2 => exact exists_coerced_int rfl h
  | int4 => exact exists_coerced_int rfl h
  | int8 =>
    obtain ⟨n, hn, -⟩ := bind_eq_ok_iff.mp h
    exact ⟨_, .int8 (mapError_eq_ok_iff.mp hn)⟩
  | float8 =>
    obtain ⟨x, hx, -⟩ := bind_eq_ok_iff.mp h
    exact ⟨_, .float8 (mapError_eq_ok_iff.mp hx)⟩
  | text => exact ⟨_, .text rfl⟩
  | varchar => exact ⟨_, .text rfl⟩
  | bpchar => exact ⟨_, .text rfl⟩
  | name => exact ⟨_, .text rfl⟩
  | bytea => exact ⟨_, .bytea (hv rfl)⟩
  | float4 => simp [Kind.coercing] at hkind
  | numeric => simp [Kind.coercing] at hkind
  | char => simp [Kind.coercing] at hkind
  | unknown => simp [Kind.coercing] at hkind
  | other => simp [Kind.coercing] at hkind

theorem encode_eq (hv : v.isEmpty = false) (oid : Nat) :
    encode oid v = (encodeAs (Kind.ofOid oid) (typeName oid) v).map some := by
  rw [encode, if_neg (by simp [hv])]

theorem encode_ok_iff (hv : v.isEmpty = false) :
    encode oid v = .ok (some b) ↔ encodeAs (Kind.ofOid oid) (typeName oid) v = .ok b := by
  rw [encode_eq hv, map_eq_ok_iff]
  simp

theorem encode_error_iff (hv : v.isEmpty = false) :
    (∃ e, encode oid v = .error e) ↔
      ∃ e, encodeAs (Kind.ofOid oid) (typeName oid) v = .error e := by
  rw [encode_eq hv]
  cases encodeAs (Kind.ofOid oid) (typeName oid) v <;> simp [Except.map]

theorem decode_ok_iff (hsupported : (Kind.ofOid oid).valueType ≠ .unsupported) :
    decode oid column (some b) = .ok w ↔ decodeAs? (Kind.ofOid oid) b = some w := by
  unfold decode
  cases hkind : Kind.ofOid oid <;> first
    | exact absurd (congrArg Kind.valueType hkind) hsupported
    | (simp only; cases decodeAs? _ b <;> simp)

/-- Every value bound to a parameter reads back from what the server is sent as the value itself,
coerced to the type. It is sent whenever it can be coerced, and the types of two and four octets
refuse exactly the values that are no integer and the integers that do not fit. -/
theorem coercion_undone (hkind : Kind.ofOid oid ∈ Kind.coercing) (hv : v.isEmpty = false)
    (hbytea : Kind.ofOid oid = .bytea → ∀ s, v = .string s → s.startsWith "\\" = false) :
    (∀ b, encode oid v = .ok (some b) →
      ∃ w, Coerced (Kind.ofOid oid) v w ∧ ∀ column, decode oid column (some b) = .ok w) ∧
    ((∃ w, Coerced (Kind.ofOid oid) v w) → ∃ b, encode oid v = .ok (some b)) ∧
    ∀ width, (Kind.ofOid oid).intWidth = some width →
      ((∃ e, encode oid v = .error e) ↔
        (∃ e, v.toInt64 = .error e) ∨ ∃ n, v.toInt64 = .ok n ∧ ¬ FitsSigned width n.toInt) := by
  refine ⟨?_, ?_, ?_⟩
  · intro b hb
    rw [encode_ok_iff hv] at hb
    obtain ⟨w, hw⟩ := exists_coerced hkind hbytea hb
    obtain ⟨b', hb', hread⟩ := hw.encodeAs (typeName oid)
    obtain rfl : b' = b := Except.ok.inj (hb'.symm.trans hb)
    exact ⟨w, hw, fun column ↦ (decode_ok_iff (Kind.supported_coercing _ hkind)).mpr hread⟩
  · rintro ⟨w, hw⟩
    obtain ⟨b, hb, -⟩ := hw.encodeAs (typeName oid)
    exact ⟨b, (encode_ok_iff hv).mpr hb⟩
  · intro width hwidth
    rw [encode_error_iff hv, encodeAs_int_error_iff hwidth]

theorem coercion_undone_least :
    Kind.ofOid 21 ∈ Kind.coercing ∧ (Value.string " -32768 ").isEmpty = false ∧
    ((∀ b, encode 21 (.string " -32768 ") = .ok (some b) →
      ∃ w, Coerced .int2 (.string " -32768 ") w ∧ ∀ column, decode 21 column (some b) = .ok w) ∧
    encode 21 (.string " -32768 ") = .ok (some [0x80, 0]) ∧
    decode 21 0 (some [0x80, 0]) = .ok (.int (-32768))) := by
  have hkind : Kind.ofOid 21 ∈ Kind.coercing := by decide
  refine ⟨hkind, rfl, (coercion_undone hkind rfl (by simp [Kind.ofOid])).1, ?_, ?_⟩
  · decide +kernel
  · decide +kernel

end SqlGateway.Postgres
