import SqlGateway.Proofs.Double.Widening
import SqlGateway.Proofs.Postgres.Coercion

namespace SqlGateway.Postgres

def Kind.returning : List Kind :=
  [.bool, .int2, .int4, .int8, .float4, .float8, .text, .varchar, .bpchar, .name, .char, .bytea]

theorem Kind.supported_returning : ∀ kind ∈ returning, kind.valueType ≠ .unsupported := by decide

def IsNaNCell (c : Blob) : Prop :=
  ∃ n, readOctets? 4 c = some n ∧ (Single.mk (UInt32.ofNat n)).isNaN

/-- The octets that go back for those of a cell. -/
inductive Returned : Kind → Blob → Blob → Prop where
  | same {kind : Kind} {c : Blob} (hkind : kind ≠ .char) : Returned kind c c
  | nan {c c' : Blob} (hc : IsNaNCell c) (hc' : IsNaNCell c') : Returned .float4 c c'
  | char {x : UInt8} : Returned .char [x] [if x < 0x80 then x else 0xc0 + x / 64]

variable {kind : Kind} {name : String} {oid column width : Nat} {v : Value} {c : Blob}

theorem readOctets?_one {n : Nat} (h : readOctets? 1 c = some n) :
    ∃ x : UInt8, c = [x] ∧ n = x.toNat := by
  match c, h with
  | [x], h => exact ⟨x, rfl, by simpa [readOctets?, fromBigEndian] using h.symm⟩

theorem head_encode_singleton (x : UInt8) :
    (Text.Utf8.encode (String.singleton (Char.ofNat x.toNat))).headD 0 =
      if x < 0x80 then x else 0xc0 + x / 64 := by
  have hlt := x.toNat_lt
  have hx : (Char.ofNat x.toNat).toNat = x.toNat := Text.Utf8.toNat_ofNat (by omega)
  have htext : Text.Utf8.encode (String.singleton (Char.ofNat x.toNat)) =
      Text.Utf8.encodeChar (Char.ofNat x.toNat) := by
    simp [Text.Utf8.encode, Text.Utf8.encodeChars]
  rw [htext]
  simp only [Text.Utf8.encodeChar, hx]
  by_cases hascii : x < 0x80
  · have hascii' : x.toNat < 0x80 := hascii
    rw [if_pos hascii', if_pos hascii]
    exact Text.Utf8.toUInt8_toNat rfl
  · have hascii' : ¬ x.toNat < 0x80 := hascii
    rw [if_neg hascii', if_pos (by omega), if_neg hascii]
    apply Text.Utf8.toUInt8_toNat
    simp
    omega

theorem returned_int (hwidth : kind.intWidth = some width) (h : decodeAs? kind c = some v) :
    encodeAs kind name v = .ok c := by
  rw [decodeAs?_int hwidth] at h
  obtain ⟨n, hn, rfl⟩ := Option.map_eq_some_iff.mp h
  have hpos : 0 < width := by cases kind <;> cases hwidth <;> decide
  obtain ⟨hc, hfits⟩ := readSigned?_some hpos hn
  have hint : (Int32.ofInt n).toInt64.toInt = n := by
    rw [Int32.toInt_toInt64, int32_of_fits hwidth hfits]
  have hsent := (narrow_eq width (Int32.ofInt n).toInt64).1 (by rwa [hint])
  rw [hint, hc] at hsent
  rw [encodeAs_int hwidth]
  exact hsent

theorem returned_text (hkind : kind.isText) (h : decodeAs? kind c = some v) :
    encodeAs kind name v = .ok c := by
  rw [decodeAs?_text hkind] at h
  obtain ⟨s, hs, rfl⟩ := Option.map_eq_some_iff.mp h
  rw [encodeAs_text hkind]
  exact congrArg _ (Text.Utf8.decode?_eq_some_iff.mp hs)

theorem returned_float4 (h : decodeAs? .float4 c = some v) :
    ∃ c', encodeAs .float4 name v = .ok c' ∧ Returned .float4 c c' := by
  obtain ⟨n, hn, rfl⟩ := Option.map_eq_some_iff.mp h
  obtain ⟨hc, hlt⟩ := readOctets?_some hn
  refine ⟨_, rfl, ?_⟩
  cases hnan : (Single.mk (UInt32.ofNat n)).isNaN with
  | false =>
    rw [Single.ofDouble_toDouble hnan, UInt32.toNat_ofNat_of_lt' hlt, hc]
    exact .same (by decide)
  | true =>
    refine .nan ⟨n, hn, hnan⟩ ⟨_, readOctets?_bigEndian (UInt32.toNat_lt _), ?_⟩
    rw [UInt32.ofNat_toNat]
    exact Single.isNaN_ofDouble_toDouble hnan

theorem exists_returned (hkind : kind ∈ Kind.returning) (hbool : kind = .bool → c = [0] ∨ c = [1])
    (h : decodeAs? kind c = some v) (name : String) :
    ∃ c', encodeAs kind name v = .ok c' ∧ Returned kind c c' := by
  cases kind with
  | bool =>
    refine ⟨c, ?_, .same (by decide)⟩
    obtain rfl | rfl := hbool rfl <;> cases h <;> rfl
  | int2 => exact ⟨c, returned_int rfl h, .same (by decide)⟩
  | int4 => exact ⟨c, returned_int rfl h, .same (by decide)⟩
  | int8 =>
    refine ⟨c, ?_, .same (by decide)⟩
    obtain ⟨n, hn, rfl⟩ := Option.map_eq_some_iff.mp h
    obtain ⟨hc, hlo, hhi⟩ := readSigned?_some (by decide) hn
    simp only [twoTo_eq] at hlo hhi
    have hint : (Int64.ofInt n).toInt = n := Int64.toInt_ofInt_of_le (by omega) (by omega)
    rw [← hc]
    conv_rhs => rw [← hint]
    rfl
  | float4 => exact returned_float4 h
  | float8 =>
    refine ⟨c, ?_, .same (by decide)⟩
    obtain ⟨n, hn, rfl⟩ := Option.map_eq_some_iff.mp h
    obtain ⟨hc, hlt⟩ := readOctets?_some hn
    rw [← hc]
    conv_rhs => rw [← UInt64.toNat_ofNat_of_lt' hlt]
    rfl
  | text => exact ⟨c, returned_text rfl h, .same (by decide)⟩
  | varchar => exact ⟨c, returned_text rfl h, .same (by decide)⟩
  | bpchar => exact ⟨c, returned_text rfl h, .same (by decide)⟩
  | name => exact ⟨c, returned_text rfl h, .same (by decide)⟩
  | char =>
    obtain ⟨n, hn, rfl⟩ := Option.map_eq_some_iff.mp h
    obtain ⟨x, rfl, rfl⟩ := readOctets?_one hn
    refine ⟨_, rfl, ?_⟩
    rw [Value.toText, head_encode_singleton]
    exact .char
  | bytea =>
    cases h
    exact ⟨c, rfl, .same (by decide)⟩
  | numeric => simp [Kind.returning] at hkind
  | unknown => simp [Kind.returning] at hkind
  | other => simp [Kind.returning] at hkind

theorem isEmpty_of_decodeAs? (hsupported : kind.valueType ≠ .unsupported)
    (h : decodeAs? kind c = some v) : v.isEmpty = false := by
  cases kind with
  | bytea =>
    cases h
    rfl
  | unknown => exact absurd rfl hsupported
  | other => exact absurd rfl hsupported
  | _ =>
    obtain ⟨_, _, rfl⟩ := Option.map_eq_some_iff.mp h
    rfl

theorem first_octet_eq_iff (x : UInt8) :
    (if x < 0x80 then x else 0xc0 + x / 64) = x ↔ x < 0x80 ∨ x = 0xc3 := by
  have hlt := x.toNat_lt
  split
  · rename_i hx
    exact iff_of_true rfl (.inl hx)
  · rename_i hx
    rw [← UInt8.toNat_inj, ← UInt8.toNat_inj]
    simp only [UInt8.lt_iff_toNat_lt] at hx ⊢
    simp at hx ⊢
    omega

/-- Every value of a column, bound to a parameter of the column's type, is accepted, and the server
is sent the octets that it sent itself. Only a `"char"` above the ASCII range goes back as the first
octet of its text, which is the octet itself in one case of the upper half. -/
theorem value_returned (hkind : Kind.ofOid oid ∈ Kind.returning)
    (hbool : Kind.ofOid oid = .bool → c = [0] ∨ c = [1])
    (h : decode oid column (some c) = .ok v) :
    ∃ c', encode oid v = .ok (some c') ∧ Returned (Kind.ofOid oid) c c' ∧
      (Kind.ofOid oid = .char → (c' = c ↔ ∃ x : UInt8, c = [x] ∧ (x < 0x80 ∨ x = 0xc3))) := by
  have hsupported := Kind.supported_returning _ hkind
  have hread := (decode_ok_iff hsupported).mp h
  obtain ⟨c', hc', hreturned⟩ := exists_returned hkind hbool hread (typeName oid)
  refine ⟨c', (encode_ok_iff (isEmpty_of_decodeAs? hsupported hread)).mpr hc', hreturned, ?_⟩
  intro hchar
  rw [hchar] at hreturned
  cases hreturned with
  | same hne => exact absurd rfl hne
  | @char x =>
    rw [List.cons.injEq, first_octet_eq_iff]
    simp

theorem value_returned_accented :
    Kind.ofOid 18 ∈ Kind.returning ∧ decode 18 0 (some [0xe9]) = .ok (.string "é") ∧
    (∃ c', encode 18 (.string "é") = .ok (some c') ∧ Returned .char [0xe9] c') ∧
    encode 18 (.string "é") = .ok (some [0xc3]) := by
  have hkind : Kind.ofOid 18 ∈ Kind.returning := by decide
  have hread : decode 18 0 (some [0xe9]) = .ok (.string "é") := by decide +kernel
  obtain ⟨c', hc', hreturned, -⟩ := value_returned hkind (by decide) hread
  exact ⟨hkind, hread, ⟨c', hc', hreturned⟩, by decide +kernel⟩

end SqlGateway.Postgres
