import SqlGateway.Proofs.Postgres.Bytea
import SqlGateway.Proofs.Postgres.Coercion
import SqlGateway.Proofs.Text.Floating

namespace SqlGateway.Postgres

namespace Numeric

variable {cs : List Char}

theorem Reading.digits_whole (hcs : ∀ c ∈ cs, Text.isDigit c) (r : Reading)
    (hpoint : r.point = false) (hscale : r.scale = 0) (hseen : r.hasDigit ∨ cs ≠ [])
    (hfits : Text.digitsFrom r.mantissa cs < maxMantissa) :
    r.digits cs = some ⟨r.negative, Text.digitsFrom r.mantissa cs, 0⟩ := by
  induction cs generalizing r with
  | nil =>
    have hdigit : r.hasDigit := hseen.resolve_right (by simp)
    rw [Reading.digits, if_pos hdigit, hscale]
    rfl
  | cons c cs ih =>
    obtain ⟨hc, hcs⟩ := List.forall_mem_cons.mp hcs
    have hnext : 10 * r.mantissa + Text.digitValue c < maxMantissa :=
      Nat.lt_of_le_of_lt (Text.le_digitsFrom _ cs) hfits
    rw [Reading.digits, if_neg (by simp [hpoint]), if_pos hc]
    simp only [if_pos hnext]
    apply ih hcs
    · exact hpoint
    · simp [hpoint]
    · exact .inl rfl
    · exact hfits

theorem ofText?_toString {n : Int} (h : n.natAbs < maxMantissa) :
    ofText? (toString n).toList = some (ofInt n) := by
  have hvalue : Text.digitsFrom 0 (Nat.toDigits 10 n.natAbs) = n.natAbs := by
    rw [Text.digitsFrom_eq, Nat.ofDigitChars_ten_toDigits]
  have hdigits : ∀ c ∈ Nat.toDigits 10 n.natAbs, Text.isDigit c :=
    fun _ ↦ Text.isDigit_of_mem_toDigits
  rw [ofText?, Text.splitSign_toString]
  have hread := Reading.digits_whole hdigits { negative := decide (n < 0) } rfl rfl
    (.inr Nat.toDigits_ne_nil) (by rwa [hvalue])
  rw [hvalue] at hread
  exact hread

end Numeric

variable {kind : Kind} {v : Value} {n : Int64} {before after : List Char}

def Kind.isNumber : Kind → Bool
  | .int2 | .int4 | .int8 | .float4 | .float8 | .numeric => true
  | _ => false

/-- A value reads as `n` in each of the ways in which parameters are read as numbers. -/
structure ReadsAs (v : Value) (n : Int64) : Prop where
  integer : v.toInt64 = .ok n
  floating : v.toDouble = .ok (Double.ofInt n.toInt)
  decimal : numericOf v = .ok (Numeric.ofInt n.toInt)

/-- A value is written as `n` is. -/
structure WritesAs (v : Value) (n : Int64) : Prop where
  text : v.toText = toString n.toInt
  octets : byteaOf v = .ok (Text.Utf8.encode (toString n.toInt))

def spaced (before after : List Char) (n : Int64) : String :=
  String.ofList (before ++ (toString n.toInt).toList ++ after)

theorem ReadsAs.int64 (n : Int64) : ReadsAs (.int64 n) n := ⟨rfl, rfl, rfl⟩

theorem WritesAs.int64 (n : Int64) : WritesAs (.int64 n) n := ⟨rfl, rfl⟩

theorem ReadsAs.int {m : Int32} (h : m.toInt = n.toInt) : ReadsAs (.int m) n where
  integer := by
    have hwide : m.toInt64 = n := Int64.toInt.inj (by rw [Int32.toInt_toInt64, h])
    rw [Value.toInt64, hwide]
  floating := by rw [Value.toDouble, h]
  decimal := by rw [numericOf, h]

theorem WritesAs.int {m : Int32} (h : m.toInt = n.toInt) : WritesAs (.int m) n where
  text := by rw [Value.toText, h]
  octets := by
    rw [← h]
    rfl

theorem trimChars_spaced (hbefore : ∀ c ∈ before, Text.isBlank c)
    (hafter : ∀ c ∈ after, Text.isBlank c) (n : Int64) :
    Text.trimChars (spaced before after n).toList = (toString n.toInt).toList := by
  rw [spaced, String.toList_ofList]
  exact Text.trimChars_surrounded hbefore hafter fun _ ↦ Text.isBlank_of_mem_toString

theorem ReadsAs.spaced (hbefore : ∀ c ∈ before, Text.isBlank c)
    (hafter : ∀ c ∈ after, Text.isBlank c) (n : Int64) :
    ReadsAs (.string (spaced before after n)) n := by
  have htrim := trimChars_spaced hbefore hafter n
  have hlo := n.le_toInt
  have hhi := n.toInt_lt
  constructor
  · rw [Value.toInt64, parseAs, htrim, Text.int64?_toString]
  · rw [Value.toDouble, parseAs, htrim, Text.double?_toString]
  · have hfits : n.toInt.natAbs < Numeric.maxMantissa := by
      simp only [Numeric.maxMantissa, twoTo_eq]
      omega
    simp only [numericOf, Value.toText, htrim, Numeric.ofText?_toString hfits]

theorem spaced_nil (n : Int64) : spaced [] [] n = toString n.toInt := by
  rw [spaced, List.nil_append, List.append_nil, String.ofList_toList]

theorem not_startsWith_backslash_toString (n : Int) : (toString n).startsWith "\\" = false := by
  rw [Bool.eq_false_iff, ne_eq, String.startsWith_string_iff]
  intro h
  have hmem : '\\' ∈ (toString n).toList := h.subset (by simp)
  rcases Text.eq_or_isDigit_of_mem_toString hmem with h | h
  · cases h
  · cases h

theorem WritesAs.string (n : Int64) : WritesAs (.string (toString n.toInt)) n where
  text := rfl
  octets := by
    rw [byteaOf, not_startsWith_backslash_toString]
    rfl

theorem ReadsAs.encodeAs (h : ReadsAs v n) (hkind : kind.isNumber) (name : String) :
    encodeAs kind name v = encodeAs kind name (.int64 n) := by
  have hn := ReadsAs.int64 n
  cases kind with
  | int2 => rw [Postgres.encodeAs, Postgres.encodeAs, h.integer, hn.integer]
  | int4 => rw [Postgres.encodeAs, Postgres.encodeAs, h.integer, hn.integer]
  | int8 => rw [Postgres.encodeAs, Postgres.encodeAs, h.integer, hn.integer]
  | float4 => rw [Postgres.encodeAs, Postgres.encodeAs, h.floating, hn.floating]
  | float8 => rw [Postgres.encodeAs, Postgres.encodeAs, h.floating, hn.floating]
  | numeric => rw [Postgres.encodeAs, Postgres.encodeAs, h.decimal, hn.decimal]
  | _ => cases hkind

theorem WritesAs.encodeAs (h : WritesAs v n) (hbool : kind ≠ .bool) (hother : kind ≠ .other)
    (hkind : ¬ kind.isNumber) (name : String) :
    encodeAs kind name v = encodeAs kind name (.int64 n) := by
  have hn := WritesAs.int64 n
  cases kind with
  | bool => contradiction
  | other => contradiction
  | bytea => rw [Postgres.encodeAs, Postgres.encodeAs, h.octets, hn.octets]
  | text => rw [Postgres.encodeAs, Postgres.encodeAs, h.text, hn.text]
  | varchar => rw [Postgres.encodeAs, Postgres.encodeAs, h.text, hn.text]
  | bpchar => rw [Postgres.encodeAs, Postgres.encodeAs, h.text, hn.text]
  | name => rw [Postgres.encodeAs, Postgres.encodeAs, h.text, hn.text]
  | char => rw [Postgres.encodeAs, Postgres.encodeAs, h.text, hn.text]
  | unknown => rw [Postgres.encodeAs, Postgres.encodeAs, h.text, hn.text]
  | _ => exact absurd rfl hkind

/-- A number is bound with the same outcome as a wide integer, as a narrow one, if it is in that
range, and as its decimal text. For a type of numbers the text may have blanks around it. -/
theorem integer_forms_agree (n : Int64) (oid : Nat) (hbool : Kind.ofOid oid ≠ .bool)
    (hother : Kind.ofOid oid ≠ .other) :
    encode oid (.string (toString n.toInt)) = encode oid (.int64 n) ∧
    (∀ m : Int32, m.toInt = n.toInt → encode oid (.int m) = encode oid (.int64 n)) ∧
    ((Kind.ofOid oid).isNumber → ∀ before after : List Char,
      (∀ c ∈ before, Text.isBlank c) → (∀ c ∈ after, Text.isBlank c) →
        encode oid (.string (spaced before after n)) = encode oid (.int64 n)) := by
  have hagree : ∀ v : Value, v.isEmpty = false → ReadsAs v n → WritesAs v n →
      encode oid v = encode oid (.int64 n) := by
    intro v hv hreads hwrites
    rw [encode_eq hv, encode_eq rfl]
    by_cases hkind : (Kind.ofOid oid).isNumber
    · rw [hreads.encodeAs hkind]
    · rw [hwrites.encodeAs hbool hother hkind]
  refine ⟨?_, ?_, ?_⟩
  · have hreads : ReadsAs (.string (spaced [] [] n)) n := .spaced (by simp) (by simp) n
    rw [spaced_nil] at hreads
    exact hagree _ rfl hreads (.string n)
  · intro m hm
    exact hagree _ rfl (.int hm) (.int hm)
  · intro hkind before after hbefore hafter
    rw [encode_eq rfl, encode_eq rfl, (ReadsAs.spaced hbefore hafter n).encodeAs hkind]

theorem integer_forms_agree_least :
    Kind.ofOid 701 ≠ .bool ∧ Kind.ofOid 701 ≠ .other ∧
    encode 701 (.string "-9223372036854775808") = encode 701 (.int64 (Int64.ofInt int64Min)) ∧
    encode 701 (.string "\t-9223372036854775808\u3000") =
      .ok (some [0xc3, 0xe0, 0, 0, 0, 0, 0, 0]) := by
  have hbool : Kind.ofOid 701 ≠ .bool := by decide
  have hother : Kind.ofOid 701 ≠ .other := by decide
  obtain ⟨htext, -, hspaced⟩ := integer_forms_agree (Int64.ofInt int64Min) 701 hbool hother
  have hbefore : ∀ c ∈ ['\t'], Text.isBlank c := by
    intro c hc
    obtain rfl := List.mem_singleton.mp hc
    rfl
  have hafter : ∀ c ∈ ['\u3000'], Text.isBlank c := by
    intro c hc
    obtain rfl := List.mem_singleton.mp hc
    rfl
  have hsent := hspaced rfl _ _ hbefore hafter
  refine ⟨hbool, hother, htext, hsent.trans ?_⟩
  decide +kernel

end SqlGateway.Postgres
