import Mathlib.Algebra.Ring.Int.Defs
import SqlGateway.MySql.Cell
import SqlGateway.MySql.Field
import SqlGateway.Proofs.Text.Number
import SqlGateway.Proofs.Text.Utf8

namespace SqlGateway

def Value.integer? : Value → Option Int
  | int n => some n.toInt
  | int64 n => some n.toInt
  | _ => none

namespace MySql

/-- Flag 32 marks a column without negative numbers. -/
def Field.isUnsigned (f : Field) : Bool := f.flags / 32 % 2 = 1

def FieldType.bits? : FieldType → Option Nat
  | .tiny => some 8
  | .short | .year => some 16
  | .int24 => some 24
  | .long => some 32
  | .longlong => some 64
  | _ => none

/-- The integers that a column can hold. -/
def Field.Holds (f : Field) (n : Int) : Prop :=
  ∃ bits, f.type.bits? = some bits ∧
    if f.isUnsigned then 0 ≤ n ∧ n < 2 ^ bits else -2 ^ (bits - 1) ≤ n ∧ n < 2 ^ (bits - 1)

/-- The greatest number among the values of a column. -/
def Field.greatest (f : Field) : Int := if f.valueType = .int64 then int64Max else int32Max

theorem type_of_int {f : Field} (h : f.valueType = .int) :
    f.type = .tiny ∨ f.type = .short ∨ f.type = .int24 ∨ f.type = .long ∨ f.type = .year := by
  unfold Field.valueType at h
  cases ht : f.type <;> simp only [ht] at h <;> simp_all
  all_goals split at h <;> cases h

theorem type_of_int64 {f : Field} (h : f.valueType = .int64) : f.type = .longlong := by
  unfold Field.valueType at h
  cases ht : f.type <;> simp only [ht] at h <;> simp_all
  all_goals split at h <;> cases h

namespace Cell

def number? : Cell → Option Int
  | int n => some n.toInt
  | uint n => some n.toNat
  | _ => none

def digits (n : Int) : Cell := .bytes (Text.Utf8.encode (toString n))

variable {cell : Cell} {n : Int}

theorem toInt64_of_number (h : cell.number? = some n) : cell.toInt64 = .ok (Int64.ofInt n) := by
  cases cell with
  | int m =>
    obtain rfl : m.toInt = n := Option.some.inj h
    rw [toInt64, Int64.ofInt_toInt]
  | uint m =>
    obtain rfl : (m.toNat : Int) = n := Option.some.inj h
    rw [toInt64, Int64.ofInt_eq_ofNat, ← UInt64.toInt64_ofNat', UInt64.ofNat_toNat]
  | _ => cases h

theorem toInt64_digits (n : Int) :
    (digits n).toInt64 =
      if int64Min ≤ n ∧ n ≤ int64Max then .ok (Int64.ofInt n)
      else .error (.parse (toString n) "int64") := by
  simp only [digits, toInt64, written, Text.Utf8.lossy_encode, parseAs, Text.trimChars_toString,
    Text.int64?, Text.intWithin?_toString]
  by_cases h : int64Min ≤ n ∧ n ≤ int64Max
  · simp only [if_pos h, Option.map_some]
  · simp only [if_neg h, Option.map_none]

theorem ne_null_of_number (h : cell.number? = some n) : cell ≠ .null := by
  rintro rfl
  cases h

theorem decode_int (h : cell ≠ .null) :
    cell.decode .int = cell.toInt64.map fun n ↦ .int n.toInt32 := by
  cases cell <;> first | contradiction | rfl

theorem decode_int64 (h : cell ≠ .null) : cell.decode .int64 = cell.toInt64.map .int64 := by
  cases cell <;> first | contradiction | rfl

end Cell

/-- Both wire forms of a number are read as one value. -/
structure Field.Reads (f : Field) (n : Int) (v : Value) : Prop where
  native : ∀ cell : Cell, cell.number? = some n → cell.decode f.valueType = .ok v
  text : (Cell.digits n).decode f.valueType = .ok v

variable {f : Field} {n : Int}

theorem Field.reads_int (ht : f.valueType = .int) (hlo : int64Min ≤ n) (hhi : n ≤ int64Max) :
    f.Reads n (.int (Int32.ofInt n)) where
  native := by
    intro cell h
    rw [ht, Cell.decode_int (Cell.ne_null_of_number h), Cell.toInt64_of_number h, Except.map,
      Int64.toInt32_ofInt]
  text := by
    rw [ht, Cell.decode_int (by simp [Cell.digits]), Cell.toInt64_digits, if_pos ⟨hlo, hhi⟩,
      Except.map, Int64.toInt32_ofInt]

theorem Field.native_int64 (ht : f.valueType = .int64) {cell : Cell} (h : cell.number? = some n) :
    cell.decode f.valueType = .ok (.int64 (Int64.ofInt n)) := by
  rw [ht, Cell.decode_int64 (Cell.ne_null_of_number h), Cell.toInt64_of_number h, Except.map]

theorem Field.reads_int64 (ht : f.valueType = .int64) (hlo : int64Min ≤ n) (hhi : n ≤ int64Max) :
    f.Reads n (.int64 (Int64.ofInt n)) where
  native _ h := native_int64 ht h
  text := by
    rw [ht, Cell.decode_int64 (by simp [Cell.digits]), Cell.toInt64_digits, if_pos ⟨hlo, hhi⟩,
      Except.map]

theorem Field.text_refused (ht : f.valueType = .int64) (h : int64Max < n) :
    (Cell.digits n).decode f.valueType = .error (.parse (toString n) "int64") := by
  rw [ht, Cell.decode_int64 (by simp [Cell.digits]), Cell.toInt64_digits,
    if_neg fun hn ↦ absurd hn.2 (by omega), Except.map]

theorem Field.Holds.of_int (hn : f.Holds n) (ht : f.valueType = .int) :
    int32Min ≤ n ∧ n < 2 ^ 32 ∧ (int32Max < n → f.isUnsigned ∧ f.type = .long) := by
  obtain ⟨bits, hb, hn⟩ := hn
  simp only [int32Min, int32Max]
  rcases type_of_int ht with h | h | h | h | h <;>
    rw [h] at hb <;> cases hb <;> split at hn <;> simp_all <;> omega

theorem Field.Holds.of_int64 (hn : f.Holds n) (ht : f.valueType = .int64) :
    int64Min ≤ n ∧ n < 2 ^ 64 ∧ (int64Max < n → f.isUnsigned) := by
  obtain ⟨bits, hb, hn⟩ := hn
  rw [type_of_int64 ht] at hb
  simp only [int64Min, int64Max]
  cases hb
  split at hn <;> simp_all <;> omega

theorem toInt_int32_upper (hlo : int32Max < n) (hhi : n < 2 ^ 32) :
    (Int32.ofInt n).toInt = n - 2 ^ 32 := by
  rw [Int32.toInt_ofInt, Int.bmod_def]
  simp only [int32Max, Int32.size] at *
  omega

theorem toInt_int64_upper (hlo : int64Max < n) (hhi : n < 2 ^ 64) :
    (Int64.ofInt n).toInt = n - 2 ^ 64 := by
  rw [Int64.toInt_ofInt, Int.bmod_def]
  simp only [int64Max, Int64.size] at *
  omega

theorem Cell.exists_number (hlo : int64Min ≤ n) (hhi : n < 2 ^ 64) :
    ∃ cell : Cell, cell.number? = some n := by
  simp only [int64Min] at hlo
  rcases Int.lt_or_le n 0 with h | h
  · refine ⟨.int (Int64.ofInt n), congrArg some ?_⟩
    apply Int64.toInt_ofInt_of_le <;> omega
  · refine ⟨.uint (UInt64.ofNat n.toNat), congrArg some ?_⟩
    rw [UInt64.toNat_ofNat_of_lt' (by simp only [UInt64.size]; omega)]
    omega

/-- A number of an integer column is read unchanged from both wire forms up to the greatest value of
the column's width. Beyond it, where the column is unsigned, a 32-bit number wraps to a negative one
in both forms; a 64-bit number wraps where it is sent natively and is refused where it is sent as
text. -/
theorem integers_read (ht : f.valueType = .int ∨ f.valueType = .int64) (hn : f.Holds n) :
    (∃ cell : Cell, cell.number? = some n) ∧
    (n ≤ f.greatest → ∃ v, f.Reads n v ∧ v.integer? = some n) ∧
    (f.greatest < n → f.isUnsigned ∧
      (f.type = .long ∧ (∃ v, f.Reads n v ∧ v.integer? = some (n - 2 ^ 32)) ∨
       f.type = .longlong ∧
        (∀ cell : Cell, cell.number? = some n →
          ∃ v, cell.decode f.valueType = .ok v ∧ v.integer? = some (n - 2 ^ 64)) ∧
        (Cell.digits n).decode f.valueType = .error (.parse (toString n) "int64"))) := by
  rcases ht with ht | ht
  · obtain ⟨hlo, hhi, htop⟩ := hn.of_int ht
    have hread : f.Reads n (.int (Int32.ofInt n)) := by
      apply Field.reads_int ht <;> simp only [int32Min, int64Min, int64Max] at * <;> omega
    rw [Field.greatest, ht, if_neg (by decide)]
    refine ⟨?_, fun h ↦ ⟨_, hread, congrArg some ?_⟩, fun h ↦ ?_⟩
    · apply Cell.exists_number <;> simp only [int32Min, int64Min] at * <;> omega
    · apply Int32.toInt_ofInt_of_le <;> simp only [int32Min, int32Max] at * <;> omega
    · obtain ⟨hu, hlong⟩ := htop h
      exact ⟨hu, .inl ⟨hlong, _, hread, congrArg some (toInt_int32_upper h hhi)⟩⟩
  · obtain ⟨hlo, hhi, htop⟩ := hn.of_int64 ht
    rw [Field.greatest, ht, if_pos rfl, ← ht]
    refine ⟨Cell.exists_number hlo hhi, fun h ↦ ?_, fun h ↦ ⟨htop h, .inr ?_⟩⟩
    · refine ⟨_, Field.reads_int64 ht hlo h, congrArg some ?_⟩
      apply Int64.toInt_ofInt_of_le <;> simp only [int64Min, int64Max] at * <;> omega
    · refine ⟨type_of_int64 ht, fun cell hc ↦ ?_, Field.text_refused ht h⟩
      exact ⟨_, Field.native_int64 ht hc, congrArg some (toInt_int64_upper h hhi)⟩

theorem integers_read_unsigned :
    let f : Field := { code := 3, flags := 32 }
    f.Holds 3000000000 ∧ f.greatest < 3000000000 ∧
      ∃ v, f.Reads 3000000000 v ∧ v.integer? = some (-1294967296) := by
  intro f
  have hn : f.Holds 3000000000 := ⟨32, rfl, by decide⟩
  have htop : f.greatest < 3000000000 := by decide
  obtain ⟨-, hread⟩ := (integers_read (.inl rfl) hn).2.2 htop
  refine ⟨hn, htop, ?_⟩
  rcases hread with ⟨-, hread⟩ | ⟨htype, -⟩
  · exact hread
  · cases htype

end MySql
end SqlGateway
