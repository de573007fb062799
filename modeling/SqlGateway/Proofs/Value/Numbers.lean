import SqlGateway.Proofs.Double.Nearest
import SqlGateway.Proofs.Text.Floating
import SqlGateway.Proofs.Value.Views

namespace SqlGateway.Value

open Text (Padded)

variable {v : Value} {s : String} {α : Type}

theorem parseAs_ok_iff {read : List Char → Option α} {target : String} {a : α} :
    parseAs read target s = .ok a ↔ read (Text.trimChars s.toList) = some a := by
  rw [parseAs]
  cases read (Text.trimChars s.toList) with
  | none =>
    constructor <;> intro h <;> cases h
  | some b => rw [Except.ok.injEq, Option.some_inj]

theorem string_toInt_iff {n : Int32} : (string s).toInt = .ok n ↔ Padded s.toList n.toInt := by
  rw [toInt, parseAs_ok_iff, Text.int32?_eq_some_iff, Text.numeral_trimChars_iff]

theorem string_toInt64_iff {n : Int64} : (string s).toInt64 = .ok n ↔ Padded s.toList n.toInt := by
  rw [toInt64, parseAs_ok_iff, Text.int64?_eq_some_iff, Text.numeral_trimChars_iff]

theorem parseAs_intWithin_error {lo hi : Int} {ofInt : Int → α} {target : String}
    (h : ∀ n, Padded s.toList n → n < lo ∨ hi < n) :
    parseAs (fun cs ↦ (Text.intWithin? lo hi cs).map ofInt) target s = .error (.parse s target) := by
  have hread : Text.intWithin? lo hi (Text.trimChars s.toList) = none := by
    refine Option.eq_none_iff_forall_ne_some.mpr fun n hn ↦ ?_
    obtain ⟨hn, hlo, hhi⟩ := Text.intWithin?_eq_some_iff.mp hn
    have := h n (Text.numeral_trimChars_iff.mp hn)
    omega
  rw [parseAs, hread]
  rfl

theorem toInt64_of_toInt {n : Int32} (hint64 : v.type ≠ .int64) (hdouble : v.type ≠ .double)
    (h : v.toInt = .ok n) : v.toInt64 = .ok n.toInt64 := by
  have hstring : ∀ s, (string s).toInt = .ok n → (string s).toInt64 = .ok n.toInt64 := by
    intro s h
    rw [string_toInt64_iff, Int32.toInt_toInt64]
    exact string_toInt_iff.mp h
  cases v with
  | string s => exact hstring s h
  | blob b =>
    rw [← (sameNumbers_blob b).int] at h
    rw [← (sameNumbers_blob b).int64]
    exact hstring _ h
  | bool b =>
    cases h
    cases b <;> rfl
  | int64 m => exact absurd rfl hint64
  | double x => exact absurd rfl hdouble
  | _ =>
    cases h
    rfl

theorem natAbs_toInt_lt (n : Int64) : n.toInt.natAbs < twoTo 1023 := by
  have hlo := n.le_toInt
  have hhi := n.toInt_lt
  calc n.toInt.natAbs ≤ twoTo 63 := by
        rw [twoTo_eq]
        omega
    _ < twoTo 1023 := twoTo_lt (by decide)

theorem toDouble_of_toInt64 {n : Int64} (hdouble : v.type ≠ .double) (h : v.toInt64 = .ok n) :
    ∃ x, v.toDouble = .ok x ∧ Double.IsNearest n.toInt x := by
  have hnearest := Double.ofInt_isNearest (natAbs_toInt_lt n)
  have hstring : ∀ s, (string s).toInt64 = .ok n →
      ∃ x, (string s).toDouble = .ok x ∧ Double.IsNearest n.toInt x := by
    intro s h
    obtain ⟨hfloating, hsign⟩ :=
      (Text.numeral_trimChars_iff.mpr (string_toInt64_iff.mp h)).floating
    refine ⟨_, ?_, Double.ofRatio_natAbs_isNearest (natAbs_toInt_lt n) hsign⟩
    exact parseAs_ok_iff.mpr (Text.double?_eq_some_iff.mpr hfloating)
  cases v with
  | string s => exact hstring s h
  | blob b =>
    rw [← (sameNumbers_blob b).int64] at h
    rw [← (sameNumbers_blob b).double]
    exact hstring _ h
  | int m =>
    cases h
    refine ⟨_, rfl, ?_⟩
    rw [Int32.toInt_toInt64] at hnearest ⊢
    exact hnearest
  | bool b =>
    cases h
    refine ⟨_, rfl, ?_⟩
    cases b <;> exact hnearest
  | int64 m =>
    cases h
    exact ⟨_, rfl, hnearest⟩
  | double x => exact absurd rfl hdouble
  | _ =>
    cases h
    exact ⟨_, rfl, hnearest⟩

/-- A text is read as an integer of a type if it is a numeral, with white space around it perhaps,
whose number the type has; the failure names the whole text. -/
structure ReadsIntegers (s : String) : Prop where
  int (n : Int32) : (string s).toInt = .ok n ↔ Padded s.toList n.toInt
  int64 (n : Int64) : (string s).toInt64 = .ok n ↔ Padded s.toList n.toInt
  int_error : (∀ n, Padded s.toList n → n < int32Min ∨ int32Max < n) →
    (string s).toInt = .error (.parse s "int")
  int64_error : (∀ n, Padded s.toList n → n < int64Min ∨ int64Max < n) →
    (string s).toInt64 = .error (.parse s "int64")

theorem readsIntegers (s : String) : ReadsIntegers s where
  int _ := string_toInt_iff
  int64 _ := string_toInt64_iff
  int_error := parseAs_intWithin_error
  int64_error := parseAs_intWithin_error

theorem int_read_back (n : Int32) {w : Value}
    (hw : w = string (int n).toText ∨ w = blob (int n).toBlob) :
    w.toInt = .ok n ∧ w.toInt64 = .ok n.toInt64 := by
  have hread : (string (int n).toText).toInt = .ok n :=
    string_toInt_iff.mpr (Text.padded_toString n.toInt)
  have hsame : SameNumbers (string (int n).toText) (blob (int n).toBlob) :=
    sameNumbers_toBlob nofun
  rcases hw with rfl | rfl
  · exact ⟨hread, toInt64_of_toInt nofun nofun hread⟩
  · rw [hsame.int] at hread
    exact ⟨hread, toInt64_of_toInt nofun nofun hread⟩

theorem int64_read_back (n : Int64) {w : Value}
    (hw : w = string (int64 n).toText ∨ w = blob (int64 n).toBlob) : w.toInt64 = .ok n := by
  have hread : (string (int64 n).toText).toInt64 = .ok n :=
    string_toInt64_iff.mpr (Text.padded_toString n.toInt)
  have hsame : SameNumbers (string (int64 n).toText) (blob (int64 n).toBlob) :=
    sameNumbers_toBlob nofun
  rcases hw with rfl | rfl
  · exact hread
  · rw [hsame.int64] at hread
    exact hread

/-- The readings of numbers agree with each other and with the texts of numbers. Only a wide integer
and a floating-point number, which are cut down to the narrower types, are left out. -/
theorem numbers_coherent :
    (∀ (v : Value) (n : Int32), v.type ≠ .int64 → v.type ≠ .double → v.toInt = .ok n →
      v.toInt64 = .ok n.toInt64) ∧
    (∀ (v : Value) (n : Int64), v.type ≠ .double → v.toInt64 = .ok n →
      ∃ x, v.toDouble = .ok x ∧ Double.IsNearest n.toInt x) ∧
    (∀ s : String, ReadsIntegers s) ∧
    (∀ (n : Int32) (w : Value), w = string (int n).toText ∨ w = blob (int n).toBlob →
      w.toInt = .ok n ∧ w.toInt64 = .ok n.toInt64) ∧
    (∀ (n : Int64) (w : Value), w = string (int64 n).toText ∨ w = blob (int64 n).toBlob →
      w.toInt64 = .ok n) :=
  ⟨fun _ _ ↦ toInt64_of_toInt, fun _ _ ↦ toDouble_of_toInt64, readsIntegers,
    fun n _ ↦ int_read_back n, fun n _ ↦ int64_read_back n⟩

theorem numbers_coherent_halfway :
    (string " 7").toInt64 = .ok 7 ∧
    (∃ x, (string " +9007199254740993\n").toDouble = .ok x ∧
      Double.IsNearest 9007199254740993 x) ∧
    (string " +9007199254740993\n").toInt = .error (.parse " +9007199254740993\n" "int") ∧
    (blob (int64 (-5)).toBlob).toInt64 = .ok (-5) := by
  obtain ⟨hnarrow, hnearest, hreads, -, hback⟩ := numbers_coherent
  refine ⟨?_, ?_, ?_, ?_⟩
  · exact hnarrow (string " 7") 7 nofun nofun (by decide +kernel)
  · exact hnearest (string " +9007199254740993\n") 9007199254740993 nofun (by decide +kernel)
  · refine (hreads _).int_error fun n hn ↦ ?_
    have hvalue : Text.int? (Text.trimChars " +9007199254740993\n".toList) =
        some 9007199254740993 := by decide +kernel
    rw [← Text.int?_trimChars_eq_some_iff, hvalue, Option.some_inj] at hn
    right
    rw [← hn]
    decide
  · exact hback (-5) _ (.inr rfl)

end SqlGateway.Value
