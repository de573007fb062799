import SqlGateway.Proofs.Success
import SqlGateway.Proofs.Text.Utf8
import SqlGateway.Value.Reading

namespace SqlGateway.Value

open Text (Utf8.lossy Utf8.encode Utf8.decode?)

variable {v : Value} {α : Type}

theorem toBlob_of_type_ne (h : v.type ≠ .blob) : v.toBlob = Utf8.encode v.toText := by
  cases v with
  | blob b => exact absurd rfl h
  | _ => rfl

theorem lossy_toBlob (v : Value) : Utf8.lossy v.toBlob = v.toText := by
  by_cases h : v.type = .blob
  · cases v with
    | blob b => rfl
    | _ => cases h
  · rw [toBlob_of_type_ne h, Text.Utf8.lossy_encode]

/-- Two values that every reading of numbers takes for the same. -/
structure SameNumbers (v w : Value) : Prop where
  int : v.toInt = w.toInt
  int64 : v.toInt64 = w.toInt64
  double : v.toDouble = w.toDouble
  int_opt : v.toIntOpt = w.toIntOpt
  int64_opt : v.toInt64Opt = w.toInt64Opt
  double_opt : v.toDoubleOpt = w.toDoubleOpt

theorem sameNumbers_blob (b : Blob) : SameNumbers (string (Utf8.lossy b)) (blob b) :=
  ⟨rfl, rfl, rfl, rfl, rfl, rfl⟩

theorem sameNumbers_encode (s : String) : SameNumbers (string s) (blob (Utf8.encode s)) := by
  have h := sameNumbers_blob (Utf8.encode s)
  rwa [Text.Utf8.lossy_encode] at h

theorem sameNumbers_toBlob (h : v.type ≠ .blob) :
    SameNumbers (string v.toText) (blob v.toBlob) := by
  rw [toBlob_of_type_ne h]
  exact sameNumbers_encode v.toText

/-- Nothing for the values that carry no data, and the plain reading of any other one, its failure
included. -/
structure OptionalOf (plain : Value → Result α) (opt : Value → Result (Option α)) : Prop where
  nothing (v : Value) : opt v = .ok none ↔ v = null ∨ v = absent
  present {v : Value} (h : ¬ (v = null ∨ v = absent)) : opt v = (plain v).map some

theorem isEmpty_iff : v.isEmpty ↔ v = null ∨ v = absent := by
  rw [isEmpty, isNull, isAbsent, Bool.or_eq_true, decide_eq_true_eq, decide_eq_true_eq]

theorem optionalOf_optional (plain : Value → Result α) :
    OptionalOf plain (optional plain) where
  nothing v := by
    rw [← isEmpty_iff, optional]
    constructor
    · intro h
      split at h
      · assumption
      · obtain ⟨a, -, ha⟩ := map_eq_ok_iff.mp h
        cases ha
    · intro h
      rw [if_pos h]
  present h := by rw [optional, if_neg (mt isEmpty_iff.mp h)]

theorem optionalOf_whenPresent (read : Value → α) :
    OptionalOf (fun v ↦ .ok (read v)) (fun v ↦ .ok (v.whenPresent read)) := by
  have h : (fun v ↦ .ok (v.whenPresent read)) = optional fun v ↦ .ok (read v) := by
    funext v
    rw [whenPresent, optional]
    split <;> rfl
  rw [h]
  exact optionalOf_optional _

structure OptionalForms : Prop where
  text : OptionalOf (fun v ↦ .ok v.toText) (fun v ↦ .ok v.toTextOpt)
  blob : OptionalOf (fun v ↦ .ok v.toBlob) (fun v ↦ .ok v.toBlobOpt)
  bool : OptionalOf (fun v ↦ .ok v.toBool) (fun v ↦ .ok v.toBoolOpt)
  int : OptionalOf toInt toIntOpt
  int64 : OptionalOf toInt64 toInt64Opt
  double : OptionalOf toDouble toDoubleOpt

theorem optionalForms : OptionalForms :=
  ⟨optionalOf_whenPresent _, optionalOf_whenPresent _, optionalOf_whenPresent _,
    optionalOf_optional _, optionalOf_optional _, optionalOf_optional _⟩

structure Typed (v : Value) : Prop where
  value : v.get Value = .ok v
  text : v.get String = .ok v.toText
  blob : v.get Blob = .ok v.toBlob
  bool : v.get Bool = .ok v.toBool
  int : v.get Int32 = v.toInt
  int64 : v.get Int64 = v.toInt64
  double : v.get Double = v.toDouble

theorem typed (v : Value) : v.Typed := ⟨rfl, rfl, rfl, rfl, rfl, rfl, rfl⟩

/-- The text of a value is what its octets read as. Of everything but a blob the octets are valid
UTF-8 and stand for the text, and numbers are read from the octets of a text as from the text. -/
theorem views_agree :
    (∀ v : Value, v.toText = Utf8.lossy v.toBlob) ∧
    (∀ v : Value, v.type ≠ .blob →
      Utf8.decode? v.toBlob = some v.toText ∧ (blob v.toBlob).toText = v.toText) ∧
    (∀ s : String, SameNumbers (string s) (blob (Utf8.encode s))) ∧
    OptionalForms ∧ (∀ v : Value, v.Typed) ∧
    ∀ (α : Type) [OfValue α], OptionalOf (get α) (get (Option α)) := by
  refine ⟨fun v ↦ (lossy_toBlob v).symm, ?_, sameNumbers_encode, optionalForms, typed, ?_⟩
  · intro v hv
    refine ⟨?_, lossy_toBlob v⟩
    rw [toBlob_of_type_ne hv]
    exact Text.Utf8.decode?_eq_some_iff.mpr rfl
  · intro α _
    exact optionalOf_optional _

theorem views_agree_octets :
    (int (-7)).type ≠ .blob ∧ Utf8.decode? (int (-7)).toBlob = some "-7" ∧
    (blob [0x31, 0xff]).toText = "1\ufffd" ∧ get (Option Int32) absent = .ok none ∧
    get (Option Int32) (blob [0x31, 0xff]) = .error (.parse "1\ufffd" "int") := by
  obtain ⟨htext, hvalid, -, -, -, hget⟩ := views_agree
  have htype : (int (-7)).type ≠ .blob := nofun
  refine ⟨htype, (hvalid _ htype).1, ?_, ?_, ?_⟩
  · rw [htext]
    decide +kernel
  · exact ((hget Int32).nothing _).mpr (.inr rfl)
  · have hpresent : ¬ (blob [0x31, 0xff] = null ∨ blob [0x31, 0xff] = absent) := by decide
    have htext : Utf8.lossy [0x31, 0xff] = "1\ufffd" := by decide +kernel
    have hread : get Int32 (blob [0x31, 0xff]) = .error (.parse "1\ufffd" "int") := by
      change parseAs Text.int32? "int" (Utf8.lossy [0x31, 0xff]) = _
      rw [htext]
      rfl
    rw [(hget Int32).present hpresent, hread]
    rfl

end SqlGateway.Value
