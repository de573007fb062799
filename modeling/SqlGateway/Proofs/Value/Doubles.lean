import SqlGateway.MySql.Cell
import SqlGateway.Proofs.Command.Literals
import SqlGateway.Proofs.Double.Plain
import SqlGateway.Proofs.Odbc.Displayed
import SqlGateway.Proofs.Value.Numbers

namespace SqlGateway.Value

variable {x : Double} {text : String}

structure ReadAs (text : String) (x : Double) : Prop where
  converted : (string text).toDouble = .ok x
  odbc : Odbc.decode .double (Odbc.written text.toList) = .ok (double x)
  mysql : MySql.Cell.decode .double (.bytes (Text.Utf8.encode text)) = .ok (double x)
  parameter : Command.Parameter.read ("double" ++ ":" ++ text) = .ok (double x)

theorem readAs_of_floating (h : Text.Floating (Text.trimChars text.toList) x) : ReadAs text x := by
  have hread := Text.double?_eq_some_iff.mpr h
  have hparse : parseAs Text.double? "double" text = .ok x := parseAs_ok_iff.mpr hread
  constructor
  · exact hparse
  · have hcell : Text.Utf8.decodeLossy (Text.Utf8.encode (String.ofList text.toList)) =
        text.toList := Odbc.decodeLossy_encode text.toList
    simp only [Odbc.written, Odbc.decode, hcell, Odbc.parseTrimmed, hread]
    rfl
  · simp only [MySql.Cell.decode, MySql.Cell.toDouble, MySql.Cell.written,
      Text.Utf8.lossy_encode, hparse]
    rfl
  · have hkind : ("double", ValueType.double) ∈ Command.Parameter.kinds := by
      simp [Command.Parameter.kinds]
    exact ((Command.Parameter.decides hkind text).ok (double x)).mpr ⟨rfl, h⟩

/-- The text of a number has no exponent and is read as the number, down to the bits. The text of a
NaN is read as a NaN. -/
theorem doubles_survive (x : Double) :
    let text := (double x).toText
    ('e' ∉ text.toList ∧ 'E' ∉ text.toList) ∧ (x.isNaN = false → ReadAs text x) ∧
      (x.isNaN → ∃ y : Double, y.isNaN ∧ ReadAs text y) := by
  intro text
  have htext : text.toList = x.plainChars := String.toList_ofList
  have htrimmed : Text.trimChars text.toList = x.plainChars := by
    rw [htext]
    exact Text.trimChars_eq_self fun _ ↦ Double.not_blank_of_mem_plainChars
  refine ⟨?_, fun hnumber ↦ ?_, fun hnan ↦ ⟨Double.nan, rfl, ?_⟩⟩
  · rw [htext]
    exact ⟨fun he ↦ (Double.not_exponent_of_mem_plainChars he).1 rfl,
      fun he ↦ (Double.not_exponent_of_mem_plainChars he).2 rfl⟩
  · apply readAs_of_floating
    rw [htrimmed]
    exact Double.floating_plainChars hnumber
  · apply readAs_of_floating
    rw [htrimmed]
    exact Double.floating_plainChars_nan hnan

theorem doubles_survive_least :
    ReadAs (double ⟨1⟩).toText ⟨1⟩ ∧ ReadAs "-0" ⟨0x8000000000000000⟩ ∧
      ∃ y : Double, y.isNaN ∧ ReadAs (double ⟨0xfff0000000000001⟩).toText y := by
  have hzero : (double ⟨0x8000000000000000⟩).toText = "-0" := by decide +kernel
  refine ⟨?_, ?_, ?_⟩
  · exact (doubles_survive ⟨1⟩).2.1 (by decide)
  · rw [← hzero]
    exact (doubles_survive ⟨0x8000000000000000⟩).2.1 (by decide)
  · exact (doubles_survive ⟨0xfff0000000000001⟩).2.2 (by decide)

end SqlGateway.Value
