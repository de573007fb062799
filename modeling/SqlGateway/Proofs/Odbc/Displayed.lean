import SqlGateway.Odbc.Cell
import SqlGateway.Proofs.Success
import SqlGateway.Proofs.Text.Number
import SqlGateway.Proofs.Value.Hexadecimal

namespace SqlGateway.Odbc

open Postgres.Bytea
open Text (Numeral isBlank upperAscii)

def written (cs : List Char) : Cell := some (Text.Utf8.encode (String.ofList cs))

def trimmed (octets : Blob) : List Char := Text.trimChars (Text.Utf8.decodeLossy octets)

variable {v w : Value} {b : Blob} {cs before after : List Char} {octets : Blob}

theorem decodeLossy_encode (cs : List Char) :
    Text.Utf8.decodeLossy (Text.Utf8.encode (String.ofList cs)) = cs := by
  rw [Text.Utf8.encode, String.toList_ofList]
  exact Text.Utf8.decodeLossy_of_decodeChars? (Text.Utf8.decodeChars?_encodeChars cs)

theorem isBlank_of_digitValue? {c : Char} {n : Nat} (h : Text.Hex.digitValue? c = some n) :
    isBlank c = false := by
  have hrange : 48 ≤ c.toNat ∧ c.toNat ≤ 102 := by
    simp only [Text.Hex.digitValue?] at h
    split at h
    · omega
    split at h
    · omega
    split at h
    · omega
    · cases h
  exact Text.isBlank_of_ascii (by omega) (by omega)

theorem hexPairs_upper (b : Blob) : HexPairs ((Text.Hex.encode b).map upperAscii) b := by
  induction b with
  | nil => exact .nil
  | cons x b ih => exact .cons (.inr rfl) (.inr rfl) ih

theorem trimChars_written (hbefore : ∀ c ∈ before, isBlank c) (hafter : ∀ c ∈ after, isBlank c)
    (hcs : ∀ c ∈ cs, isBlank c = false) :
    Text.trimChars (Text.Utf8.decodeLossy (Text.Utf8.encode
      (String.ofList (before ++ cs ++ after)))) = cs := by
  rw [decodeLossy_encode]
  exact Text.trimChars_surrounded hbefore hafter hcs

theorem decode_pairs (hbefore : ∀ c ∈ before, isBlank c) (hafter : ∀ c ∈ after, isBlank c)
    (h : HexPairs cs b) : decode .blob (written (before ++ cs ++ after)) = .ok (.blob b) := by
  have hcs : ∀ c ∈ cs, isBlank c = false := by
    intro c hc
    obtain ⟨n, hn⟩ := digitValue?_of_mem h hc
    exact isBlank_of_digitValue? hn
  simp only [decode, written, trimChars_written hbefore hafter hcs, decodeHex_pairs h, Except.map]

theorem decode_surrounded (hbefore : ∀ c ∈ before, isBlank c) (hafter : ∀ c ∈ after, isBlank c)
    (hv : v.type ∈ [.blob, .bool, .int, .int64]) :
    decode v.type (written (before ++ v.display.toList ++ after)) = .ok v := by
  cases v with
  | blob b =>
    rw [Value.display, Text.Hex.text, String.toList_ofList]
    exact decode_pairs hbefore hafter (hexPairs_encode b)
  | bool b =>
    have hall : (Value.bool b).display.toList.all (!isBlank ·) = true := by cases b <;> rfl
    have hletters : ∀ c ∈ (Value.bool b).display.toList, isBlank c = false := by
      intro c hc
      simpa using List.all_eq_true.mp hall c hc
    simp only [Value.type, decode, written, trimChars_written hbefore hafter hletters]
    cases b <;> rfl
  | int n =>
    have hnumeral : ∀ c ∈ (Value.int n).display.toList, isBlank c = false :=
      fun _ ↦ Text.isBlank_of_mem_toString
    simp only [Value.type, decode, written, trimChars_written hbefore hafter hnumeral, parseTrimmed]
    have hdisplay : (Value.int n).display = toString n.toInt := rfl
    rw [hdisplay, Text.int32?_toString]
    rfl
  | int64 n =>
    have hnumeral : ∀ c ∈ (Value.int64 n).display.toList, isBlank c = false :=
      fun _ ↦ Text.isBlank_of_mem_toString
    simp only [Value.type, decode, written, trimChars_written hbefore hafter hnumeral, parseTrimmed]
    have hdisplay : (Value.int64 n).display = toString n.toInt := rfl
    rw [hdisplay, Text.int64?_toString]
    rfl
  | _ => simp [Value.type] at hv

theorem decode_string (s : String) : decode .string (written s.toList) = .ok (.string s) := by
  have hread := Text.Utf8.lossy_encode s
  rw [written, String.ofList_toList]
  exact congrArg (Except.ok ∘ Value.string) hread

theorem parseTrimmed_ok_iff {α : Type} {lo hi : Int} {ofInt : Int → α} {inject : α → Value}
    {target : String} :
    (parseTrimmed (fun cs ↦ (Text.intWithin? lo hi cs).map ofInt) target cs).map inject = .ok w ↔
      ∃ n, Numeral cs n ∧ lo ≤ n ∧ n ≤ hi ∧ w = inject (ofInt n) := by
  unfold parseTrimmed
  constructor
  · intro h
    obtain ⟨a, ha, rfl⟩ := map_eq_ok_iff.mp h
    cases hread : Text.intWithin? lo hi cs with
    | none => simp [hread] at ha
    | some n =>
      simp only [hread, Option.map_some, Except.ok.injEq] at ha
      obtain ⟨hn, hlo, hhi⟩ := Text.intWithin?_eq_some_iff.mp hread
      exact ⟨n, hn, hlo, hhi, congrArg inject ha.symm⟩
  · rintro ⟨n, hn, hlo, hhi, rfl⟩
    simp only [Text.intWithin?_eq_some_iff.mpr ⟨hn, hlo, hhi⟩]
    rfl

theorem decode_int_iff : decode .int (some octets) = .ok w ↔
    ∃ n, Numeral (trimmed octets) n ∧ int32Min ≤ n ∧ n ≤ int32Max ∧ w = .int (Int32.ofInt n) :=
  parseTrimmed_ok_iff

theorem decode_int64_iff : decode .int64 (some octets) = .ok w ↔
    ∃ n, Numeral (trimmed octets) n ∧ int64Min ≤ n ∧ n ≤ int64Max ∧ w = .int64 (Int64.ofInt n) :=
  parseTrimmed_ok_iff

/-- What is shown of a text, of octets, of a truth value or of an integer is read back as it from a
column of its type. Except in a text, blanks around it make no difference, nor does the case of
hexadecimal digits. From a column of integers exactly the numerals in its range are read, each as
its number. -/
theorem displayed_read_back :
    (∀ v : Value, v.type ∈ [.string, .blob, .bool, .int, .int64] →
      decode v.type (written v.display.toList) = .ok v) ∧
    (∀ v : Value, v.type ∈ [.blob, .bool, .int, .int64] → ∀ before after : List Char,
      (∀ c ∈ before, isBlank c) → (∀ c ∈ after, isBlank c) →
        decode v.type (written (before ++ v.display.toList ++ after)) = .ok v ∧
        (v.type = .blob →
          decode .blob (written (before ++ v.display.toList.map upperAscii ++ after)) = .ok v)) ∧
    (∀ octets w, decode .int (some octets) = .ok w ↔ ∃ n, Numeral (trimmed octets) n ∧
      int32Min ≤ n ∧ n ≤ int32Max ∧ w = .int (Int32.ofInt n)) ∧
    (∀ octets w, decode .int64 (some octets) = .ok w ↔ ∃ n, Numeral (trimmed octets) n ∧
      int64Min ≤ n ∧ n ≤ int64Max ∧ w = .int64 (Int64.ofInt n)) := by
  refine ⟨?_, ?_, fun _ _ ↦ decode_int_iff, fun _ _ ↦ decode_int64_iff⟩
  · intro v hv
    cases v with
    | string s => exact decode_string s
    | absent => simp [Value.type] at hv
    | null => simp [Value.type] at hv
    | double x => simp [Value.type] at hv
    | _ =>
      have hnone : ∀ c ∈ ([] : List Char), isBlank c := by
        intro c hc
        cases hc
      have hread := decode_surrounded hnone hnone
        ((List.mem_cons.mp hv).resolve_left (by simp [Value.type]))
      rwa [List.nil_append, List.append_nil] at hread
  · intro v hv before after hbefore hafter
    refine ⟨decode_surrounded hbefore hafter hv, ?_⟩
    intro hblob
    cases v with
    | blob b =>
      rw [Value.display, Text.Hex.text, String.toList_ofList]
      exact decode_pairs hbefore hafter (hexPairs_upper b)
    | _ => cases hblob

theorem displayed_read_back_upper :
    decode .blob (written ['\u2003', 'A', 'B', 'C', 'D', '\t']) = .ok (.blob [0xab, 0xcd]) ∧
    ∀ w, decode .int (written "+2147483648".toList) ≠ .ok w := by
  obtain ⟨-, hpadded, hint, -⟩ := displayed_read_back
  constructor
  · have hbefore : ∀ c ∈ ['\u2003'], isBlank c := by
      intro c hc
      obtain rfl := List.mem_singleton.mp hc
      rfl
    have hafter : ∀ c ∈ ['\t'], isBlank c := by
      intro c hc
      obtain rfl := List.mem_singleton.mp hc
      rfl
    exact (hpadded (.blob [0xab, 0xcd]) (by decide) _ _ hbefore hafter).2 rfl
  · intro w h
    obtain ⟨n, hn, -, hhi, -⟩ := (hint _ w).mp h
    have htext : trimmed (Text.Utf8.encode (String.ofList "+2147483648".toList)) =
        "+2147483648".toList := by decide +kernel
    rw [htext, ← Text.int?_eq_some_iff] at hn
    have hvalue : Text.int? "+2147483648".toList = some 2147483648 := by decide
    rw [hvalue, Option.some_inj] at hn
    simp only [int32Max] at hhi
    omega

end SqlGateway.Odbc
