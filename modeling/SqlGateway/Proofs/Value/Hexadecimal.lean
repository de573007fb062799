import SqlGateway.Proofs.Postgres.ByteaText
import SqlGateway.Proofs.Text.LetterCase
import SqlGateway.Value.Convert

namespace SqlGateway

open Postgres.Bytea
open Text (lowerAscii upperAscii)

/-- Pairs of digits, behind `0x` or `0X` perhaps. -/
inductive Hexadecimal : List Char → Blob → Prop where
  | plain {cs : List Char} {b : Blob} (h : HexPairs cs b) : Hexadecimal cs b
  | marked {mark : Char} {cs : List Char} {b : Blob} (hmark : mark = 'x' ∨ mark = 'X')
      (h : HexPairs cs b) : Hexadecimal ('0' :: mark :: cs) b

variable {c : Char} {cs : List Char} {b : Blob}

def unmarked : List Char → List Char
  | '0' :: 'x' :: cs => cs
  | '0' :: 'X' :: cs => cs
  | cs => cs

theorem decodeHex_eq (s : String) :
    decodeHex s = match Text.Hex.decode? (unmarked s.toList) with
      | some b => .ok b
      | none => .error (.parse s "blob") := rfl

theorem digitValue?_of_mem {c : Char} (h : HexPairs cs b) (hc : c ∈ cs) :
    ∃ n, Text.Hex.digitValue? c = some n := by
  obtain ⟨n, hn, hdigit⟩ := (exists_hexPairs_iff.mp ⟨b, h⟩).2 c hc
  exact ⟨n, digitValue?_eq_some_iff.mpr ⟨hn, hdigit⟩⟩

theorem unmarked_pairs (h : HexPairs cs b) : unmarked cs = cs := by
  have hmark : ∀ c, Text.Hex.digitValue? c = none → c ∉ cs := by
    intro c hc hmem
    obtain ⟨n, hn⟩ := digitValue?_of_mem h hmem
    rw [hc] at hn
    cases hn
  unfold unmarked
  split
  · exact absurd (by simp) (hmark 'x' rfl)
  · exact absurd (by simp) (hmark 'X' rfl)
  · rfl

theorem hexPairs_unmarked_iff : HexPairs (unmarked cs) b ↔ Hexadecimal cs b := by
  constructor
  · intro h
    unfold unmarked at h
    split at h
    · exact .marked (.inl rfl) h
    · exact .marked (.inr rfl) h
    · exact .plain h
  · intro h
    cases h with
    | plain h => rwa [unmarked_pairs h]
    | marked hmark h => rcases hmark with rfl | rfl <;> exact h

theorem decodeHex_eq_ok_iff {s : String} : decodeHex s = .ok b ↔ Hexadecimal s.toList b := by
  rw [decodeHex_eq, ← hexPairs_unmarked_iff, ← decode?_eq_some_iff]
  cases Text.Hex.decode? (unmarked s.toList) with
  | none =>
    constructor <;> intro h <;> cases h
  | some octets => rw [Except.ok.injEq, Option.some_inj]

theorem decodeHex_pairs (h : HexPairs cs b) : decodeHex (String.ofList cs) = .ok b := by
  rw [decodeHex_eq_ok_iff, String.toList_ofList]
  exact .plain h

theorem lowerAscii_digit {n : ℕ} (h : n < 16) :
    lowerAscii (Text.Hex.digit n) = Text.Hex.digit n ∧
      lowerAscii (upperAscii (Text.Hex.digit n)) = Text.Hex.digit n := by
  suffices ∀ n : Fin 16, lowerAscii (Text.Hex.digit n) = Text.Hex.digit n ∧
      lowerAscii (upperAscii (Text.Hex.digit n)) = Text.Hex.digit n from this ⟨n, h⟩
  decide +kernel

theorem isHexDigit_iff {n : ℕ} (h : n < 16) :
    IsHexDigit c n ↔ lowerAscii c = Text.Hex.digit n := by
  constructor
  · rintro (rfl | rfl)
    · exact (lowerAscii_digit h).1
    · exact (lowerAscii_digit h).2
  · intro hlow
    rw [IsHexDigit, ← hlow]
    exact Text.eq_or_eq_upperAscii c

theorem hexPairs_iff : HexPairs cs b ↔ cs.map lowerAscii = Text.Hex.encode b := by
  constructor
  · intro h
    induction h with
    | nil => rfl
    | @cons c d cs x b hc hd _ ih =>
      have hlt := x.toNat_lt
      rw [List.map_cons, List.map_cons, ih, (isHexDigit_iff (by omega)).mp hc,
        (isHexDigit_iff (by omega)).mp hd, Text.Hex.encode]
  · intro h
    induction b generalizing cs with
    | nil =>
      rw [List.map_eq_nil_iff.mp h]
      exact .nil
    | cons x b ih =>
      have hlt := x.toNat_lt
      obtain ⟨c, rest, rfl, hc, hrest⟩ := List.map_eq_cons_iff.mp h
      obtain ⟨d, cs, rfl, hd, hcs⟩ := List.map_eq_cons_iff.mp hrest
      exact .cons ((isHexDigit_iff (by omega)).mpr hc) ((isHexDigit_iff (by omega)).mpr hd) (ih hcs)

theorem hexPairs_iff_display {digits : String} :
    HexPairs digits.toList b ↔ digits.toLower = (Value.blob b).display := by
  rw [hexPairs_iff, ← Text.lowerText_eq, Text.lowerText, Value.display, Text.Hex.text,
    String.ofList_inj]

def hexDigits : List Char := "0123456789abcdefABCDEF".toList

theorem mem_hexDigits_iff : c ∈ hexDigits ↔ ∃ n < 16, IsHexDigit c n := by
  constructor
  · intro h
    have hall : hexDigits.all fun c ↦ (Text.Hex.digitValue? c).isSome := by decide +kernel
    obtain ⟨n, hn⟩ := Option.isSome_iff_exists.mp (List.all_eq_true.mp hall c h)
    exact ⟨n, digitValue?_eq_some_iff.mp hn⟩
  · rintro ⟨n, hn, h⟩
    have hall : ∀ n : Fin 16, Text.Hex.digit n ∈ hexDigits ∧
        upperAscii (Text.Hex.digit n) ∈ hexDigits := by decide +kernel
    rcases h with rfl | rfl
    · exact (hall ⟨n, hn⟩).1
    · exact (hall ⟨n, hn⟩).2

def bare (text : String) : String := String.ofList (unmarked text.toList)

theorem decodeHex_eq_ok_iff_display {text : String} :
    decodeHex text = .ok b ↔ (bare text).toLower = (Value.blob b).display := by
  rw [decodeHex_eq_ok_iff, ← hexPairs_unmarked_iff, ← hexPairs_iff_display, bare,
    String.toList_ofList]

theorem exists_decodeHex_iff {text : String} :
    (∃ b, decodeHex text = .ok b) ↔
      (bare text).length % 2 = 0 ∧ ∀ c ∈ (bare text).toList, c ∈ hexDigits := by
  simp only [decodeHex_eq_ok_iff, ← hexPairs_unmarked_iff, exists_hexPairs_iff, mem_hexDigits_iff,
    bare, String.toList_ofList, String.length_ofList]

theorem decodeHex_marked {mark digits : String} (hmark : mark ∈ ["", "0x", "0X"])
    (h : HexPairs digits.toList b) : decodeHex (mark ++ digits) = .ok b := by
  rw [decodeHex_eq_ok_iff, String.toList_append]
  simp only [List.mem_cons, List.not_mem_nil, or_false] at hmark
  rcases hmark with rfl | rfl | rfl
  · exact .plain h
  · exact .marked (.inl rfl) h
  · exact .marked (.inr rfl) h

/-- Of what stands behind a mark or without one, exactly the texts of an even number of digits are
read; any other text is refused as a whole. The octets read are displayed as these digits in small
letters, and the display of any octets is read as them, in either case and behind either mark. -/
theorem hexadecimal_inverse :
    (∀ text,
      ((∃ b, decodeHex text = .ok b) ↔
        (bare text).length % 2 = 0 ∧ ∀ c ∈ (bare text).toList, c ∈ hexDigits) ∧
      ((∀ b, decodeHex text ≠ .ok b) → decodeHex text = .error (.parse text "blob")) ∧
      ∀ b, decodeHex text = .ok b → (Value.blob b).display = (bare text).toLower) ∧
    ∀ (b : Blob) (mark digits : String), mark ∈ ["", "0x", "0X"] →
      digits.toLower = (Value.blob b).display → decodeHex (mark ++ digits) = .ok b := by
  refine ⟨fun text ↦ ⟨exists_decodeHex_iff, ?_, ?_⟩, ?_⟩
  · intro h
    rw [decodeHex_eq] at h ⊢
    cases hread : Text.Hex.decode? (unmarked text.toList) with
    | none => rfl
    | some b => exact absurd (by rw [hread]) (h b)
  · intro b h
    exact (decodeHex_eq_ok_iff_display.mp h).symm
  · intro b mark digits hmark h
    exact decodeHex_marked hmark (hexPairs_iff_display.mpr h)

theorem hexadecimal_inverse_mixed :
    decodeHex ("0X" ++ "0aF9") = .ok [0x0a, 0xf9] ∧
    (Value.blob [0x0a, 0xf9]).display = (bare "0X0aF9").toLower ∧
    decodeHex "0x0x12" = .error (.parse "0x0x12" "blob") := by
  obtain ⟨hall, hdisplayed⟩ := hexadecimal_inverse
  have hlow : "0aF9".toLower = (Value.blob [0x0a, 0xf9]).display := by
    rw [← Text.lowerText_eq]
    decide
  have hread := hdisplayed [0x0a, 0xf9] "0X" "0aF9" (by decide) hlow
  refine ⟨hread, (hall "0X0aF9").2.2 _ hread, (hall "0x0x12").2.1 fun b hb ↦ ?_⟩
  have hdigits := ((hall "0x0x12").1.mp ⟨b, hb⟩).2 'x'
  revert hdigits
  decide +kernel

end SqlGateway
