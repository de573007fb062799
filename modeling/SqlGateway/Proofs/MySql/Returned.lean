import SqlGateway.Proofs.MySql.Integers

namespace SqlGateway.MySql

open Text (isBlank)

namespace Cell

def surrounded (before : List Char) (text : String) (after : List Char) : Cell :=
  .bytes (Text.Utf8.encode (String.ofList (before ++ text.toList ++ after)))

variable {v : Value} {before after : List Char}

theorem toInt64_surrounded (hbefore : ∀ c ∈ before, isBlank c) (hafter : ∀ c ∈ after, isBlank c)
    (n : Int64) : (surrounded before (toString n.toInt) after).toInt64 = .ok n := by
  have htrim : Text.trimChars (before ++ (toString n.toInt).toList ++ after) =
      (toString n.toInt).toList :=
    Text.trimChars_surrounded hbefore hafter fun _ ↦ Text.isBlank_of_mem_toString
  simp only [surrounded, toInt64, written, Text.Utf8.lossy_encode, parseAs, String.toList_ofList,
    htrim, Text.int64?_toString]

theorem decode_encode (h : v.isEmpty = false) : (encode v).decode v.type = .ok v := by
  cases v with
  | absent => cases h
  | null => cases h
  | string s => simp only [encode, Value.type, decode, written, Text.Utf8.lossy_encode]
  | blob b => rfl
  | bool b => cases b <;> rfl
  | int n => simp only [encode, Value.type, decode, toInt64, Except.map, Int32.toInt32_toInt64]
  | int64 n => rfl
  | double x => rfl

theorem encode_of_isEmpty (h : v.isEmpty = true) : encode v = .null := by
  cases v with
  | absent => rfl
  | null => rfl
  | _ => cases h

theorem decode_surrounded (hbefore : ∀ c ∈ before, isBlank c) (hafter : ∀ c ∈ after, isBlank c)
    (h : v.type = .int ∨ v.type = .int64) :
    (surrounded before v.toText after).decode v.type = .ok v := by
  have hcell : ∀ text, surrounded before text after ≠ .null := by
    intro text h
    cases h
  cases v with
  | int n =>
    have hread := toInt64_surrounded hbefore hafter n.toInt64
    rw [Int32.toInt_toInt64] at hread
    rw [Value.type, decode_int (hcell _), Value.toText, hread, Except.map, Int32.toInt32_toInt64]
  | int64 n =>
    rw [Value.type, decode_int64 (hcell _), Value.toText, toInt64_surrounded hbefore hafter,
      Except.map]
  | _ => rcases h with h | h <;> cases h

end Cell

open Cell

/-- A value that carries data is read back from the cell that it is sent as, in a column of its own
type. One that carries none is null in every column. Of an integer the decimal text is read too,
with any blanks around it. -/
theorem sent_read_back (v : Value) :
    (v.isEmpty = false → (encode v).decode v.type = .ok v) ∧
    (v.isEmpty = true → ∀ type, (encode v).decode type = .ok .null) ∧
    (v.type = .int ∨ v.type = .int64 → ∀ before after : List Char,
      (∀ c ∈ before, isBlank c) → (∀ c ∈ after, isBlank c) →
        (surrounded before v.toText after).decode v.type = .ok v) := by
  refine ⟨decode_encode, ?_, ?_⟩
  · intro h type
    rw [encode_of_isEmpty h, decode]
  · intro h before after hbefore hafter
    exact decode_surrounded hbefore hafter h

theorem sent_read_back_least :
    let v : Value := .int (Int32.ofInt int32Min)
    (encode v).decode .int = .ok v ∧
    (surrounded ['\n'] "-2147483648" ['\u3000']).decode .int = .ok v ∧
    (encode .absent).decode .blob = .ok .null := by
  intro v
  have hbefore : ∀ c ∈ ['\n'], isBlank c := by
    intro c hc
    obtain rfl := List.mem_singleton.mp hc
    rfl
  have hafter : ∀ c ∈ ['\u3000'], isBlank c := by
    intro c hc
    obtain rfl := List.mem_singleton.mp hc
    rfl
  obtain ⟨hnative, -, htext⟩ := sent_read_back v
  exact ⟨hnative rfl, htext (.inl rfl) _ _ hbefore hafter, (sent_read_back .absent).2.1 rfl .blob⟩

end SqlGateway.MySql
