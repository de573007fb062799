import SqlGateway.Command.Parameter
import SqlGateway.Proofs.Text.Floating
import SqlGateway.Proofs.Value.Hexadecimal

namespace SqlGateway.Command

open Text (Padded)

variable {mark : Char} {cs before after : List Char}

theorem decide_ne_of_mem (h : mark ∉ cs) : ∀ c ∈ cs, decide (c ≠ mark) := by
  intro c hc
  apply decide_eq_true
  rintro rfl
  exact h hc

theorem splitOnce_append (h : mark ∉ before) :
    splitOnce mark (before ++ mark :: after) = some (before, after) := by
  have hne := decide_ne_of_mem h
  rw [splitOnce, List.dropWhile_append_of_pos hne, List.takeWhile_append_of_pos hne,
    List.dropWhile_cons_of_neg (by simp), List.takeWhile_cons_of_neg (by simp), List.append_nil]

theorem splitOnce_of_not_mem (h : mark ∉ cs) : splitOnce mark cs = none := by
  rw [splitOnce, List.dropWhile_eq_nil_iff.mpr (decide_ne_of_mem h)]

namespace Parameter

variable {v : Value} {name payload : String} {type : ValueType}

def kinds : List (String × ValueType) := [
  ("int", .int), ("int64", .int64), ("double", .double), ("bool", .bool), ("text", .string),
  ("hex", .blob)]

def truthNames (b : Bool) : List (List Char) :=
  if b then ["true".toList, "1".toList] else ["false".toList, "0".toList]

/-- What is written behind the colon for a value. Numbers and truth values may have blanks around
them, and the case of a truth value does not matter. -/
def Payload (cs : List Char) : Value → Prop
  | .int n => Padded cs n.toInt
  | .int64 n => Padded cs n.toInt
  | .double x => Text.Floating (Text.trimChars cs) x
  | .bool b => (Text.trimChars cs).map Text.lowerAscii ∈ truthNames b
  | .string s => cs = s.toList
  | .blob b => Hexadecimal cs b
  | .absent | .null => False

theorem truthValue?_eq_some_iff {b : Bool} :
    truthValue? cs = some b ↔ (Text.trimChars cs).map Text.lowerAscii ∈ truthNames b := by
  rw [truthValue?]
  generalize (Text.trimChars cs).map Text.lowerAscii = name
  have hname : ∀ {s : String}, String.ofList name = s → name = s.toList := by
    rintro s rfl
    rw [String.toList_ofList]
  constructor
  · intro h
    split at h
    · cases h
      exact List.mem_cons.mpr (.inl (hname ‹_›))
    · cases h
      exact List.mem_cons.mpr (.inr (List.mem_singleton.mpr (hname ‹_›)))
    · cases h
      exact List.mem_cons.mpr (.inl (hname ‹_›))
    · cases h
      exact List.mem_cons.mpr (.inr (List.mem_singleton.mpr (hname ‹_›)))
    · cases h
  · intro h
    cases b <;> rcases List.mem_cons.mp h with rfl | h
    · rfl
    · rw [List.mem_singleton.mp h]
      rfl
    · rfl
    · rw [List.mem_singleton.mp h]
      rfl

def Reads (reader : List Char → Option Value) (type : ValueType) : Prop :=
  ∀ payload v, reader payload = some v ↔ v.type = type ∧ Payload payload v

theorem reads_map {α : Type} {reader : List Char → Option α} {inject : α → Value}
    (htype : ∀ v : Value, v.type = type ↔ ∃ a, v = inject a)
    (hreader : ∀ payload a, reader payload = some a ↔ Payload payload (inject a)) :
    Reads (fun cs ↦ (reader cs).map inject) type := by
  intro payload v
  rw [Option.map_eq_some_iff, htype]
  constructor
  · rintro ⟨a, ha, rfl⟩
    exact ⟨⟨a, rfl⟩, (hreader payload a).mp ha⟩
  · rintro ⟨⟨a, rfl⟩, h⟩
    exact ⟨a, (hreader payload a).mpr h, rfl⟩

theorem reads_int : Reads (fun cs ↦ (Text.int32? (Text.trimChars cs)).map .int) .int := by
  refine reads_map (fun v ↦ ?_) fun payload n ↦ ?_
  · cases v <;> simp [Value.type]
  · exact Text.int32?_eq_some_iff.trans Text.numeral_trimChars_iff

theorem reads_int64 : Reads (fun cs ↦ (Text.int64? (Text.trimChars cs)).map .int64) .int64 := by
  refine reads_map (fun v ↦ ?_) fun payload n ↦ ?_
  · cases v <;> simp [Value.type]
  · exact Text.int64?_eq_some_iff.trans Text.numeral_trimChars_iff

theorem reads_double : Reads (fun cs ↦ (Text.double? (Text.trimChars cs)).map .double) .double := by
  refine reads_map (fun v ↦ ?_) fun payload x ↦ ?_
  · cases v <;> simp [Value.type]
  · exact Text.double?_eq_some_iff

theorem reads_bool : Reads (fun cs ↦ (truthValue? cs).map .bool) .bool := by
  refine reads_map (fun v ↦ ?_) fun payload b ↦ ?_
  · cases v <;> simp [Value.type]
  · exact truthValue?_eq_some_iff

theorem reads_text : Reads (fun cs ↦ (some (String.ofList cs)).map .string) .string := by
  refine reads_map (fun v ↦ ?_) fun payload s ↦ ?_
  · cases v <;> simp [Value.type]
  · rw [Option.some_inj, Payload]
    constructor
    · rintro rfl
      rw [String.toList_ofList]
    · rintro rfl
      rw [String.ofList_toList]

theorem reads_hex :
    Reads (fun cs ↦ (decodeHex (String.ofList cs)).toOption.map .blob) .blob := by
  refine reads_map (fun v ↦ ?_) fun payload b ↦ ?_
  · cases v <;> simp [Value.type]
  · have hread : decodeHex (String.ofList payload) = .ok b ↔ Hexadecimal payload b := by
      rw [decodeHex_eq_ok_iff, String.toList_ofList]
    rw [Payload, ← hread]
    cases decodeHex (String.ofList payload) <;> simp [Except.toOption]

theorem kind?_spec (h : (name, type) ∈ kinds) :
    ∃ reader, kind? name = some reader ∧ Reads reader type := by
  simp only [kinds, List.mem_cons, Prod.mk.injEq, List.not_mem_nil, or_false] at h
  rcases h with ⟨rfl, rfl⟩ | ⟨rfl, rfl⟩ | ⟨rfl, rfl⟩ | ⟨rfl, rfl⟩ | ⟨rfl, rfl⟩ | ⟨rfl, rfl⟩
  · exact ⟨_, rfl, reads_int⟩
  · exact ⟨_, rfl, reads_int64⟩
  · exact ⟨_, rfl, reads_double⟩
  · exact ⟨_, rfl, reads_bool⟩
  · exact ⟨_, rfl, reads_text⟩
  · exact ⟨_, rfl, reads_hex⟩

theorem kind?_eq_none (h : name ∉ kinds.map Prod.fst) : kind? name = none := by
  simp only [kinds, List.map_cons, List.map_nil, List.mem_cons, List.not_mem_nil, or_false,
    not_or] at h
  unfold kind?
  split <;> simp_all

theorem kinds_no_colon (h : (name, type) ∈ kinds) : ':' ∉ name.toList := by
  have hall : ∀ kind ∈ kinds, ':' ∉ kind.1.toList := by decide
  exact hall _ h

theorem read_eq (hname : ':' ∉ name.toList) {text : String}
    (htext : text.toList = name.toList ++ ':' :: payload.toList) :
    read text = (kind? name).elim (.ok (.string text)) fun reader ↦
      (reader payload.toList).elim
        (.error (.config ("invalid parameter value '" ++ text ++ "'"))) .ok := by
  have hnull : text ≠ "null" := by
    rintro rfl
    have hcolon : ':' ∈ "null".toList := by
      rw [htext]
      exact List.mem_append_right _ List.mem_cons_self
    revert hcolon
    decide
  rw [read, if_neg hnull, htext, splitOnce_append hname]
  simp only [String.ofList_toList]
  cases kind? name with
  | none => rfl
  | some reader =>
    cases hreader : reader payload.toList <;> simp only [hreader, Option.elim]

theorem toList_append_colon (name payload : String) :
    (name ++ ":" ++ payload).toList = name.toList ++ ':' :: payload.toList := by simp

/-- Behind a kind there is a payload for it, or the whole text is refused as a mistake of its
user. -/
structure Decides (name : String) (type : ValueType) (payload : String) : Prop where
  ok (v : Value) : read (name ++ ":" ++ payload) = .ok v ↔ v.type = type ∧ Payload payload.toList v
  error : (∀ v : Value, v.type = type → ¬ Payload payload.toList v) → ∃ e : Error,
    read (name ++ ":" ++ payload) = .error e ∧
      e = .config ("invalid parameter value '" ++ (name ++ ":" ++ payload) ++ "'") ∧ e.exitCode = 2

theorem decides (h : (name, type) ∈ kinds) (payload : String) : Decides name type payload := by
  obtain ⟨reader, hkind, hreads⟩ := kind?_spec h
  have hread := read_eq (kinds_no_colon h) (toList_append_colon name payload)
  rw [hkind, Option.elim_some] at hread
  constructor
  · intro v
    rw [hread, ← hreads]
    cases reader payload.toList with
    | none =>
      constructor <;> intro h <;> cases h
    | some w => rw [Option.elim_some, Except.ok.injEq, Option.some_inj]
  · intro hnone
    refine ⟨_, ?_, rfl, rfl⟩
    have hfails : reader payload.toList = none := by
      refine Option.eq_none_iff_forall_ne_some.mpr fun v hv ↦ ?_
      obtain ⟨htype, hpayload⟩ := (hreads _ v).mp hv
      exact hnone v htype hpayload
    rw [hread, hfails, Option.elim_none]

/-- The literals of a value. Hexadecimal digits may be in either case. -/
inductive Literal : Value → String → Prop where
  | null : Literal .null "null"
  | text (s : String) : Literal (.string s) ("text" ++ ":" ++ s)
  | hex {digits : String} {b : Blob} (h : Postgres.Bytea.HexPairs digits.toList b) :
      Literal (.blob b) ("hex" ++ ":" ++ digits)
  | bool (b : Bool) : Literal (.bool b) ("bool" ++ ":" ++ toString b)
  | int (n : Int32) : Literal (.int n) ("int" ++ ":" ++ toString n.toInt)
  | int64 (n : Int64) : Literal (.int64 n) ("int64" ++ ":" ++ toString n.toInt)

theorem Literal.read {text : String} (h : Literal v text) : read text = .ok v := by
  have hread : ∀ {name payload}, (name, v.type) ∈ kinds → Payload payload.toList v →
      Parameter.read (name ++ ":" ++ payload) = .ok v := by
    intro name payload hmem hpayload
    exact ((decides hmem payload).ok v).mpr ⟨rfl, hpayload⟩
  cases h with
  | null => rfl
  | text s => exact hread (by simp [kinds, Value.type]) rfl
  | hex h => exact hread (by simp [kinds, Value.type]) (.plain h)
  | bool b =>
    refine hread (by simp [kinds, Value.type]) (truthValue?_eq_some_iff.mp ?_)
    cases b <;> decide
  | int n => exact hread (by simp [kinds, Value.type]) (Text.padded_toString n.toInt)
  | int64 n => exact hread (by simp [kinds, Value.type]) (Text.padded_toString n.toInt)

theorem exists_literal
    (hv : v.type ∈ [.nullValue, .string, .blob, .bool, .int, .int64]) : ∃ text, Literal v text := by
  cases v with
  | null => exact ⟨_, .null⟩
  | string s => exact ⟨_, .text s⟩
  | blob b =>
    refine ⟨"hex" ++ ":" ++ String.ofList (Text.Hex.encode b), .hex ?_⟩
    rw [String.toList_ofList]
    exact Postgres.Bytea.hexPairs_encode b
  | bool b => exact ⟨_, .bool b⟩
  | int n => exact ⟨_, .int n⟩
  | int64 n => exact ⟨_, .int64 n⟩
  | absent => simp [Value.type] at hv
  | double x => simp [Value.type] at hv

/-- A literal is read as its value. Any other text without a colon, or with no kind before its first
colon, stands for itself; behind a kind exactly the payloads of its values are read, and everything
else is refused. -/
theorem parameters_unambiguous :
    (∀ v text, Literal v text → read text = .ok v) ∧
    (∀ v : Value, v.type ∈ [.nullValue, .string, .blob, .bool, .int, .int64] →
      ∃ text, Literal v text) ∧
    (∀ text, text ≠ "null" → ':' ∉ text.toList → read text = .ok (.string text)) ∧
    (∀ name payload : String, ':' ∉ name.toList → name ∉ kinds.map Prod.fst →
      read (name ++ ":" ++ payload) = .ok (.string (name ++ ":" ++ payload))) ∧
    (∀ name type, (name, type) ∈ kinds → ∀ payload, Decides name type payload) := by
  refine ⟨fun _ _ ↦ Literal.read, fun _ ↦ exists_literal, ?_, ?_, fun _ _ ↦ decides⟩
  · intro text hnull hcolon
    rw [read, if_neg hnull, splitOnce_of_not_mem hcolon]
  · intro name payload hcolon hname
    rw [read_eq hcolon (toList_append_colon name payload), kind?_eq_none hname, Option.elim_none]

theorem parameters_unambiguous_nested :
    read ("text" ++ ":" ++ " int:null") = .ok (.string " int:null") ∧
    read (" int" ++ ":" ++ "5") = .ok (.string " int:5") ∧
    ∃ e, read ("int" ++ ":" ++ "2147483648") = .error e ∧
      e = .config "invalid parameter value 'int:2147483648'" ∧ e.exitCode = 2 := by
  obtain ⟨hliteral, -, -, hbare, hkind⟩ := parameters_unambiguous
  refine ⟨hliteral _ _ (.text _), hbare " int" "5" (by decide) (by decide), ?_⟩
  refine (hkind "int" .int (by decide) "2147483648").error fun v htype hpayload ↦ ?_
  cases v with
  | int n =>
    have hvalue : Text.int? (Text.trimChars "2147483648".toList) = some 2147483648 := by
      decide +kernel
    have hn : (2147483648 : Int) = n.toInt :=
      Option.some.inj (hvalue.symm.trans (Text.int?_trimChars_eq_some_iff.mpr hpayload))
    have := n.toInt_lt
    omega
  | _ => cases htype

end Parameter
end SqlGateway.Command
