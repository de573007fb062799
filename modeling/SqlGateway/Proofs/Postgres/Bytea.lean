import SqlGateway.Postgres.Wire
import SqlGateway.Proofs.Text.Utf8

namespace SqlGateway.Postgres

namespace Bytea

open Text (upperAscii)

variable {c : Char} {n : Nat} {x : UInt8} {b : Blob} {cs : List Char}

def IsHexDigit (c : Char) (n : Nat) : Prop :=
  c = Text.Hex.digit n ∨ c = upperAscii (Text.Hex.digit n)

/-- Two hexadecimal digits for each octet, each in either case. -/
inductive HexPairs : List Char → Blob → Prop where
  | nil : HexPairs [] []
  | cons {c d : Char} {cs : List Char} {x : UInt8} {b : Blob} (hc : IsHexDigit c (x.toNat / 16))
      (hd : IsHexDigit d (x.toNat % 16)) (hcs : HexPairs cs b) : HexPairs (c :: d :: cs) (x :: b)

theorem digit_cases (h : n < 16) :
    (Text.Hex.digitValue? (Text.Hex.digit n) = some n ∧ isAsciiBlank (Text.Hex.digit n) = false) ∧
      Text.Hex.digitValue? (upperAscii (Text.Hex.digit n)) = some n ∧
        isAsciiBlank (upperAscii (Text.Hex.digit n)) = false := by
  suffices ∀ n : Fin 16,
      (Text.Hex.digitValue? (Text.Hex.digit n) = some n.val ∧
        isAsciiBlank (Text.Hex.digit n) = false) ∧
      Text.Hex.digitValue? (upperAscii (Text.Hex.digit n)) = some n.val ∧
        isAsciiBlank (upperAscii (Text.Hex.digit n)) = false from this ⟨n, h⟩
  decide +kernel

theorem IsHexDigit.reads (h : IsHexDigit c n) (hn : n < 16) :
    Text.Hex.digitValue? c = some n ∧ isAsciiBlank c = false := by
  obtain rfl | rfl := h
  · exact (digit_cases hn).1
  · exact (digit_cases hn).2

theorem HexPairs.reads (h : HexPairs cs b) :
    Text.Hex.decode? cs = some b ∧ cs.filter (!isAsciiBlank ·) = cs := by
  induction h with
  | nil => exact ⟨rfl, rfl⟩
  | @cons c d cs x b hc hd _ ih =>
    have hlt := x.toNat_lt
    obtain ⟨hc, hc'⟩ := hc.reads (by omega)
    obtain ⟨hd, hd'⟩ := hd.reads (by omega)
    have hx : (x.toNat / 16 * 16 + x.toNat % 16).toUInt8 = x :=
      Text.Utf8.toUInt8_toNat (by omega)
    constructor
    · simp only [Text.Hex.decode?, hc, hd, ih.1, bind, Option.bind, pure, hx]
    · rw [List.filter_cons_of_pos (by simp [hc']), List.filter_cons_of_pos (by simp [hd']), ih.2]

/-- The octets that stand for themselves. -/
def isPlain (x : UInt8) : Bool := 0x20 ≤ x.toNat && x.toNat ≤ 0x7e && x.toNat ≠ 0x5c

def octalDigit (n : Nat) : Char := Char.ofNat (48 + n)

def escapeOctet (x : UInt8) : List Char :=
  if isPlain x then [Char.ofNat x.toNat]
  else if x = 0x5c then ['\\', '\\']
  else ['\\', octalDigit (x.toNat / 64), octalDigit (x.toNat / 8 % 8), octalDigit (x.toNat % 8)]

/-- Printable octets as themselves, a backslash doubled, every other octet as a backslash and three
octal digits. -/
def escape (b : Blob) : List Char := b.flatMap escapeOctet

theorem encodeChar_ascii (h : n < 0x80) : Text.Utf8.encodeChar (Char.ofNat n) = [n.toUInt8] := by
  simp [Text.Utf8.encodeChar, Text.Utf8.toNat_ofNat (n := n) (by omega), h]

theorem octets_escapeOctet (x : UInt8) :
    Text.Utf8.encodeChars (escapeOctet x) =
      if isPlain x then [x]
      else if x = 0x5c then [0x5c, 0x5c]
      else [0x5c, (48 + x.toNat / 64).toUInt8, (48 + x.toNat / 8 % 8).toUInt8,
        (48 + x.toNat % 8).toUInt8] := by
  have hlt := x.toNat_lt
  have hbackslash : Text.Utf8.encodeChar '\\' = [0x5c] := by decide
  unfold escapeOctet
  split
  · rename_i hplain
    have hascii : x.toNat < 0x80 := by
      simp only [isPlain, Bool.and_eq_true, decide_eq_true_eq] at hplain
      omega
    simp [Text.Utf8.encodeChars, encodeChar_ascii hascii]
  split
  · simp [Text.Utf8.encodeChars, hbackslash]
  · simp only [Text.Utf8.encodeChars, List.flatMap_cons, List.flatMap_nil, hbackslash, octalDigit]
    rw [encodeChar_ascii (by omega), encodeChar_ascii (by omega), encodeChar_ascii (by omega)]
    rfl

theorem octalDigit?_eq_some_iff : octalDigit? x = some n ↔ n < 8 ∧ x = (48 + n).toUInt8 := by
  have hlt := x.toNat_lt
  rw [octalDigit?]
  constructor
  · intro h
    split at h
    · obtain rfl := Option.some.inj h
      refine ⟨by omega, (Text.Utf8.toUInt8_toNat ?_).symm⟩
      omega
    · cases h
  · rintro ⟨hn, rfl⟩
    rw [Text.Utf8.toNat_toUInt8 (by omega), if_pos (by omega), Nat.add_sub_cancel_left]

theorem octal?_eq_some_iff {p q r : UInt8} :
    octal? p q r = some x ↔ ∃ i j k, octalDigit? p = some i ∧ octalDigit? q = some j ∧
      octalDigit? r = some k ∧ x.toNat = i * 64 + j * 8 + k := by
  have hlt := x.toNat_lt
  simp only [octal?, Option.bind_eq_bind, Option.bind_eq_some_iff]
  constructor
  · rintro ⟨i, hi, j, hj, k, hk, h⟩
    refine ⟨i, j, k, hi, hj, hk, ?_⟩
    split at h
    · obtain rfl := Option.some.inj h
      exact Text.Utf8.toNat_toUInt8 (by omega)
    · cases h
  · rintro ⟨i, j, k, hi, hj, hk, hx⟩
    refine ⟨i, hi, j, hj, k, hk, ?_⟩
    rw [if_pos (by omega), Text.Utf8.toUInt8_toNat hx.symm]

/-- A piece of the escape form and the octet that it stands for. -/
inductive Piece : Blob → UInt8 → Prop where
  | plain {x : UInt8} (hx : x ≠ 0x5c) : Piece [x] x
  | doubled : Piece [0x5c, 0x5c] 0x5c
  | octal {x : UInt8} {i j k : Nat} (hi : i < 8) (hj : j < 8) (hk : k < 8)
      (hx : x.toNat = i * 64 + j * 8 + k) :
      Piece [0x5c, (48 + i).toUInt8, (48 + j).toUInt8, (48 + k).toUInt8] x

theorem Piece.unescape {piece : Blob} (h : Piece piece x) (bs : Blob) :
    unescape (piece ++ bs) = (Bytea.unescape bs).map (x :: ·) := by
  cases h with
  | plain hx =>
    rw [List.singleton_append, Bytea.unescape, if_neg hx]
    · intro _ h
      exact absurd h hx
    · intro _ _ _ _ h
      exact absurd h hx
  | doubled => rw [List.cons_append, List.cons_append, List.nil_append, Bytea.unescape]
  | @octal _ i j k hi hj hk hx =>
    have hfirst : (48 + i).toUInt8 ≠ 0x5c := by
      intro h
      have := congrArg UInt8.toNat h
      simp at this
      omega
    have hread : octal? (48 + i).toUInt8 (48 + j).toUInt8 (48 + k).toUInt8 = some x :=
      octal?_eq_some_iff.mpr ⟨i, j, k, octalDigit?_eq_some_iff.mpr ⟨hi, rfl⟩,
        octalDigit?_eq_some_iff.mpr ⟨hj, rfl⟩, octalDigit?_eq_some_iff.mpr ⟨hk, rfl⟩, hx⟩
    simp only [List.cons_append, List.nil_append]
    rw [Bytea.unescape]
    · rw [hread]
      cases Bytea.unescape bs <;> rfl
    · exact hfirst

theorem piece_escapeOctet (x : UInt8) : Piece (Text.Utf8.encodeChars (escapeOctet x)) x := by
  have hlt := x.toNat_lt
  rw [octets_escapeOctet]
  split
  · rename_i hplain
    apply Piece.plain
    rintro rfl
    exact absurd hplain (by decide)
  split
  · rename_i hx
    subst hx
    exact .doubled
  · apply Piece.octal <;> omega

theorem octets_escape_cons (x : UInt8) (b : Blob) :
    Text.Utf8.encodeChars (escape (x :: b)) =
      Text.Utf8.encodeChars (escapeOctet x) ++ Text.Utf8.encodeChars (escape b) := by
  simp [Text.Utf8.encodeChars, escape]

theorem unescape_escape (b : Blob) : unescape (Text.Utf8.encodeChars (escape b)) = some b := by
  induction b with
  | nil => rfl
  | cons x b ih => rw [octets_escape_cons, (piece_escapeOctet x).unescape, ih, Option.map_some]

theorem escape_cons (x : UInt8) (b : Blob) : escape (x :: b) = escapeOctet x ++ escape b := rfl

theorem ofNat_ne_backslash (h : isPlain x) : Char.ofNat x.toNat ≠ '\\' := by
  intro hc
  simp only [isPlain, Bool.and_eq_true, decide_eq_true_eq] at h
  have := congrArg Char.toNat hc
  rw [Text.Utf8.toNat_ofNat (by omega)] at this
  exact h.2 this

theorem backslash_escape_iff : ['\\'] <+: escape b ↔ b.head?.any (!isPlain ·) := by
  cases b with
  | nil => simp [escape]
  | cons x b =>
    rw [escape_cons, escapeOctet]
    split
    · rename_i hplain
      simpa [hplain] using (ofNat_ne_backslash hplain).symm
    · rename_i hplain
      split <;> simp [hplain]

theorem second_escape (h : escape b = '\\' :: c :: cs) : c = '\\' ∨ c.toNat < 56 := by
  cases b with
  | nil => cases h
  | cons x b =>
    have hlt := x.toNat_lt
    rw [escape_cons, escapeOctet] at h
    split at h
    · rename_i hplain
      exact absurd (List.cons.inj h).1 (ofNat_ne_backslash hplain)
    split at h
    · exact .inl (List.cons.inj (List.cons.inj h).2).1.symm
    · right
      rw [← (List.cons.inj (List.cons.inj h).2).1, octalDigit,
        Text.Utf8.toNat_ofNat (by omega)]
      omega

theorem decodeChars?_escape (b : Blob) : decodeChars? (escape b) = some b := by
  rw [decodeChars?, unescape_escape]
  · intro cs h
    exact absurd (second_escape h) (by decide)
  · intro cs h
    exact absurd (second_escape h) (by decide)

theorem decode_escape (b : Blob) : decode (String.ofList (escape b)) = .ok b := by
  rw [decode, String.toList_ofList, decodeChars?_escape]

theorem HexPairs.decode (h : HexPairs cs b) :
    decode (String.ofList ('\\' :: 'x' :: cs)) = .ok b := by
  rw [Bytea.decode, String.toList_ofList, decodeChars?, h.reads.2, h.reads.1]

theorem length_octets_escape (b : Blob) :
    b.length ≤ (Text.Utf8.encodeChars (escape b)).length ∧
      ((Text.Utf8.encodeChars (escape b)).length = b.length → ∀ x ∈ b, isPlain x) := by
  induction b with
  | nil => simp [escape, Text.Utf8.encodeChars]
  | cons x b ih =>
    rw [octets_escape_cons, List.length_append, List.length_cons, octets_escapeOctet]
    split
    · rename_i hplain
      refine ⟨by rw [List.length_singleton]; omega, fun h ↦ ?_⟩
      simp only [List.length_singleton] at h
      exact List.forall_mem_cons.mpr ⟨hplain, ih.2 (by omega)⟩
    split <;> simp only [List.length_cons] <;> exact ⟨by omega, by omega⟩

/-- Only a sequence of octets that stand for themselves is its own escape form. -/
theorem octets_escape_eq_iff :
    Text.Utf8.encodeChars (escape b) = b ↔ ∀ x ∈ b, isPlain x := by
  constructor
  · intro h
    exact (length_octets_escape b).2 (congrArg List.length h)
  · intro h
    induction b with
    | nil => rfl
    | cons x b ih =>
      obtain ⟨hx, hb⟩ := List.forall_mem_cons.mp h
      rw [octets_escape_cons, octets_escapeOctet, if_pos hx, ih hb, List.singleton_append]

end Bytea

open Bytea

variable {b : Blob} {cs : List Char}

theorem startsWith_backslash_iff :
    (String.ofList cs).startsWith "\\" ↔ ['\\'] <+: cs := by
  rw [String.startsWith_string_iff, String.toList_ofList, String.toList_ofList]

theorem encode_bytea (text : String) :
    encode 17 (.string text) =
      ((if text.startsWith "\\" then Bytea.decode text
        else .ok (Text.Utf8.encode text)).mapError EncodeError.value).map some := rfl

/-- Every hexadecimal form of the octets sends them, and so does every escape form that starts with
a backslash. Of the other escape forms their own octets are sent, which are the right ones only if
nothing in them is escaped. -/
theorem bytea_texts_sent (b : Blob) :
    (∀ cs, HexPairs cs b →
      encode 17 (.string (String.ofList ('\\' :: 'x' :: cs))) = .ok (some b)) ∧
    Bytea.decode (String.ofList (escape b)) = .ok b ∧
    encode 17 (.string (String.ofList (escape b))) =
      .ok (some (if b.head?.any (!isPlain ·) then b else Text.Utf8.encodeChars (escape b))) ∧
    (encode 17 (.string (String.ofList (escape b))) = .ok (some b) ↔
      b.head?.any (!isPlain ·) ∨ ∀ x ∈ b, isPlain x) := by
  have hsent : encode 17 (.string (String.ofList (escape b))) =
      .ok (some (if b.head?.any (!isPlain ·) then b else Text.Utf8.encodeChars (escape b))) := by
    have hstarts : (String.ofList (escape b)).startsWith "\\" = b.head?.any (!isPlain ·) := by
      rw [Bool.eq_iff_iff, startsWith_backslash_iff]
      exact backslash_escape_iff
    rw [encode_bytea, hstarts]
    split
    · rw [decode_escape]
      rfl
    · rw [Text.Utf8.encode, String.toList_ofList]
      rfl
  refine ⟨?_, decode_escape b, hsent, ?_⟩
  · intro cs hcs
    have hstarts : (String.ofList ('\\' :: 'x' :: cs)).startsWith "\\" := by
      rw [startsWith_backslash_iff]
      exact ⟨'x' :: cs, rfl⟩
    rw [encode_bytea, if_pos hstarts, hcs.decode]
    rfl
  · rw [hsent]
    split
    · rename_i hfirst
      simp [hfirst]
    · rename_i hfirst
      simp [hfirst, octets_escape_eq_iff]

theorem bytea_texts_sent_behind :
    HexPairs ['6', '1', 'F', 'f'] [0x61, 0xff] ∧
    encode 17 (.string "\\x61Ff") = .ok (some [0x61, 0xff]) ∧
    escape [0x61, 0x01] = ['a', '\\', '0', '0', '1'] ∧
    encode 17 (.string "a\\001") = .ok (some [0x61, 0x5c, 0x30, 0x30, 0x31]) := by
  have hpairs : HexPairs ['6', '1', 'F', 'f'] [0x61, 0xff] :=
    .cons (.inl rfl) (.inl rfl) (.cons (.inr rfl) (.inl rfl) .nil)
  exact ⟨hpairs, (bytea_texts_sent [0x61, 0xff]).1 _ hpairs, rfl,
    (bytea_texts_sent [0x61, 0x01]).2.2.1⟩

end SqlGateway.Postgres
