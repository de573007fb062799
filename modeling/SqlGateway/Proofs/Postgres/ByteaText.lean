import SqlGateway.Proofs.Postgres.Bytea

namespace SqlGateway.Postgres.Bytea

open Text (upperAscii)

variable {c : Char} {n : Nat} {x : UInt8} {b bs : Blob} {cs digits : List Char}

theorem upperAscii_digit (h : n < 16) :
    upperAscii (Text.Hex.digit n) = if n < 10 then Text.Hex.digit n else Char.ofNat (55 + n) := by
  suffices ∀ n : Fin 16, upperAscii (Text.Hex.digit n) =
      if n.val < 10 then Text.Hex.digit n else Char.ofNat (55 + n.val) from this ⟨n, h⟩
  decide +kernel

theorem digitValue?_eq_some_iff : Text.Hex.digitValue? c = some n ↔ n < 16 ∧ IsHexDigit c n := by
  constructor
  · intro h
    have hself : Char.ofNat c.toNat = c := Char.ofNat_toNat c
    simp only [Text.Hex.digitValue?] at h
    split at h
    · rename_i hc
      obtain rfl := Option.some.inj h
      have hlt : c.toNat - 48 < 10 := by omega
      refine ⟨by omega, .inl ?_⟩
      rw [Text.Hex.digit, if_pos hlt, Nat.add_sub_cancel' hc.1, hself]
    split at h
    · rename_i hc
      obtain rfl := Option.some.inj h
      have hge : ¬ c.toNat - 55 < 10 := by omega
      refine ⟨by omega, .inr ?_⟩
      rw [upperAscii_digit (by omega), if_neg hge, Nat.add_sub_cancel' (by omega), hself]
    split at h
    · rename_i hc
      obtain rfl := Option.some.inj h
      have hge : ¬ c.toNat - 87 < 10 := by omega
      refine ⟨by omega, .inl ?_⟩
      rw [Text.Hex.digit, if_neg hge, Nat.add_sub_cancel' (by omega), hself]
    · cases h
  · rintro ⟨hn, h⟩
    exact (h.reads hn).1

theorem HexPairs.cons_digits {d : Char} {i j : Nat} (hi : i < 16) (hj : j < 16)
    (hc : IsHexDigit c i) (hd : IsHexDigit d j) (h : HexPairs cs b) :
    HexPairs (c :: d :: cs) ((i * 16 + j).toUInt8 :: b) := by
  have hx : (i * 16 + j).toUInt8.toNat = i * 16 + j := Text.Utf8.toNat_toUInt8 (by omega)
  have hhigh : (i * 16 + j) / 16 = i := by omega
  have hlow : (i * 16 + j) % 16 = j := by omega
  apply HexPairs.cons
  · rwa [hx, hhigh]
  · rwa [hx, hlow]
  · exact h

theorem hexPairs_of_decode? (h : Text.Hex.decode? cs = some b) : HexPairs cs b := by
  fun_induction Text.Hex.decode? cs generalizing b with
  | case1 =>
    cases h
    exact .nil
  | case2 => cases h
  | case3 c d cs ih =>
    simp only [Option.bind_eq_bind, Option.bind_eq_some_iff, Option.pure_def, Option.some.injEq] at h
    obtain ⟨i, hi, j, hj, b, hb, rfl⟩ := h
    obtain ⟨hi, hc⟩ := digitValue?_eq_some_iff.mp hi
    obtain ⟨hj, hd⟩ := digitValue?_eq_some_iff.mp hj
    exact .cons_digits hi hj hc hd (ih hb)

theorem decode?_eq_some_iff : Text.Hex.decode? cs = some b ↔ HexPairs cs b :=
  ⟨hexPairs_of_decode?, fun h ↦ h.reads.1⟩

theorem exists_hexPairs_iff :
    (∃ b, HexPairs cs b) ↔ cs.length % 2 = 0 ∧ ∀ c ∈ cs, ∃ n < 16, IsHexDigit c n := by
  constructor
  · rintro ⟨b, h⟩
    induction h with
    | nil => simp
    | @cons c d cs x b hc hd _ ih =>
      have hlt := x.toNat_lt
      obtain ⟨heven, hdigits⟩ := ih
      refine ⟨by simp only [List.length_cons]; omega, ?_⟩
      rw [List.forall_mem_cons, List.forall_mem_cons]
      exact ⟨⟨_, by omega, hc⟩, ⟨_, by omega, hd⟩, hdigits⟩
  · rintro ⟨heven, hdigits⟩
    induction cs using Text.Hex.decode?.induct with
    | case1 => exact ⟨[], .nil⟩
    | case2 c => simp at heven
    | case3 c d cs ih =>
      rw [List.forall_mem_cons, List.forall_mem_cons] at hdigits
      obtain ⟨⟨i, hi, hc⟩, ⟨j, hj, hd⟩, hcs⟩ := hdigits
      simp only [List.length_cons] at heven
      obtain ⟨b, hb⟩ := ih (by omega) hcs
      exact ⟨_, .cons_digits hi hj hc hd hb⟩

theorem hexPairs_encode (b : Blob) : HexPairs (Text.Hex.encode b) b := by
  induction b with
  | nil => exact .nil
  | cons x b ih => exact .cons (.inl rfl) (.inl rfl) ih

inductive Escaped : Blob → Blob → Prop where
  | nil : Escaped [] []
  | cons {piece bs b : Blob} {x : UInt8} (hx : Piece piece x) (hb : Escaped bs b) :
      Escaped (piece ++ bs) (x :: b)

theorem Escaped.reads (h : Escaped bs b) : unescape bs = some b := by
  induction h with
  | nil => rfl
  | cons hx _ ih => rw [hx.unescape, ih, Option.map_some]

theorem escaped_of_unescape (h : unescape bs = some b) : Escaped bs b := by
  fun_induction unescape bs generalizing b with
  | case1 =>
    cases h
    exact .nil
  | case2 bs ih =>
    obtain ⟨b, hb, rfl⟩ := Option.map_eq_some_iff.mp h
    exact .cons .doubled (ih hb)
  | case3 p q r bs _ ih =>
    simp only [Option.bind_eq_bind, Option.bind_eq_some_iff, Option.pure_def, Option.some.injEq] at h
    obtain ⟨x, hx, b, hb, rfl⟩ := h
    obtain ⟨i, j, k, hp, hq, hr, hvalue⟩ := octal?_eq_some_iff.mp hx
    obtain ⟨hi, rfl⟩ := octalDigit?_eq_some_iff.mp hp
    obtain ⟨hj, rfl⟩ := octalDigit?_eq_some_iff.mp hq
    obtain ⟨hk, rfl⟩ := octalDigit?_eq_some_iff.mp hr
    exact .cons (.octal hi hj hk hvalue) (ih hb)
  | case4 => cases h
  | case5 x bs _ _ hx ih =>
    obtain ⟨b, hb, rfl⟩ := Option.map_eq_some_iff.mp h
    exact .cons (.plain hx) (ih hb)

theorem unescape_eq_some_iff : unescape bs = some b ↔ Escaped bs b :=
  ⟨escaped_of_unescape, Escaped.reads⟩

/-- Why a scan ends early: the octets are of no form, or one behind the last was asked for. -/
inductive Stop where
  | malformed
  | outside
deriving DecidableEq, Repr

def octetAt (bs : Blob) (i : Nat) : Except Stop UInt8 :=
  match bs[i]? with
  | some x => .ok x
  | none => .error .outside

/-- The octets that stand in the text from position `i` on, behind those already found. Whether
there are enough octets is looked up behind a backslash only. -/
def scan (bs : Blob) (i : Nat) (found : Blob) : Except Stop Blob :=
  if i < bs.length then do
    let x ← octetAt bs i
    if x ≠ 0x5c then scan bs (i + 1) (found ++ [x])
    else if bs[i + 1]? = some 0x5c then scan bs (i + 2) (found ++ [0x5c])
    else if i + 4 ≤ bs.length then do
      let p ← octetAt bs (i + 1)
      let q ← octetAt bs (i + 2)
      let r ← octetAt bs (i + 3)
      match octal? p q r with
      | some x => scan bs (i + 4) (found ++ [x])
      | none => .error .malformed
    else .error .malformed
  else .ok found
termination_by bs.length - i

variable {i j : Nat} {found rest : Blob}

theorem drop_of_drop (hrest : bs.drop i = rest) (j : Nat) : bs.drop (i + j) = rest.drop j := by
  rw [← hrest, List.drop_drop]

theorem getElem?_of_drop (hrest : bs.drop i = rest) (j : Nat) : bs[i + j]? = rest[j]? := by
  rw [← hrest, List.getElem?_drop]

theorem octetAt_of_drop (hrest : bs.drop i = rest) (j : Nat) (hx : rest[j]? = some x) :
    octetAt bs (i + j) = .ok x := by
  rw [octetAt, getElem?_of_drop hrest, hx]

def octalHead? : Blob → Option UInt8
  | p :: q :: r :: _ => octal? p q r
  | _ => none

theorem scan_cons (hrest : bs.drop i = x :: rest) :
    scan bs i found =
      if x ≠ 0x5c then scan bs (i + 1) (found ++ [x])
      else if rest.head? = some 0x5c then scan bs (i + 2) (found ++ [0x5c])
      else (octalHead? rest).elim (.error .malformed) fun y ↦ scan bs (i + 4) (found ++ [y]) := by
  have hlength : rest.length + 1 = bs.length - i := by
    rw [← List.length_cons, ← hrest, List.length_drop]
  have hfirst : octetAt bs i = .ok x := octetAt_of_drop hrest 0 rfl
  have hsecond : bs[i + 1]? = rest.head? := by
    rw [getElem?_of_drop hrest 1, List.getElem?_cons_succ, List.head?_eq_getElem?]
  rw [scan, if_pos (by omega), hfirst, hsecond]
  simp only [bind, Except.bind]
  by_cases hx : x ≠ 0x5c
  · rw [if_pos hx, if_pos hx]
  rw [if_neg hx, if_neg hx]
  by_cases hdoubled : rest.head? = some 0x5c
  · rw [if_pos hdoubled, if_pos hdoubled]
  rw [if_neg hdoubled, if_neg hdoubled]
  -- The three reads stay inside exactly if three octets are left.
  match rest, hrest, hlength with
  | [], _, hlength | [_], _, hlength | [_, _], _, hlength =>
    simp only [List.length_cons, List.length_nil] at hlength
    rw [if_neg (by omega)]
    rfl
  | p :: q :: r :: tail, hrest, hlength =>
    simp only [List.length_cons] at hlength
    rw [if_pos (by omega), octetAt_of_drop hrest 1 rfl, octetAt_of_drop hrest 2 rfl,
      octetAt_of_drop hrest 3 rfl, octalHead?]
    cases hread : octal? p q r <;> simp only [hread, Option.elim]

/-- The scan finds what the octets from its position on stand for, and asks for no octet that is
not there. -/
theorem scan_of_drop (hrest : bs.drop i = rest) :
    scan bs i found = (unescape rest).elim (.error .malformed) fun b ↦ .ok (found ++ b) := by
  -- The pieces carry the induction: a piece moves the position by as much as it takes away.
  fun_induction unescape rest generalizing i found with
  | case1 =>
    have hend : ¬ i < bs.length := Nat.not_lt.mpr (List.drop_eq_nil_iff.mp hrest)
    rw [scan, if_neg hend, Option.elim_some, List.append_nil]
  | case2 tail ih =>
    have hdoubled : (0x5c :: tail).head? = some 0x5c := rfl
    rw [scan_cons hrest, if_neg (by decide), if_pos hdoubled, ih (drop_of_drop hrest 2)]
    cases unescape tail <;> simp
  | case3 p q r tail hp ih =>
    rw [scan_cons hrest, if_neg (by decide), if_neg (by simpa using hp), octalHead?]
    cases octal? p q r with
    | none => rfl
    | some x =>
      rw [Option.elim_some, ih (drop_of_drop hrest 4)]
      cases unescape tail <;> simp
  | case4 tail hdoubled hoctal =>
    have hhead : tail.head? ≠ some 0x5c := by
      intro h
      obtain ⟨tail, rfl⟩ := List.head?_eq_some_iff.mp h
      exact hdoubled tail rfl rfl
    have hshort : octalHead? tail = none := by
      unfold octalHead?
      split
      · exact absurd rfl (hoctal _ _ _ _ rfl)
      · rfl
    rw [scan_cons hrest, if_neg (by decide), if_neg hhead, hshort]
    rfl
  | case5 x tail _ _ hx ih =>
    rw [scan_cons hrest, if_pos hx, ih (drop_of_drop hrest 1)]
    cases unescape tail <;> simp

/-- The text is of the hexadecimal form, with these digits and any blanks between them. -/
def IsHexForm (cs digits : List Char) : Prop :=
  ∃ x rest, cs = '\\' :: x :: rest ∧ (x = 'x' ∨ x = 'X') ∧ digits = rest.filter (!isAsciiBlank ·)

theorem IsHexForm.decodeChars? (h : IsHexForm cs digits) :
    decodeChars? cs = Text.Hex.decode? digits := by
  obtain ⟨x, rest, rfl, rfl | rfl, rfl⟩ := h
  · rfl
  · rfl

theorem decodeChars?_of_not_hexForm (h : ¬ ∃ digits, IsHexForm cs digits) :
    decodeChars? cs = unescape (Text.Utf8.encodeChars cs) := by
  unfold Bytea.decodeChars?
  split
  · rename_i rest
    exact absurd ⟨_, 'x', rest, rfl, .inl rfl, rfl⟩ h
  · rename_i rest
    exact absurd ⟨_, 'X', rest, rfl, .inr rfl, rfl⟩ h
  · rfl

theorem decode_eq (text : String) :
    decode text = (decodeChars? text.toList).elim (.error (.parse text "bytea")) .ok := by
  rw [decode]
  cases decodeChars? text.toList <;> rfl

theorem decode_eq_ok_iff {text : String} :
    decode text = .ok b ↔ decodeChars? text.toList = some b := by
  rw [decode_eq]
  cases decodeChars? text.toList <;> simp

/-- A text of the hexadecimal form is read exactly if its digits are even in number, every other
text exactly if it consists of pieces of the escape form, which a scan by position finds without
leaving the text. All other texts are refused with the text as a whole, and both forms of any octets
are read as these. -/
theorem bytea_text_read (text : String) :
    (∀ digits, IsHexForm text.toList digits →
      ((∃ b, decode text = .ok b) ↔
        digits.length % 2 = 0 ∧ ∀ c ∈ digits, ∃ n < 16, IsHexDigit c n) ∧
      ∀ b, decode text = .ok b ↔ HexPairs digits b) ∧
    ((¬ ∃ digits, IsHexForm text.toList digits) →
      (∀ b, decode text = .ok b ↔ Escaped (Text.Utf8.encode text) b) ∧
      decode text = (scan (Text.Utf8.encode text) 0 []).mapError fun _ ↦ .parse text "bytea") ∧
    scan (Text.Utf8.encode text) 0 [] ≠ .error .outside ∧
    ((∀ b, decode text ≠ .ok b) → decode text = .error (.parse text "bytea")) ∧
    ∀ b, decode (String.ofList ('\\' :: 'x' :: Text.Hex.encode b)) = .ok b ∧
      decode (String.ofList (escape b)) = .ok b := by
  have hscan : scan (Text.Utf8.encode text) 0 [] =
      (unescape (Text.Utf8.encode text)).elim (.error .malformed) .ok := scan_of_drop List.drop_zero
  refine ⟨?_, ?_, ?_, ?_, fun b ↦ ⟨(hexPairs_encode b).decode, decode_escape b⟩⟩
  · intro digits h
    have hread : ∀ b, decode text = .ok b ↔ HexPairs digits b := by
      intro b
      rw [decode_eq_ok_iff, h.decodeChars?, decode?_eq_some_iff]
    refine ⟨?_, hread⟩
    simp only [hread]
    exact exists_hexPairs_iff
  · intro h
    have hchars : decodeChars? text.toList = unescape (Text.Utf8.encode text) :=
      decodeChars?_of_not_hexForm h
    refine ⟨?_, ?_⟩
    · intro b
      rw [decode_eq_ok_iff, hchars, unescape_eq_some_iff]
    · rw [hscan, decode_eq, hchars]
      cases unescape (Text.Utf8.encode text) <;> rfl
  · rw [hscan]
    cases unescape (Text.Utf8.encode text) <;> simp
  · intro h
    rw [decode_eq]
    cases hchars : decodeChars? text.toList with
    | none => rfl
    | some b => exact absurd (decode_eq_ok_iff.mpr hchars) (h b)

end SqlGateway.Postgres.Bytea
