import Mathlib.Data.Nat.Find
import SqlGateway.Proofs.Text.Utf8
import SqlGateway.Text.Preview

namespace SqlGateway.Text

namespace Utf8

variable {b : UInt8} {bs : Bytes} {c : Char} {cs start other : List Char} {i n : ℕ}

theorem beginsCharacter_iff : beginsCharacter b ↔ b.toNat < 0x80 ∨ 0xc0 ≤ b.toNat := by
  rw [beginsCharacter, Bool.or_eq_true, decide_eq_true_iff, decide_eq_true_iff,
    UInt8.lt_iff_toNat_lt, UInt8.le_iff_toNat_le]
  rfl

theorem beginsCharacter_toUInt8 (h : n < 0x80 ∨ 0xc0 ≤ n ∧ n < 0x100) :
    beginsCharacter n.toUInt8 := by
  rw [beginsCharacter_iff, toNat_toUInt8 (by omega)]
  omega

theorem not_beginsCharacter_continuation (n : ℕ) : ¬ beginsCharacter (continuation n) := by
  rw [beginsCharacter_iff, toNat_continuation]
  omega

theorem exists_encodeChar (c : Char) :
    ∃ b rest, encodeChar c = b :: rest ∧ beginsCharacter b ∧ rest.length ≤ 3 ∧
      ∀ x ∈ rest, ¬ beginsCharacter x := by
  have hvalid := toNat_valid c
  simp only [encodeChar]
  generalize c.toNat = n at hvalid
  have hrest : ∀ ms : List ℕ, ∀ x ∈ ms.map continuation, ¬ beginsCharacter x := by
    intro ms x hx
    obtain ⟨m, -, rfl⟩ := List.mem_map.mp hx
    exact not_beginsCharacter_continuation m
  split_ifs with h₁ h₂ h₃
  · exact ⟨_, _, rfl, beginsCharacter_toUInt8 (by omega), Nat.zero_le 3, hrest []⟩
  · exact ⟨_, _, rfl, beginsCharacter_toUInt8 (by omega), Nat.le_add_left 1 2, hrest [n]⟩
  · exact ⟨_, _, rfl, beginsCharacter_toUInt8 (by omega), Nat.le_add_left 2 1,
      hrest [n / 0x40, n]⟩
  · exact ⟨_, _, rfl, beginsCharacter_toUInt8 (by omega), Nat.le_refl 3,
      hrest [n / 0x1000, n / 0x40, n]⟩

theorem length_encodeChar_bounds (c : Char) :
    0 < (encodeChar c).length ∧ (encodeChar c).length ≤ 4 := by
  obtain ⟨b, rest, hc, -, hrest, -⟩ := exists_encodeChar c
  rw [hc, List.length_cons]
  omega

theorem length_encodeChars_cons (c : Char) (cs : List Char) :
    (encodeChars (c :: cs)).length = (encodeChar c).length + (encodeChars cs).length := by
  rw [encodeChars_cons, List.length_append]

theorem isBoundary_zero (bs : Bytes) : isBoundary bs 0 := rfl

theorem isBoundary_behind (c : Char) (cs : List Char) (i : ℕ) :
    isBoundary (encodeChars (c :: cs)) ((encodeChar c).length + i) =
      isBoundary (encodeChars cs) i := by
  have hpos := (length_encodeChar_bounds c).1
  have hne : ((encodeChar c).length + i == 0) = false := by
    rw [beq_eq_false_iff_ne]
    omega
  have hoctet : (encodeChar c ++ encodeChars cs)[(encodeChar c).length + i]? =
      (encodeChars cs)[i]? := by
    rw [List.getElem?_append_right (Nat.le_add_right _ _), Nat.add_sub_cancel_left]
  have hend : ((encodeChar c).length + i == (encodeChar c ++ encodeChars cs).length) =
      (i == (encodeChars cs).length) := by
    rw [List.length_append, Bool.eq_iff_iff, beq_iff_eq, beq_iff_eq]
    omega
  rw [encodeChars_cons, isBoundary, isBoundary, hne, hoctet, hend, Bool.false_or]
  cases i with
  | succ i => rfl
  | zero =>
    -- The next character begins here, if there is one.
    cases cs with
    | nil => rfl
    | cons d cs =>
      obtain ⟨b, rest, hd, hb, -, -⟩ := exists_encodeChar d
      rw [encodeChars_cons, hd]
      exact hb

theorem not_isBoundary_inside (hi : i + 1 < (encodeChar c).length) :
    ¬ isBoundary (encodeChars (c :: cs)) (i + 1) := by
  obtain ⟨b, rest, hc, -, -, hrest⟩ := exists_encodeChar c
  rw [hc, List.length_cons] at hi
  have hlt : i < rest.length := by omega
  have hoctet : (encodeChars (c :: cs))[i + 1]? = some rest[i] := by
    rw [encodeChars_cons, hc, List.cons_append, List.getElem?_cons_succ,
      List.getElem?_append_left hlt, List.getElem?_eq_getElem hlt]
  have hinside := hrest rest[i] (List.getElem_mem hlt)
  simpa only [isBoundary, hoctet, Nat.succ_ne_zero, beq_iff_eq, Bool.or_eq_true, false_or]
    using hinside

theorem isBoundary_iff :
    isBoundary (encodeChars cs) i ↔ ∃ start, start <+: cs ∧ (encodeChars start).length = i := by
  constructor
  · intro h
    induction cs generalizing i with
    | nil =>
      refine ⟨[], List.prefix_rfl, ?_⟩
      cases i with
      | zero => rfl
      | succ i => cases h
    | cons c cs ih =>
      rcases Nat.lt_or_ge i (encodeChar c).length with hi | hi
      · cases i with
        | zero => exact ⟨[], List.nil_prefix, rfl⟩
        | succ i => exact absurd h (not_isBoundary_inside hi)
      · obtain ⟨i, rfl⟩ := Nat.exists_eq_add_of_le hi
        rw [isBoundary_behind] at h
        obtain ⟨start, hstart, rfl⟩ := ih h
        exact ⟨c :: start, List.cons_prefix_cons.mpr ⟨rfl, hstart⟩, length_encodeChars_cons c start⟩
  · rintro ⟨start, hstart, rfl⟩
    induction start generalizing cs with
    | nil => exact isBoundary_zero _
    | cons c start ih =>
      obtain ⟨rest, rfl⟩ := hstart
      rw [length_encodeChars_cons, List.cons_append, isBoundary_behind]
      exact ih (List.prefix_append start rest)

theorem boundaryDown?_eq (bs : Bytes) (i : ℕ) :
    boundaryDown? bs i = some (Nat.findGreatest (isBoundary bs ·) i) := by
  induction i with
  | zero => rfl
  | succ i ih =>
    rw [boundaryDown?, Nat.findGreatest_succ, ih]
    split <;> rfl

theorem upTo?_start (h : start <+: cs) :
    upTo? (encodeChars cs) (encodeChars start).length = some (String.ofList start) := by
  have hboundary := isBoundary_iff.mpr ⟨start, h, rfl⟩
  obtain ⟨rest, rfl⟩ := h
  rw [upTo?, if_pos hboundary, encodeChars_append, List.take_left, decode?,
    decodeChars?_encodeChars, Option.map_some]

theorem prefix_of_length_le (hstart : start <+: cs) (hother : other <+: cs)
    (h : (encodeChars start).length ≤ (encodeChars other).length) : start <+: other := by
  rcases List.prefix_or_prefix_of_prefix hstart hother with hprefix | ⟨rest, rfl⟩
  · exact hprefix
  · cases rest with
    | nil => simp only [List.append_nil, List.prefix_rfl]
    | cons c rest =>
      have hpos := (length_encodeChar_bounds c).1
      rw [encodeChars_append, List.length_append, length_encodeChars_cons] at h
      omega

/-- Of the starts of a text that have at most `n` octets, the longest. -/
structure LongestStart (n : ℕ) (cs start : List Char) : Prop where
  isStart : start <+: cs
  fits : (encodeChars start).length ≤ n
  longest : ∀ other, other <+: cs → (encodeChars other).length ≤ n → other <+: start

theorem LongestStart.whole (h : (encodeChars cs).length ≤ n) : LongestStart n cs cs :=
  ⟨List.prefix_rfl, h, fun _ hother _ ↦ hother⟩

theorem LongestStart.lt_length (h : LongestStart n cs start) (hlong : n < (encodeChars cs).length) :
    n < (encodeChars start).length + 4 := by
  obtain ⟨rest, rfl⟩ := h.isStart
  cases rest with
  | nil =>
    have hfits := h.fits
    rw [List.append_nil] at hlong
    omega
  | cons c rest =>
    have hnext : start ++ [c] <+: start ++ c :: rest :=
      (List.prefix_append_right_inj start).mpr ⟨rest, rfl⟩
    have hlength : (encodeChars (start ++ [c])).length =
        (encodeChars start).length + (encodeChar c).length := by
      rw [encodeChars_append, List.length_append, length_encodeChars_cons]
      rfl
    have hoctets := (length_encodeChar_bounds c).2
    by_contra hshort
    have hlonger := (h.longest _ hnext (by omega)).length_le
    rw [List.length_append, List.length_singleton] at hlonger
    omega

theorem exists_longestStart (cs : List Char) (n : ℕ) :
    ∃ i ≤ n, ∃ start, boundaryDown? (encodeChars cs) n = some i ∧
      upTo? (encodeChars cs) i = some (String.ofList start) ∧ LongestStart n cs start := by
  have hboundary := Nat.findGreatest_spec (P := (isBoundary (encodeChars cs) ·)) n.zero_le
    (isBoundary_zero _)
  obtain ⟨start, hstart, hlength⟩ := isBoundary_iff.mp hboundary
  have hle := Nat.findGreatest_le (P := (isBoundary (encodeChars cs) ·)) n
  refine ⟨_, hle, start, boundaryDown?_eq _ n, ?_, hstart, ?_, ?_⟩
  · rw [← hlength]
    exact upTo?_start hstart
  · rwa [hlength]
  · intro other hother hfits
    have hgreatest := Nat.le_findGreatest (P := (isBoundary (encodeChars cs) ·)) hfits
      (isBoundary_iff.mpr ⟨other, hother, rfl⟩)
    rw [← hlength] at hgreatest
    exact prefix_of_length_le hother hstart hgreatest

end Utf8

open Utf8

theorem preview?_short {sql : String} (h : (encode (trim sql)).length ≤ 120) :
    preview? sql = some (trim sql) := by
  rw [preview?]
  exact if_pos h

theorem preview?_long {sql : String} (h : 120 < (encode (trim sql)).length) :
    ∃ start, preview? sql = some start ∧ LongestStart 120 (trim sql).toList start.toList := by
  obtain ⟨i, -, start, hdown, hcut, hlongest⟩ := exists_longestStart (trim sql).toList 120
  refine ⟨String.ofList start, ?_, ?_⟩
  · rw [preview?]
    simp only [if_neg (Nat.not_le.mpr h)]
    rw [encode, hdown]
    exact hcut
  · rwa [String.toList_ofList]

/-- The preview of a statement is the longest start of its trimmed text that has at most 120 octets.
The place to cut at is found for every text, and at most three octets are given up for it. -/
theorem preview_longest (sql : String) :
    (∃ i ≤ 120, boundaryDown? (encode (trim sql)) 120 = some i) ∧
    preview? sql = some (preview sql) ∧
    LongestStart 120 (trim sql).toList (preview sql).toList ∧
    ((encode (trim sql)).length ≤ 120 → preview sql = trim sql) ∧
    (120 < (encode (trim sql)).length → 117 ≤ (encode (preview sql)).length) := by
  obtain ⟨i, hi, -, hdown, -⟩ := exists_longestStart (trim sql).toList 120
  refine ⟨⟨i, hi, hdown⟩, ?_⟩
  rcases Nat.lt_or_ge 120 (encode (trim sql)).length with hlong | hshort
  · obtain ⟨start, hstart, hlongest⟩ := preview?_long hlong
    have hpreview : preview sql = start := by rw [preview, hstart, Option.getD_some]
    rw [hpreview]
    refine ⟨hstart, hlongest, fun hshort ↦ absurd hlong (Nat.not_lt.mpr hshort), fun _ ↦ ?_⟩
    have hlt := hlongest.lt_length hlong
    rw [encode]
    omega
  · have hwhole := preview?_short hshort
    have hpreview : preview sql = trim sql := by rw [preview, hwhole, Option.getD_some]
    rw [hpreview]
    exact ⟨hwhole, .whole hshort, fun _ ↦ rfl, fun hlong ↦ absurd hlong (Nat.not_lt.mpr hshort)⟩

theorem preview_longest_wide :
    let sql := String.ofList (' ' :: 'a' :: List.replicate 40 '😀')
    120 < (encode (trim sql)).length ∧ 117 ≤ (encode (preview sql)).length ∧
    'a' :: List.replicate 29 '😀' <+: (preview sql).toList ∧
    preview " SELECT 1 " = trim " SELECT 1 " := by
  intro sql
  obtain ⟨-, -, hlongest, -, hlong⟩ := preview_longest sql
  obtain ⟨-, -, -, hshort, -⟩ := preview_longest " SELECT 1 "
  have htrim : (trim sql).toList = 'a' :: List.replicate 40 '😀' := by
    rw [trim, String.toList_ofList, String.toList_ofList]
    decide +kernel
  have hlength : 120 < (encode (trim sql)).length := by
    rw [encode, htrim]
    decide +kernel
  have hstart : 'a' :: List.replicate 29 '😀' <+: (trim sql).toList := by
    rw [htrim]
    exact ⟨List.replicate 11 '😀', rfl⟩
  exact ⟨hlength, hlong hlength, hlongest.longest _ hstart (by decide +kernel),
    hshort (by decide +kernel)⟩

end SqlGateway.Text
