import Mathlib.Tactic.SplitIfs
import SqlGateway.Text.Utf8

namespace SqlGateway.Text.Utf8

theorem toNat_valid (c : Char) : c.toNat < 0xd800 ∨ 0xdfff < c.toNat ∧ c.toNat < 0x110000 := c.valid

theorem toNat_ofNat {n : Nat} (h : n < 0xd800 ∨ 0xdfff < n ∧ n < 0x110000) :
    (Char.ofNat n).toNat = n := by
  have hn : n.isValidChar := h
  rw [Char.ofNat, dif_pos hn]
  rfl

theorem toNat_toUInt8 {n : Nat} (h : n < 0x100) : n.toUInt8.toNat = n :=
  UInt8.toNat_ofNat_of_lt h

theorem toUInt8_toNat {b : UInt8} {n : Nat} (h : n = b.toNat) : n.toUInt8 = b := by
  subst h
  exact UInt8.ofNat_toNat

@[simp]
theorem toNat_continuation (n : Nat) : (continuation n).toNat = 0x80 + n % 0x40 := by
  simp only [continuation, Nat.toUInt8_eq, UInt8.toNat_ofNat']
  omega

theorem continuation_toNat {b : UInt8} (h : 0x80 ≤ b.toNat ∧ b.toNat ≤ 0xbf) {n : Nat}
    (hn : n % 0x40 = b.toNat % 0x40) : continuation n = b := by
  rw [← UInt8.toNat_inj, toNat_continuation]
  omega

section Announced

variable {b : Nat}

theorem announced_one (h : b < 0x80) : announced b = some (b, []) := by simp [announced, h]

theorem announced_two (h : 0xc2 ≤ b ∧ b < 0xe0) :
    announced b = some (b - 0xc0, [(0x80, 0xbf)]) := by
  simp only [announced]
  rw [if_neg (by omega), if_neg (by omega), if_pos (by omega)]

/-- The range behind the first octet leaves out numbers that are written shorter, and surrogates. -/
theorem announced_three (h : 0xe0 ≤ b ∧ b < 0xf0) :
    announced b = some (b - 0xe0,
      [(if b = 0xe0 then 0xa0 else 0x80, if b = 0xed then 0x9f else 0xbf), (0x80, 0xbf)]) := by
  simp only [announced, beq_iff_eq]
  rw [if_neg (by omega), if_neg (by omega), if_neg (by omega)]
  by_cases h₁ : b = 0xe0
  · simp [h₁]
  by_cases h₂ : b = 0xed
  · simp [h₂]
  rw [if_neg h₁, if_neg h₂, if_pos h.2, if_neg h₁, if_neg h₂]

theorem announced_four (h : 0xf0 ≤ b ∧ b < 0xf5) :
    announced b = some (b - 0xf0,
      [(if b = 0xf0 then 0x90 else 0x80, if b = 0xf4 then 0x8f else 0xbf), (0x80, 0xbf),
        (0x80, 0xbf)]) := by
  simp only [announced, beq_iff_eq]
  rw [if_neg (by omega), if_neg (by omega), if_neg (by omega), if_neg (by omega), if_neg (by omega),
    if_neg (by omega)]
  by_cases h₁ : b = 0xf0
  · simp [h₁]
  by_cases h₂ : b = 0xf4
  · simp [h₂]
  rw [if_neg h₁, if_pos (by omega), if_neg h₁, if_neg h₂]

theorem announced_none (h : 0x80 ≤ b ∧ b < 0xc2 ∨ 0xf5 ≤ b) : announced b = none := by
  simp only [announced, beq_iff_eq]
  split_ifs <;> first | rfl | omega

end Announced

variable {n m lo hi : Nat} {ranges : List (Nat × Nat)} {bs rest : Bytes}

theorem follow_continuation (h : lo ≤ 0x80 + m % 0x40 ∧ 0x80 + m % 0x40 ≤ hi) :
    follow n ((lo, hi) :: ranges) (continuation m :: bs) =
      follow (n * 0x40 + m % 0x40) ranges bs := by
  have hm : (0x80 + m % 0x40) % 0x40 = m % 0x40 := by omega
  rw [follow, toNat_continuation, if_pos h, hm]

theorem follow_cons_some (h : follow n ((lo, hi) :: ranges) bs = (some m, rest)) :
    ∃ b bs', bs = b :: bs' ∧ lo ≤ b.toNat ∧ b.toNat ≤ hi ∧
      follow (n * 0x40 + b.toNat % 0x40) ranges bs' = (some m, rest) := by
  cases bs with
  | nil => cases h
  | cons b bs =>
    rw [follow] at h
    split at h
    · rename_i hb
      exact ⟨b, bs, rfl, hb.1, hb.2, h⟩
    · cases h

theorem head_encodeChar (c : Char) (rest : Bytes) :
    ∃ b bs, encodeChar c ++ rest = b :: bs ∧ head b bs = (some c.toNat, rest) := by
  have hvalid := toNat_valid c
  simp only [encodeChar]
  generalize c.toNat = n at hvalid
  split_ifs with h₁ h₂ h₃
  · refine ⟨_, _, rfl, ?_⟩
    have hb : (n.toUInt8).toNat = n := toNat_toUInt8 (by omega)
    simp only [head, hb, announced_one h₁, follow, List.nil_append, List.append_eq]
  · refine ⟨_, _, rfl, ?_⟩
    have hb : ((0xc0 + n / 0x40).toUInt8).toNat = 0xc0 + n / 0x40 := toNat_toUInt8 (by omega)
    have hn : (0xc0 + n / 0x40 - 0xc0) * 0x40 + n % 0x40 = n := by omega
    simp only [head, hb, announced_two (b := 0xc0 + n / 0x40) (by omega), List.cons_append,
      List.nil_append, List.append_eq]
    rw [follow_continuation (by omega), follow, hn]
  · refine ⟨_, _, rfl, ?_⟩
    have hb : ((0xe0 + n / 0x1000).toUInt8).toNat = 0xe0 + n / 0x1000 := toNat_toUInt8 (by omega)
    have hn : ((0xe0 + n / 0x1000 - 0xe0) * 0x40 + n / 0x40 % 0x40) * 0x40 + n % 0x40 = n := by
      omega
    simp only [head, hb, announced_three (b := 0xe0 + n / 0x1000) (by omega), List.cons_append,
      List.nil_append, List.append_eq]
    rw [follow_continuation (by split_ifs <;> omega), follow_continuation (by omega), follow, hn]
  · refine ⟨_, _, rfl, ?_⟩
    have hb : ((0xf0 + n / 0x40000).toUInt8).toNat = 0xf0 + n / 0x40000 := toNat_toUInt8 (by omega)
    have hn : (((0xf0 + n / 0x40000 - 0xf0) * 0x40 + n / 0x1000 % 0x40) * 0x40 + n / 0x40 % 0x40)
        * 0x40 + n % 0x40 = n := by omega
    simp only [head, hb, announced_four (b := 0xf0 + n / 0x40000) (by omega), List.cons_append,
      List.nil_append, List.append_eq]
    rw [follow_continuation (by split_ifs <;> omega), follow_continuation (by omega),
      follow_continuation (by omega), follow, hn]

theorem encodeChar_of_head {b : UInt8} (h : head b bs = (some n, rest)) :
    encodeChar (Char.ofNat n) ++ rest = b :: bs := by
  have hlt := b.toNat_lt
  simp only [head] at h
  by_cases h₁ : b.toNat < 0x80
  · simp only [announced_one h₁, follow, Prod.mk.injEq, Option.some.injEq] at h
    obtain ⟨rfl, rfl⟩ := h
    simp [encodeChar, toNat_ofNat (n := b.toNat) (by omega), h₁]
  by_cases h₂ : 0xc2 ≤ b.toNat ∧ b.toNat < 0xe0
  · simp only [announced_two h₂] at h
    obtain ⟨b₁, bs, rfl, hlo, hhi, h⟩ := follow_cons_some h
    simp only [follow, Prod.mk.injEq, Option.some.injEq] at h
    obtain ⟨hn, rfl⟩ := h
    rw [encodeChar, toNat_ofNat (by omega), if_neg (by omega), if_pos (by omega),
      toUInt8_toNat (b := b) (by omega), continuation_toNat ⟨hlo, hhi⟩ (by omega)]
    rfl
  by_cases h₃ : 0xe0 ≤ b.toNat ∧ b.toNat < 0xf0
  · simp only [announced_three h₃] at h
    obtain ⟨b₁, bs, rfl, hlo, hhi, h⟩ := follow_cons_some h
    obtain ⟨b₂, bs, rfl, hlo₂, hhi₂, h⟩ := follow_cons_some h
    simp only [follow, Prod.mk.injEq, Option.some.injEq] at h
    obtain ⟨hn, rfl⟩ := h
    have hb₁ : 0x80 ≤ b₁.toNat ∧ b₁.toNat ≤ 0xbf := by split_ifs at hlo hhi <;> omega
    have hshort : b.toNat = 0xe0 → 0xa0 ≤ b₁.toNat := fun hb ↦ by simpa [hb] using hlo
    have hsurrogate : b.toNat = 0xed → b₁.toNat ≤ 0x9f := fun hb ↦ by simpa [hb] using hhi
    rw [encodeChar, toNat_ofNat (by omega), if_neg (by omega), if_neg (by omega),
      if_pos (by omega), toUInt8_toNat (b := b) (by omega), continuation_toNat hb₁ (by omega),
      continuation_toNat ⟨hlo₂, hhi₂⟩ (by omega)]
    rfl
  by_cases h₄ : 0xf0 ≤ b.toNat ∧ b.toNat < 0xf5
  · simp only [announced_four h₄] at h
    obtain ⟨b₁, bs, rfl, hlo, hhi, h⟩ := follow_cons_some h
    obtain ⟨b₂, bs, rfl, hlo₂, hhi₂, h⟩ := follow_cons_some h
    obtain ⟨b₃, bs, rfl, hlo₃, hhi₃, h⟩ := follow_cons_some h
    simp only [follow, Prod.mk.injEq, Option.some.injEq] at h
    obtain ⟨hn, rfl⟩ := h
    have hb₁ : 0x80 ≤ b₁.toNat ∧ b₁.toNat ≤ 0xbf := by split_ifs at hlo hhi <;> omega
    have hshort : b.toNat = 0xf0 → 0x90 ≤ b₁.toNat := fun hb ↦ by simpa [hb] using hlo
    have hlast : b.toNat = 0xf4 → b₁.toNat ≤ 0x8f := fun hb ↦ by simpa [hb] using hhi
    rw [encodeChar, toNat_ofNat (by omega), if_neg (by omega), if_neg (by omega),
      if_neg (by omega), toUInt8_toNat (b := b) (by omega), continuation_toNat hb₁ (by omega),
      continuation_toNat ⟨hlo₂, hhi₂⟩ (by omega), continuation_toNat ⟨hlo₃, hhi₃⟩ (by omega)]
    rfl
  · rw [announced_none (by omega)] at h
    cases h

theorem encodeChars_append (cs rest : List Char) :
    encodeChars (cs ++ rest) = encodeChars cs ++ encodeChars rest := List.flatMap_append

theorem encodeChars_cons (c : Char) (cs : List Char) :
    encodeChars (c :: cs) = encodeChar c ++ encodeChars cs := List.flatMap_cons

theorem decodeChars?_encodeChars (cs : List Char) : decodeChars? (encodeChars cs) = some cs := by
  induction cs with
  | nil => simp [encodeChars, decodeChars?]
  | cons c cs ih =>
    obtain ⟨b, bs, hbs, hhead⟩ := head_encodeChar c (encodeChars cs)
    have hcons : encodeChars (c :: cs) = b :: bs := by rw [← hbs, encodeChars_cons]
    rw [hcons, decodeChars?]
    simp only [hhead, ih, Option.map_some, Char.ofNat_toNat]

theorem encodeChars_of_decodeChars? {bs : Bytes} {cs : List Char}
    (h : decodeChars? bs = some cs) : encodeChars cs = bs := by
  fun_induction decodeChars? bs generalizing cs with
  | case1 => cases h; rfl
  | case2 b bs _ n hn ih =>
    obtain ⟨cs, hcs, rfl⟩ := Option.map_eq_some_iff.mp h
    rw [encodeChars_cons, ih hcs]
    exact encodeChar_of_head (Prod.ext hn rfl)
  | case3 b bs _ hn => cases h

theorem decode?_eq_some_iff {bs : Bytes} {s : String} : decode? bs = some s ↔ encode s = bs := by
  constructor
  · intro h
    obtain ⟨cs, hcs, rfl⟩ := Option.map_eq_some_iff.mp h
    rw [encode, String.toList_ofList]
    exact encodeChars_of_decodeChars? hcs
  · rintro rfl
    simp [decode?, encode, decodeChars?_encodeChars]

theorem decodeLossy_of_decodeChars? {bs : Bytes} {cs : List Char}
    (h : decodeChars? bs = some cs) : decodeLossy bs = cs := by
  fun_induction decodeChars? bs generalizing cs with
  | case1 =>
    cases h
    rw [decodeLossy]
  | case2 b bs _ n hn ih =>
    obtain ⟨rest, hrest, rfl⟩ := Option.map_eq_some_iff.mp h
    rw [decodeLossy, hn, ih hrest]
  | case3 b bs _ hn => cases h

theorem lossy_encode (s : String) : lossy (encode s) = s := by
  rw [lossy, encode, decodeLossy_of_decodeChars? (decodeChars?_encodeChars s.toList),
    String.ofList_toList]

end SqlGateway.Text.Utf8
