import Mathlib.Data.List.TakeWhile
import SqlGateway.Text.Number

namespace SqlGateway.Text

theorem digitsFrom_eq (n : Nat) (cs : List Char) : digitsFrom n cs = Nat.ofDigitChars 10 cs n := rfl

theorem le_digitsFrom (n : Nat) (cs : List Char) : n ≤ digitsFrom n cs := by
  induction cs generalizing n with
  | nil => exact Nat.le_refl n
  | cons c cs ih =>
    calc n ≤ 10 * n + digitValue c := by omega
      _ ≤ digitsFrom n (c :: cs) := ih _

theorem isDigit_of_mem_toDigits {n : Nat} {c : Char} (h : c ∈ Nat.toDigits 10 n) : isDigit c :=
  Nat.isDigit_of_mem_toDigits (by decide) (by decide) h

theorem nat?_toDigits (n : Nat) : nat? (Nat.toDigits 10 n) = some n := by
  have hall : (Nat.toDigits 10 n).all isDigit = true := by
    rw [List.all_eq_true]
    intro c hc
    exact isDigit_of_mem_toDigits hc
  have hne : (Nat.toDigits 10 n).isEmpty = false := by
    rw [List.isEmpty_eq_false_iff]
    exact Nat.toDigits_ne_nil
  simp only [nat?, hne, hall, digitsFrom_eq, Nat.ofDigitChars_ten_toDigits]
  rfl

theorem splitSign_toDigits (n : Nat) :
    splitSign (Nat.toDigits 10 n) = (false, Nat.toDigits 10 n) := by
  unfold splitSign
  split
  · rename_i cs h
    have hdigit : isDigit '-' := isDigit_of_mem_toDigits (n := n) (by simp [h])
    cases hdigit
  · rename_i cs h
    have hdigit : isDigit '+' := isDigit_of_mem_toDigits (n := n) (by simp [h])
    cases hdigit
  · rfl

theorem toList_toString_ofNat (n : Nat) : (toString (n : Int)).toList = Nat.toDigits 10 n := by
  simp [Int.repr_eq_if, Nat.repr]

theorem toList_toString_neg (n : Nat) :
    (toString (-(n : Int) - 1)).toList = '-' :: Nat.toDigits 10 (n + 1) := by
  have hneg : ¬ 0 ≤ -(n : Int) - 1 := by omega
  have habs : (-(-(n : Int) - 1)).toNat = n + 1 := by omega
  rw [Int.toString_eq_repr, Int.repr_eq_if, if_neg hneg, habs]
  simp [Nat.repr]

theorem int?_toString (n : Int) : int? (toString n).toList = some n := by
  cases n with
  | ofNat n =>
    rw [Int.ofNat_eq_natCast, toList_toString_ofNat, int?, splitSign_toDigits]
    simp [nat?_toDigits]
  | negSucc n =>
    have hneg : Int.negSucc n = -(n : Int) - 1 := by omega
    have hsign : splitSign ('-' :: Nat.toDigits 10 (n + 1)) = (true, Nat.toDigits 10 (n + 1)) := rfl
    have hvalue : -((n + 1 : Nat) : Int) = -(n : Int) - 1 := by omega
    rw [hneg, toList_toString_neg, int?, hsign]
    simp only [nat?_toDigits]
    exact congrArg some hvalue

theorem intWithin?_toString (lo hi n : Int) :
    intWithin? lo hi (toString n).toList = if lo ≤ n ∧ n ≤ hi then some n else none := by
  rw [intWithin?, int?_toString, Option.filter_some]
  simp

theorem eq_or_isDigit_of_mem_toString {n : Int} {c : Char} (hc : c ∈ (toString n).toList) :
    c = '-' ∨ isDigit c := by
  cases n with
  | ofNat n =>
    rw [Int.ofNat_eq_natCast, toList_toString_ofNat] at hc
    exact .inr (isDigit_of_mem_toDigits hc)
  | negSucc n =>
    have hneg : Int.negSucc n = -(n : Int) - 1 := by omega
    rw [hneg, toList_toString_neg] at hc
    exact (List.mem_cons.mp hc).imp_right isDigit_of_mem_toDigits

theorem splitSign_toString (n : Int) :
    splitSign (toString n).toList = (decide (n < 0), Nat.toDigits 10 n.natAbs) := by
  cases n with
  | ofNat n =>
    have hpos : ¬ (n : Int) < 0 := by omega
    rw [Int.ofNat_eq_natCast, toList_toString_ofNat, splitSign_toDigits, Int.natAbs_natCast,
      decide_eq_false hpos]
  | negSucc n =>
    have hneg : Int.negSucc n = -(n : Int) - 1 := by omega
    have habs : (-(n : Int) - 1).natAbs = n + 1 := by omega
    have hlt : -(n : Int) - 1 < 0 := by omega
    rw [hneg, toList_toString_neg, habs, decide_eq_true hlt]
    rfl

/-- An optional sign and at least one digit, and the number that they stand for. -/
inductive Numeral : List Char → Int → Prop where
  | plain {ds : List Char} (hne : ds ≠ []) (hds : ∀ c ∈ ds, isDigit c) :
      Numeral ds (Nat.ofDigitChars 10 ds 0)
  | plus {ds : List Char} (hne : ds ≠ []) (hds : ∀ c ∈ ds, isDigit c) :
      Numeral ('+' :: ds) (Nat.ofDigitChars 10 ds 0)
  | minus {ds : List Char} (hne : ds ≠ []) (hds : ∀ c ∈ ds, isDigit c) :
      Numeral ('-' :: ds) (-(Nat.ofDigitChars 10 ds 0 : Nat))

variable {cs : List Char}

theorem nat?_eq_some_iff {n : Nat} :
    nat? cs = some n ↔ (cs ≠ [] ∧ ∀ c ∈ cs, isDigit c) ∧ Nat.ofDigitChars 10 cs 0 = n := by
  rw [nat?, digitsFrom_eq]
  split
  · rename_i h
    rw [Bool.and_eq_true, Bool.not_eq_true', List.isEmpty_eq_false_iff, List.all_eq_true] at h
    rw [Option.some_inj]
    exact (and_iff_right h).symm
  · rename_i h
    rw [Bool.and_eq_true, Bool.not_eq_true', List.isEmpty_eq_false_iff, List.all_eq_true] at h
    constructor
    · intro hn
      cases hn
    · intro hn
      exact absurd hn.1 h

theorem int?_eq (cs : List Char) :
    int? cs = (nat? (splitSign cs).2).map fun n : Nat ↦
      if (splitSign cs).1 then -(n : Int) else n := by
  rcases hsplit : splitSign cs with ⟨negative, rest⟩
  simp only [int?, hsplit]
  cases nat? rest <;> rfl

theorem int?_eq_some_iff {n : Int} : int? cs = some n ↔ Numeral cs n := by
  rw [int?_eq, Option.map_eq_some_iff]
  constructor
  · rintro ⟨m, hm, rfl⟩
    obtain ⟨⟨hne, hds⟩, rfl⟩ := nat?_eq_some_iff.mp hm
    unfold splitSign at hne hds ⊢
    split at hne <;> simp only at hds ⊢
    · exact .minus hne hds
    · exact .plus hne hds
    · exact .plain hne hds
  · intro h
    cases h with
    | plain hne hds =>
      have hsplit : splitSign cs = (false, cs) := by
        unfold splitSign
        split
        · exact absurd (hds '-' List.mem_cons_self) (by decide)
        · exact absurd (hds '+' List.mem_cons_self) (by decide)
        · rfl
      rw [hsplit]
      exact ⟨_, nat?_eq_some_iff.mpr ⟨⟨hne, hds⟩, rfl⟩, rfl⟩
    | plus hne hds => exact ⟨_, nat?_eq_some_iff.mpr ⟨⟨hne, hds⟩, rfl⟩, rfl⟩
    | minus hne hds => exact ⟨_, nat?_eq_some_iff.mpr ⟨⟨hne, hds⟩, rfl⟩, rfl⟩

theorem intWithin?_eq_some_iff {lo hi n : Int} :
    intWithin? lo hi cs = some n ↔ Numeral cs n ∧ lo ≤ n ∧ n ≤ hi := by
  rw [intWithin?, Option.filter_eq_some_iff, int?_eq_some_iff, decide_eq_true_eq]

theorem int32?_eq_some_iff {m : Int32} : int32? cs = some m ↔ Numeral cs m.toInt := by
  rw [int32?, Option.map_eq_some_iff]
  constructor
  · rintro ⟨n, hn, rfl⟩
    obtain ⟨hn, hlo, hhi⟩ := intWithin?_eq_some_iff.mp hn
    simp only [int32Min, int32Max] at hlo hhi
    rwa [Int32.toInt_ofInt_of_le (by omega) (by omega)]
  · intro h
    refine ⟨m.toInt, intWithin?_eq_some_iff.mpr ⟨h, ?_⟩, Int32.ofInt_toInt m⟩
    have hlo := m.le_toInt
    have hhi := m.toInt_lt
    simp only [int32Min, int32Max]
    omega

theorem int64?_eq_some_iff {m : Int64} : int64? cs = some m ↔ Numeral cs m.toInt := by
  rw [int64?, Option.map_eq_some_iff]
  constructor
  · rintro ⟨n, hn, rfl⟩
    obtain ⟨hn, hlo, hhi⟩ := intWithin?_eq_some_iff.mp hn
    simp only [int64Min, int64Max] at hlo hhi
    rwa [Int64.toInt_ofInt_of_le (by omega) (by omega)]
  · intro h
    refine ⟨m.toInt, intWithin?_eq_some_iff.mpr ⟨h, ?_⟩, Int64.ofInt_toInt m⟩
    have hlo := m.le_toInt
    have hhi := m.toInt_lt
    simp only [int64Min, int64Max]
    omega

theorem numeral_toString (n : Int) : Numeral (toString n).toList n :=
  int?_eq_some_iff.mp (int?_toString n)

theorem int64?_toString (m : Int64) : int64? (toString m.toInt).toList = some m :=
  int64?_eq_some_iff.mpr (numeral_toString m.toInt)

theorem int32?_toString (m : Int32) : int32? (toString m.toInt).toList = some m :=
  int32?_eq_some_iff.mpr (numeral_toString m.toInt)

theorem toNat_of_isDigit {c : Char} (h : isDigit c) : 48 ≤ c.toNat ∧ c.toNat ≤ 57 := by
  simp only [isDigit, Bool.and_eq_true, decide_eq_true_eq, Char.le_def, UInt32.le_iff_toNat_le] at h
  exact h

theorem isBlank_of_ascii {c : Char} (hlo : 32 < c.toNat) (hhi : c.toNat < 128) :
    isBlank c = false := by
  simp only [isBlank, inRanges, blankRanges, List.any_cons, List.any_nil, Bool.or_false,
    Bool.or_eq_false_iff, Bool.and_eq_false_iff, decide_eq_false_iff_not]
  omega

theorem isBlank_of_isDigit {c : Char} (h : isDigit c) : isBlank c = false := by
  obtain ⟨hlo, hhi⟩ := toNat_of_isDigit h
  exact isBlank_of_ascii (by omega) (by omega)

theorem isBlank_of_mem_toString {n : Int} {c : Char} (hc : c ∈ (toString n).toList) :
    isBlank c = false := by
  rcases eq_or_isDigit_of_mem_toString hc with rfl | hc
  · rfl
  · exact isBlank_of_isDigit hc

theorem trimChars_surrounded {before cs after : List Char} (hbefore : ∀ c ∈ before, isBlank c)
    (hafter : ∀ c ∈ after, isBlank c) (hcs : ∀ c ∈ cs, isBlank c = false) :
    trimChars (before ++ cs ++ after) = cs := by
  have hstop : ∀ {cs : List Char}, (∀ c ∈ cs, isBlank c = false) → cs.dropWhile isBlank = cs := by
    intro cs hcs
    cases cs with
    | nil => rfl
    | cons c cs => simp [hcs c List.mem_cons_self]
  have hback : ∀ c ∈ after.reverse, isBlank c := fun c hc ↦ hafter c (List.mem_reverse.mp hc)
  have hreverse : ∀ c ∈ cs.reverse, isBlank c = false := fun c hc ↦ hcs c (List.mem_reverse.mp hc)
  rw [trimChars, List.append_assoc, List.dropWhile_append_of_pos hbefore]
  cases cs with
  | nil => rw [List.nil_append, List.dropWhile_eq_nil_iff.mpr hafter]; rfl
  | cons c cs =>
    have hfront : (c :: cs ++ after).dropWhile isBlank = c :: cs ++ after := by
      simp [hcs c List.mem_cons_self]
    rw [hfront, List.reverse_append, List.dropWhile_append_of_pos hback, hstop hreverse,
      List.reverse_reverse]

theorem trimChars_eq_self (hcs : ∀ c ∈ cs, isBlank c = false) : trimChars cs = cs := by
  have h : trimChars ([] ++ cs ++ []) = cs := trimChars_surrounded (by simp) (by simp) hcs
  rwa [List.nil_append, List.append_nil] at h

theorem trimChars_toString (n : Int) : trimChars (toString n).toList = (toString n).toList :=
  trimChars_eq_self fun _ ↦ isBlank_of_mem_toString

theorem exists_trimmed (cs : List Char) :
    ∃ before after, cs = before ++ trimChars cs ++ after ∧ (∀ c ∈ before, isBlank c) ∧
      ∀ c ∈ after, isBlank c := by
  let back := (cs.dropWhile isBlank).reverse
  have hback : cs.dropWhile isBlank = trimChars cs ++ (back.takeWhile isBlank).reverse := by
    rw [trimChars, ← List.reverse_append, List.takeWhile_append_dropWhile, List.reverse_reverse]
  refine ⟨cs.takeWhile isBlank, (back.takeWhile isBlank).reverse, ?_,
    fun c hc ↦ List.mem_takeWhile_imp hc,
    fun c hc ↦ List.mem_takeWhile_imp (List.mem_reverse.mp hc)⟩
  rw [List.append_assoc, ← hback, List.takeWhile_append_dropWhile]

inductive Padded : List Char → Int → Prop where
  | mk {before cs after : List Char} {n : Int} (hbefore : ∀ c ∈ before, isBlank c)
      (hafter : ∀ c ∈ after, isBlank c) (h : Numeral cs n) : Padded (before ++ cs ++ after) n

theorem Numeral.not_blank {n : Int} (h : Numeral cs n) : ∀ c ∈ cs, isBlank c = false := by
  cases h with
  | plain hne hds => exact fun c hc ↦ isBlank_of_isDigit (hds c hc)
  | plus hne hds => exact List.forall_mem_cons.mpr ⟨rfl, fun c hc ↦ isBlank_of_isDigit (hds c hc)⟩
  | minus hne hds => exact List.forall_mem_cons.mpr ⟨rfl, fun c hc ↦ isBlank_of_isDigit (hds c hc)⟩

theorem numeral_trimChars_iff {n : Int} : Numeral (trimChars cs) n ↔ Padded cs n := by
  constructor
  · intro h
    obtain ⟨before, after, hcs, hbefore, hafter⟩ := exists_trimmed cs
    rw [hcs]
    exact .mk hbefore hafter h
  · rintro ⟨hbefore, hafter, h⟩
    rw [trimChars_surrounded hbefore hafter h.not_blank]
    exact h

theorem int?_trimChars_eq_some_iff {n : Int} : int? (trimChars cs) = some n ↔ Padded cs n :=
  int?_eq_some_iff.trans numeral_trimChars_iff

theorem padded_toString (n : Int) : Padded (toString n).toList n := by
  rw [← numeral_trimChars_iff, trimChars_toString]
  exact numeral_toString n

end SqlGateway.Text
