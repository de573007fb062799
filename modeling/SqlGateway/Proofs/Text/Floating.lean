import SqlGateway.Proofs.Text.Number

namespace SqlGateway.Text

inductive Exponent : List Char → Int → Prop where
  | absent : Exponent [] 0
  | written {mark : Char} {cs : List Char} {e : Int} (hmark : mark = 'e' ∨ mark = 'E')
      (he : Numeral cs e) : Exponent (mark :: cs) e

inductive Decimal (negative : Bool) : List Char → Double → Prop where
  | whole {ds tail : List Char} {e : Int} (hne : ds ≠ []) (hds : ∀ c ∈ ds, isDigit c)
      (htail : Exponent tail e) :
      Decimal negative (ds ++ tail) (Double.ofDecimal negative (Nat.ofDigitChars 10 ds 0) e)
  | pointed {ds places tail : List Char} {e : Int} (hne : ds ++ places ≠ [])
      (hds : ∀ c ∈ ds ++ places, isDigit c) (htail : Exponent tail e) :
      Decimal negative (ds ++ '.' :: (places ++ tail))
        (Double.ofDecimal negative (Nat.ofDigitChars 10 (ds ++ places) 0) (e - places.length))

/-- A number without its sign. The names are read in either case. -/
inductive Magnitude (negative : Bool) : List Char → Double → Prop where
  | decimal {cs : List Char} {x : Double} (h : Decimal negative cs x) : Magnitude negative cs x
  | infinity {cs : List Char}
      (hname : cs.map lowerAscii = ['i', 'n', 'f'] ∨
        cs.map lowerAscii = ['i', 'n', 'f', 'i', 'n', 'i', 't', 'y']) :
      Magnitude negative cs (Double.infinity negative)
  | nan {cs : List Char} (hname : cs.map lowerAscii = ['n', 'a', 'n']) :
      Magnitude negative cs (if negative then Double.nan.neg else Double.nan)

inductive Floating : List Char → Double → Prop where
  | plain {cs : List Char} {x : Double} (h : Magnitude false cs x) : Floating cs x
  | plus {cs : List Char} {x : Double} (h : Magnitude false cs x) : Floating ('+' :: cs) x
  | minus {cs : List Char} {x : Double} (h : Magnitude true cs x) : Floating ('-' :: cs) x

variable {negative : Bool} {cs ds tail : List Char} {x : Double} {e : Int}

theorem exponent?_eq_some_iff : exponent? cs = some e ↔ Exponent cs e := by
  cases cs with
  | nil =>
    rw [exponent?, Option.some_inj]
    constructor
    · rintro rfl
      exact .absent
    · rintro ⟨⟩
      rfl
  | cons mark cs =>
    rw [exponent?]
    constructor
    · intro h
      split at h
      · rename_i hmark
        exact .written hmark (int?_eq_some_iff.mp h)
      · cases h
    · rintro ⟨⟩
      rename_i hmark he
      rw [if_pos hmark]
      exact int?_eq_some_iff.mpr he

theorem Exponent.head (h : Exponent tail e) : ∀ c ∈ tail.head?, isDigit c = false ∧ c ≠ '.' := by
  intro c hc
  cases h with
  | absent => cases hc
  | written hmark =>
    cases hc
    rcases hmark with rfl | rfl <;> exact ⟨rfl, by decide⟩

theorem split_digits (hds : ∀ c ∈ ds, isDigit c) (htail : ∀ c ∈ tail.head?, isDigit c = false) :
    (ds ++ tail).takeWhile isDigit = ds ∧ (ds ++ tail).dropWhile isDigit = tail := by
  rw [List.takeWhile_append_of_pos hds, List.dropWhile_append_of_pos hds]
  cases tail with
  | nil => exact ⟨List.append_nil ds, rfl⟩
  | cons c tail =>
    have hc : isDigit c = false := htail c rfl
    rw [List.takeWhile_cons_of_neg (by simp [hc]), List.dropWhile_cons_of_neg (by simp [hc]),
      List.append_nil]
    exact ⟨rfl, rfl⟩

theorem exists_digits (cs : List Char) :
    ∃ ds tail, cs = ds ++ tail ∧ (∀ c ∈ ds, isDigit c) ∧ ∀ c ∈ tail.head?, isDigit c = false := by
  refine ⟨cs.takeWhile isDigit, cs.dropWhile isDigit, List.takeWhile_append_dropWhile.symm,
    fun c hc ↦ List.mem_takeWhile_imp hc, fun c hc ↦ ?_⟩
  have hhead := List.head?_dropWhile_not isDigit cs
  rw [Option.mem_def.mp hc] at hhead
  exact hhead

theorem decimal?_whole (hds : ∀ c ∈ ds, isDigit c)
    (htail : ∀ c ∈ tail.head?, isDigit c = false ∧ c ≠ '.') :
    decimal? negative (ds ++ tail) =
      if ds = [] then none
      else (exponent? tail).map (Double.ofDecimal negative (Nat.ofDigitChars 10 ds 0)) := by
  obtain ⟨htake, hdrop⟩ := split_digits hds fun c hc ↦ (htail c hc).1
  simp only [decimal?, htake, hdrop]
  cases tail with
  | nil => simp [digitsFrom_eq]
  | cons c tail =>
    have hc : c ≠ '.' := (htail c rfl).2
    simp [hc, digitsFrom_eq]

theorem decimal?_pointed {places : List Char} (hds : ∀ c ∈ ds ++ places, isDigit c)
    (htail : ∀ c ∈ tail.head?, isDigit c = false) :
    decimal? negative (ds ++ '.' :: (places ++ tail)) =
      if ds ++ places = [] then none
      else (exponent? tail).map fun e ↦
        Double.ofDecimal negative (Nat.ofDigitChars 10 (ds ++ places) 0) (e - places.length) := by
  have hpoint : ∀ c ∈ ('.' :: (places ++ tail)).head?, isDigit c = false := by
    rintro c ⟨⟩
    rfl
  obtain ⟨htake, hdrop⟩ := split_digits (fun c hc ↦ hds c (List.mem_append_left _ hc)) hpoint
  obtain ⟨htake', hdrop'⟩ := split_digits (fun c hc ↦ hds c (List.mem_append_right _ hc)) htail
  simp only [decimal?, htake, hdrop, htake', hdrop', digitsFrom_eq, List.append_eq_nil_iff,
    Bool.and_eq_true, List.isEmpty_iff]

theorem decimal?_eq_some_iff : decimal? negative cs = some x ↔ Decimal negative cs x := by
  constructor
  · intro h
    obtain ⟨ds, rest, rfl, hds, hrest⟩ := exists_digits cs
    -- only the point behind the digits tells the two forms apart
    by_cases hpoint : ∃ after, rest = '.' :: after
    · obtain ⟨after, rfl⟩ := hpoint
      obtain ⟨places, tail, rfl, hplaces, htail⟩ := exists_digits after
      have hall : ∀ c ∈ ds ++ places, isDigit c := by
        intro c hc
        exact (List.mem_append.mp hc).elim (hds c) (hplaces c)
      rw [decimal?_pointed hall htail] at h
      split at h
      · cases h
      · rename_i hne
        obtain ⟨e, he, rfl⟩ := Option.map_eq_some_iff.mp h
        exact .pointed hne hall (exponent?_eq_some_iff.mp he)
    · have hhead : ∀ c ∈ rest.head?, isDigit c = false ∧ c ≠ '.' := by
        intro c hc
        refine ⟨hrest c hc, ?_⟩
        rintro rfl
        obtain ⟨after, rfl⟩ := List.head?_eq_some_iff.mp hc
        exact hpoint ⟨after, rfl⟩
      rw [decimal?_whole hds hhead] at h
      split at h
      · cases h
      · rename_i hne
        obtain ⟨e, he, rfl⟩ := Option.map_eq_some_iff.mp h
        exact .whole hne hds (exponent?_eq_some_iff.mp he)
  · intro h
    cases h with
    | whole hne hds htail =>
      rw [decimal?_whole hds htail.head, if_neg hne, exponent?_eq_some_iff.mpr htail]
      rfl
    | pointed hne hds htail =>
      rw [decimal?_pointed hds fun c hc ↦ (htail.head c hc).1, if_neg hne,
        exponent?_eq_some_iff.mpr htail]
      rfl

theorem lowerAscii_of_isDigit {c : Char} (h : isDigit c) : lowerAscii c = c := by
  have hhi := (toNat_of_isDigit h).2
  have hupper : ¬ ('A' ≤ c ∧ c ≤ 'Z') := by
    rintro ⟨hlo, -⟩
    have hlo : 65 ≤ c.toNat := UInt32.le_iff_toNat_le.mp hlo
    omega
  rw [lowerAscii, if_neg hupper]

theorem Decimal.head (h : Decimal negative cs x) :
    ∃ c rest, cs = c :: rest ∧ (isDigit c ∨ c = '.') := by
  cases h with
  | whole hne hds =>
    obtain ⟨c, ds, rfl⟩ := List.exists_cons_of_ne_nil hne
    exact ⟨c, _, rfl, .inl (hds c List.mem_cons_self)⟩
  | @pointed ds places tail e hne hds =>
    cases ds with
    | nil => exact ⟨'.', _, rfl, .inr rfl⟩
    | cons c ds => exact ⟨c, _, rfl, .inl (hds c List.mem_cons_self)⟩

theorem Decimal.map_lowerAscii_ne (h : Decimal negative cs x) {c : Char} {name : List Char}
    (hc : ¬ isDigit c) (hpoint : c ≠ '.') : cs.map lowerAscii ≠ c :: name := by
  obtain ⟨d, rest, rfl, hd⟩ := h.head
  intro hname
  have hlower : lowerAscii d = d := by
    rcases hd with hd | rfl
    · exact lowerAscii_of_isDigit hd
    · rfl
  rw [List.map_cons, hlower] at hname
  obtain ⟨rfl, -⟩ := List.cons.inj hname
  exact hd.elim hc hpoint

theorem magnitude_iff :
    (if cs.map lowerAscii = ['i', 'n', 'f'] ∨
        cs.map lowerAscii = ['i', 'n', 'f', 'i', 'n', 'i', 't', 'y'] then
      some (Double.infinity negative)
    else if cs.map lowerAscii = ['n', 'a', 'n'] then
      some (if negative then Double.nan.neg else Double.nan)
    else decimal? negative cs) = some x ↔ Magnitude negative cs x := by
  constructor
  · intro h
    split at h
    · rename_i hname
      obtain rfl := Option.some.inj h
      exact .infinity hname
    · split at h
      · rename_i hname
        obtain rfl := Option.some.inj h
        exact .nan hname
      · exact .decimal (decimal?_eq_some_iff.mp h)
  · intro h
    cases h with
    | decimal h =>
      have hi : ∀ name, cs.map lowerAscii ≠ 'i' :: name := fun _ ↦
        h.map_lowerAscii_ne (by decide) (by decide)
      have hn : ∀ name, cs.map lowerAscii ≠ 'n' :: name := fun _ ↦
        h.map_lowerAscii_ne (by decide) (by decide)
      rw [if_neg (not_or.mpr ⟨hi _, hi _⟩), if_neg (hn _)]
      exact decimal?_eq_some_iff.mpr h
    | infinity hname => rw [if_pos hname]
    | nan hname =>
      rw [hname, if_neg (by decide), if_pos rfl]

theorem Magnitude.splitSign_eq (h : Magnitude negative cs x) : splitSign cs = (false, cs) := by
  have hsign : ∀ c rest, cs = c :: rest → c ≠ '-' ∧ c ≠ '+' := by
    rintro c rest rfl
    cases h with
    | decimal h =>
      obtain ⟨d, _, heq, hd⟩ := h.head
      obtain ⟨rfl, -⟩ := List.cons.inj heq
      constructor <;> rintro rfl <;> simp [isDigit] at hd
    | infinity hname => constructor <;> rintro rfl <;> simp [lowerAscii] at hname
    | nan hname => constructor <;> rintro rfl <;> simp [lowerAscii] at hname
  unfold splitSign
  split
  · exact absurd rfl (hsign _ _ rfl).1
  · exact absurd rfl (hsign _ _ rfl).2
  · rfl

theorem double?_eq_some_iff : double? cs = some x ↔ Floating cs x := by
  have heq : double? cs = some x ↔ Magnitude (splitSign cs).1 (splitSign cs).2 x := magnitude_iff
  rw [heq]
  constructor
  · intro h
    unfold splitSign at h
    split at h
    · exact .minus h
    · exact .plus h
    · exact .plain h
  · intro h
    cases h with
    | plain h =>
      rw [h.splitSign_eq]
      exact h
    | plus h => exact h
    | minus h => exact h

theorem ofDecimal_whole (negative : Bool) (m : Nat) :
    Double.ofDecimal negative m 0 = Double.ofRatio negative m 1 := by
  unfold Double.ofDecimal
  split
  · rename_i hm
    rw [hm, Double.ofRatio, if_pos rfl]
  · have hsmall : ¬ ((0 : Int) + Nat.log2 m < -400) := by omega
    rw [if_neg (by decide), if_neg hsmall]
    exact congrArg (Double.ofRatio negative · 1) (Nat.mul_one m)

theorem Magnitude.ofDigits (hne : ds ≠ []) (hds : ∀ c ∈ ds, isDigit c) :
    Magnitude negative ds (Double.ofRatio negative (Nat.ofDigitChars 10 ds 0) 1) := by
  have h : Decimal negative (ds ++ []) (Double.ofDecimal negative (Nat.ofDigitChars 10 ds 0) 0) :=
    .whole hne hds .absent
  rw [List.append_nil, ofDecimal_whole] at h
  exact .decimal h

/-- A numeral is a number without places, on either side of zero by its sign. -/
theorem Numeral.floating {n : Int} (h : Numeral cs n) :
    Floating cs (Double.ofRatio (splitSign cs).1 n.natAbs 1) ∧
      (n ≠ 0 → (splitSign cs).1 = decide (n < 0)) := by
  cases h with
  | plain hne hds =>
    have h : Magnitude false cs (Double.ofRatio false (Nat.ofDigitChars 10 cs 0) 1) :=
      .ofDigits hne hds
    rw [h.splitSign_eq, Int.natAbs_natCast]
    refine ⟨.plain h, fun _ ↦ ?_⟩
    exact (decide_eq_false (Int.not_lt.mpr (Int.natCast_nonneg _))).symm
  | plus hne hds =>
    refine ⟨?_, fun _ ↦ ?_⟩
    · rw [Int.natAbs_natCast]
      exact .plus (Magnitude.ofDigits hne hds)
    · exact (decide_eq_false (Int.not_lt.mpr (Int.natCast_nonneg _))).symm
  | minus hne hds =>
    refine ⟨?_, fun hn ↦ ?_⟩
    · rw [Int.natAbs_neg, Int.natAbs_natCast]
      exact .minus (Magnitude.ofDigits hne hds)
    · exact (decide_eq_true (by omega)).symm

theorem double?_toString (n : Int) : double? (toString n).toList = some (Double.ofInt n) := by
  have h := (numeral_toString n).floating.1
  rw [splitSign_toString] at h
  exact double?_eq_some_iff.mpr h

end SqlGateway.Text
