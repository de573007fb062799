import SqlGateway.Double.Text
import SqlGateway.Proofs.Double.Rounding
import SqlGateway.Proofs.Text.Floating

namespace SqlGateway

open Text (isDigit)

variable {passes : Nat → Int → Bool} {tie : Tie} {d : Decimal} {num den m n fuel : Nat} {q e : Int}
  {cs : List Char} {x : Double}

theorem Decimal.strip_passes (hshift : ∀ t k, passes (10 * t) k → passes t (k + 1)) (d : Decimal)
    (h : passes d.digits d.exponent) : passes d.strip.digits d.strip.exponent := by
  induction d using Decimal.strip.induct with
  | case1 d hzero ih =>
    rw [Decimal.strip, if_pos hzero]
    apply ih
    apply hshift
    have hdigits : 10 * (d.digits / 10) = d.digits := by omega
    rwa [hdigits]
  | case2 d hlast =>
    rwa [Decimal.strip, if_neg hlast]

namespace Double

theorem firstDigits_passes (h : firstDigits passes tie num den e n fuel = some d) :
    passes d.digits d.exponent := by
  induction fuel generalizing n with
  | zero => cases h
  | succ fuel ih =>
    rw [firstDigits] at h
    split at h
    · rename_i t hfound
      cases h
      exact List.find?_some (p := (passes · (e - n))) hfound
    · exact ih h

theorem fewestDigits_passes (hshift : ∀ t k, passes (10 * t) k → passes t (k + 1))
    (hexact : passes (exactDecimal m q).digits (exactDecimal m q).exponent)
    (hzero : m = 0 → passes 0 0) (tie : Tie) (most : Nat) :
    passes (fewestDigits passes tie most m q).digits
      (fewestDigits passes tie most m q).exponent := by
  rw [fewestDigits]
  split
  · rename_i hm
    exact hzero hm
  · apply Decimal.strip_passes hshift
    cases hfound : firstDigits passes tie (m * twoPow q) (twoPow (-q))
        (leadingExponent (m * twoPow q) (twoPow (-q))) 0 most with
    | none => exact hexact
    | some d => exact firstDigits_passes hfound

theorem twoPow_of_nonpos (h : q ≤ 0) : twoPow q = 1 := by
  rw [twoPow, Int.toNat_of_nonpos h]
  rfl

theorem ofDecimal_exactDecimal (negative : Bool) (m : Nat) (q : Int) :
    ofDecimal negative (exactDecimal m q).digits (exactDecimal m q).exponent =
      ofRatio negative (m * twoPow q) (twoPow (-q)) := by
  rw [ofDecimal_eq_ofRatio, exactDecimal]
  apply ofRatio_congr (tenTo_pos _) (twoPow_pos _)
  split
  · rename_i hq
    rw [twoPow_of_nonpos (by omega : -q ≤ 0)]
    simp [tenTo_zero]
  · rename_i hq
    have hpos : q.toNat = 0 := by omega
    have hten : Nat.pow 5 (-q).toNat * twoPow (-q) = tenTo (-q).toNat :=
      (Nat.mul_pow 5 2 _).symm
    simp only [hpos, tenTo_zero, Nat.mul_one]
    rw [twoPow_of_nonpos (by omega : q ≤ 0), Nat.mul_one, Nat.mul_assoc, hten]

/-- The fewest digits of a finite number round back to it. -/
theorem ofDecimal_shortest (tie : Tie) (hfinite : x.isFinite) :
    ofDecimal x.isNegative (x.shortest tie).digits (x.shortest tie).exponent = x := by
  have hself : ofRatio x.isNegative (x.significand * twoPow x.scale) (twoPow (-x.scale)) = x := by
    apply ofRatio_self hfinite (twoPow_pos _)
    rw [Exact, Nat.mul_assoc, Nat.mul_comm (twoPow _)]
  let passes : Nat → Int → Bool := fun t k ↦ ofDecimal x.isNegative t k = x
  have hshift : ∀ t k, passes (10 * t) k → passes t (k + 1) := by
    intro t k h
    have hmul : ofDecimal x.isNegative (t * tenTo 1) k = ofDecimal x.isNegative t (k + 1) :=
      ofDecimal_mul_tenTo x.isNegative t 1 k
    apply decide_eq_true
    rw [← hmul, Nat.mul_comm]
    exact of_decide_eq_true h
  have hexact : passes (exactDecimal x.significand x.scale).digits
      (exactDecimal x.significand x.scale).exponent := by
    apply decide_eq_true
    rw [ofDecimal_exactDecimal, hself]
  have hzero : x.significand = 0 → passes 0 0 := by
    intro hzero
    rw [hzero, Nat.zero_mul, ofRatio, if_pos rfl] at hself
    apply decide_eq_true
    rw [ofDecimal, if_pos rfl, hself]
  exact of_decide_eq_true (fewestDigits_passes hshift hexact hzero tie 17)

end Double

/-- The digits of a decimal without an exponent: in front of the point, which an integer has none
of, and behind it. -/
inductive Decimal.Layout (d : Decimal) : List Char → Prop
  | whole {ds : List Char} (hne : ds ≠ []) (hdigits : ∀ c ∈ ds, isDigit c)
      (hexponent : 0 ≤ d.exponent)
      (hvalue : Nat.ofDigitChars 10 ds 0 = d.digits * tenTo d.exponent.toNat) : d.Layout ds
  | pointed {ds places : List Char} (hne : ds ≠ []) (hdigits : ∀ c ∈ ds ++ places, isDigit c)
      (hexponent : d.exponent = -places.length)
      (hvalue : Nat.ofDigitChars 10 (ds ++ places) 0 = d.digits) : d.Layout (ds ++ '.' :: places)

namespace Decimal

theorem Layout.reads (h : d.Layout cs) (negative : Bool) :
    Text.Decimal negative cs (Double.ofDecimal negative d.digits d.exponent) := by
  cases h with
  | whole hne hdigits hexponent hvalue =>
    have h : Text.Decimal negative (cs ++ []) _ := .whole hne hdigits .absent
    rwa [List.append_nil, hvalue, Double.ofDecimal_mul_tenTo, Int.zero_add,
      Int.toNat_of_nonneg hexponent] at h
  | @pointed ds places hne hdigits hexponent hvalue =>
    have h : Text.Decimal negative (ds ++ '.' :: (places ++ [])) _ :=
      .pointed (fun hnil ↦ hne (List.append_eq_nil_iff.mp hnil).1) hdigits .absent
    rwa [List.append_nil, hvalue, Int.zero_sub, ← hexponent] at h

theorem Layout.characters (h : d.Layout cs) : ∀ c ∈ cs, isDigit c ∨ c = '.' := by
  intro c hc
  cases h with
  | whole _ hdigits => exact .inl (hdigits c hc)
  | pointed _ hdigits =>
    rcases List.mem_append.mp hc with hc | hc
    · exact .inl (hdigits c (List.mem_append_left _ hc))
    · rcases List.mem_cons.mp hc with rfl | hc
      · exact .inr rfl
      · exact .inl (hdigits c (List.mem_append_right _ hc))

theorem isDigit_digitChars : ∀ c ∈ d.digitChars, isDigit c :=
  fun _ ↦ Text.isDigit_of_mem_toDigits

theorem isDigit_zeros : ∀ c ∈ List.replicate n '0', isDigit c := by
  intro c hc
  rw [List.eq_of_mem_replicate hc]
  rfl

theorem ofDigitChars_digitChars (d : Decimal) : Nat.ofDigitChars 10 d.digitChars 0 = d.digits :=
  Nat.ofDigitChars_ten_toDigits

theorem layout_positional (d : Decimal) : d.Layout d.positional := by
  have hne : d.digitChars ≠ [] := Nat.toDigits_ne_nil
  have hdigits := d.isDigit_digitChars
  have hvalue := d.ofDigitChars_digitChars
  rw [positional]
  generalize d.digitChars = ds at *
  by_cases hexponent : 0 ≤ d.exponent
  · rw [if_pos hexponent]
    apply Layout.whole _ _ hexponent
    · rw [Nat.ofDigitChars_append, hvalue, Nat.ofDigitChars_replicate_zero]
      exact Nat.mul_comm _ _
    · exact fun hnil ↦ hne (List.append_eq_nil_iff.mp hnil).1
    · rw [List.forall_mem_append]
      exact ⟨hdigits, isDigit_zeros⟩
  · rw [if_neg hexponent]
    generalize hplaces : (-d.exponent).toNat = places
    by_cases hlength : ds.length ≤ places
    · rw [if_pos hlength]
      have h : d.Layout (['0'] ++ '.' :: (List.replicate (places - ds.length) '0' ++ ds)) := by
        apply Layout.pointed (List.cons_ne_nil '0' [])
        · rw [List.singleton_append, List.forall_mem_cons, List.forall_mem_append]
          exact ⟨rfl, isDigit_zeros, hdigits⟩
        · rw [List.length_append, List.length_replicate]
          omega
        · rw [List.singleton_append, Nat.ofDigitChars_cons, Nat.ofDigitChars_append,
            Nat.ofDigitChars_replicate_zero]
          exact hvalue
      exact h
    · rw [if_neg hlength]
      have hsplit := List.take_append_drop (ds.length - places) ds
      apply Layout.pointed
      · apply List.ne_nil_of_length_pos
        rw [List.length_take]
        omega
      · rwa [hsplit]
      · rw [List.length_drop]
        omega
      · rw [hsplit, hvalue]

end Decimal

namespace Double

theorem floating_signed {y : Double} (h : Text.Magnitude x.isNegative cs y) :
    Text.Floating (x.signed cs) y := by
  rw [signed]
  cases hsign : x.isNegative with
  | false =>
    rw [hsign] at h
    exact .plain h
  | true =>
    rw [hsign] at h
    exact .minus h

theorem isFinite_of_not_infinite (hnan : x.isNaN = false) (hinfinite : x.isInfinite = false) :
    x.isFinite := by
  by_contra hexponent
  have hexponent : x.exponentField = 2047 := by simpa [isFinite] using hexponent
  simp [isNaN, hexponent] at hnan
  simp [isInfinite, hexponent, hnan] at hinfinite

theorem eq_infinity (h : x.isInfinite) : x = infinity x.isNegative := by
  simp only [isInfinite, Bool.and_eq_true, decide_eq_true_eq] at h
  conv_lhs => rw [← ofParts_fields x, h.1, h.2]
  rfl

/-- The text of a number is read as the number, to the bit. -/
theorem floating_plainChars (h : x.isNaN = false) : Text.Floating x.plainChars x := by
  rw [plainChars, if_neg (by simp [h])]
  split
  · rename_i hinfinite
    apply floating_signed
    conv_rhs => rw [eq_infinity hinfinite]
    exact .infinity (.inl rfl)
  · rename_i hinfinite
    have hfinite := isFinite_of_not_infinite h (Bool.eq_false_iff.mpr hinfinite)
    apply floating_signed
    conv_rhs => rw [← ofDecimal_shortest .up hfinite]
    exact .decimal ((x.shortest .up).layout_positional.reads x.isNegative)

theorem floating_plainChars_nan (h : x.isNaN) : Text.Floating x.plainChars nan := by
  rw [plainChars, if_pos h]
  exact .plain (.nan rfl)

theorem mem_signed {c : Char} (hc : c ∈ x.signed cs) : c ∈ '-' :: cs := by
  rw [signed] at hc
  split at hc
  · exact hc
  · exact List.mem_cons_of_mem _ hc

def plainMarks : List Char := ['-', '.', 'i', 'n', 'f', 'N', 'a']

theorem mem_plainChars {c : Char} (hc : c ∈ x.plainChars) : isDigit c ∨ c ∈ plainMarks := by
  have hnan : ∀ c ∈ ['N', 'a', 'N'], c ∈ plainMarks := by simp [plainMarks]
  have hinfinity : ∀ c ∈ ['-', 'i', 'n', 'f'], c ∈ plainMarks := by simp [plainMarks]
  rw [plainChars] at hc
  split at hc
  · exact .inr (hnan c hc)
  · split at hc
    · exact .inr (hinfinity c (mem_signed hc))
    · rcases List.mem_cons.mp (mem_signed hc) with rfl | hc
      · exact .inr List.mem_cons_self
      · refine ((x.shortest .up).layout_positional.characters c hc).imp_right ?_
        rintro rfl
        simp [plainMarks]

theorem not_exponent_of_mem_plainChars {c : Char} (hc : c ∈ x.plainChars) : c ≠ 'e' ∧ c ≠ 'E' := by
  constructor <;> rintro rfl <;> simpa [plainMarks, isDigit] using mem_plainChars hc

theorem not_blank_of_mem_plainChars {c : Char} (hc : c ∈ x.plainChars) :
    Text.isBlank c = false := by
  have hmarks : ∀ c ∈ plainMarks, Text.isBlank c = false := by
    simp only [plainMarks, List.forall_mem_cons]
    simp [Text.isBlank_of_ascii]
  exact (mem_plainChars hc).elim Text.isBlank_of_isDigit (hmarks c)

end Double
end SqlGateway
