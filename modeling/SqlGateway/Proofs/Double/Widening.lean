import Mathlib.Tactic.SplitIfs
import SqlGateway.Double.Single
import SqlGateway.Proofs.Double.Exact

namespace SqlGateway.Single

open Double (twoPow Exact)

variable {x : Single}

def isNaN (x : Single) : Bool := x.exponentField = 255 && x.fraction ≠ 0

theorem fraction_lt (x : Single) : x.fraction < twoTo 23 := Nat.mod_lt _ (twoTo_pos 23)

theorem exponentField_lt (x : Single) : x.exponentField < 256 := Nat.mod_lt _ (twoTo_pos 8)

theorem ofParts_fields (x : Single) :
    ofParts x.isNegative (x.exponentField * twoTo 23 + x.fraction) = x := by
  obtain ⟨b⟩ := x
  have hlt := b.toNat_lt
  rw [ofParts, isNegative, exponentField, fraction]
  congr 1
  rw [← UInt32.toNat_inj, UInt32.toNat_ofNat']
  simp only [twoTo_eq]
  by_cases h : 2 ^ 31 ≤ b.toNat
  · simp only [h, decide_true, if_true]
    omega
  · simp only [h, decide_false, Bool.false_eq_true, if_false]
    omega

theorem parts_finite (h : x.exponentField ≠ 255) :
    x.significand < twoTo 24 ∧ -149 ≤ x.scale ∧ x.scale ≤ 104 ∧
      (twoTo 24 ≤ 2 * x.significand ∨ x.scale = -149) := by
  have hfraction := x.fraction_lt
  have hexponent := x.exponentField_lt
  simp only [twoTo_eq] at hfraction ⊢
  unfold significand scale
  by_cases hzero : x.exponentField = 0
  · simp only [if_pos hzero]
    exact ⟨by omega, by omega, by omega, .inr trivial⟩
  · simp only [if_neg hzero, twoTo_eq]
    omega

theorem ofRatio_exact {num den : Nat} (hfinite : x.exponentField ≠ 255) (hpos : 0 < x.significand)
    (h : Exact num den x.significand x.scale) (hden : 0 < den) :
    ofRatio x.isNegative num den = x := by
  obtain ⟨hlt, hscale, -, hfull⟩ := parts_finite hfinite
  have hnum := (Double.log2_exact h hden hpos).1
  have hnearest := Double.nearest_exact h hden hpos hlt hscale hfull
  have hfraction := x.fraction_lt
  have hexponent := x.exponentField_lt
  rw [ofRatio, if_neg hnum.ne', hnearest]
  conv_rhs => rw [← ofParts_fields x]
  by_cases hzero : x.exponentField = 0
  · have hsmall : x.significand = x.fraction := if_pos hzero
    simp only [hsmall, if_pos hfraction, hzero, Nat.zero_mul, Nat.zero_add]
  · have hsignificand : x.significand = x.fraction + twoTo 23 := if_neg hzero
    have hscale : (x.scale + 150).toNat = x.exponentField := by
      rw [scale, if_neg hzero]
      omega
    have hbound : x.exponentField * twoTo 23 + x.fraction ≤ infinityMagnitude := by
      simp only [infinityMagnitude, twoTo_eq] at hfraction ⊢
      omega
    simp only [hsignificand, hscale, Nat.add_sub_cancel, Nat.min_eq_left hbound]
    rw [if_neg (by omega)]

/-- Where a single goes as a double: with the same sign, finite, and of the same exact value. -/
theorem toDouble_parts (hfinite : x.exponentField ≠ 255) (hpos : 0 < x.significand) :
    ∃ j : Nat, x.toDouble.isNegative = x.isNegative ∧ x.toDouble.isFinite ∧
      x.toDouble.significand = x.significand * twoTo j ∧ x.toDouble.scale = x.scale - j := by
  obtain ⟨hlt, hlo, hhi, -⟩ := parts_finite hfinite
  have hlog : Nat.log2 x.significand < 24 := (Nat.log2_lt hpos.ne').mpr hlt
  -- The shift that brings the significand to the full precision of a double.
  obtain ⟨j, hj⟩ : ∃ j, 52 = Nat.log2 x.significand + j := Nat.exists_eq_add_of_le (by omega)
  have hden : 0 < twoPow (-x.scale) := Double.twoPow_pos _
  have hexact : Exact (x.significand * twoPow x.scale) (twoPow (-x.scale))
      (x.significand * twoTo j) (x.scale - j) := by
    rw [Double.exact_shift, Exact]
    ring
  have hlow : twoTo 52 ≤ x.significand * twoTo j := by
    rw [hj, twoTo_add]
    exact Nat.mul_le_mul_right _ (Nat.log2_self_le hpos.ne')
  have hhigh : x.significand * twoTo j < twoTo 53 := by
    have hwidth : 53 = Nat.log2 x.significand + 1 + j := by omega
    rw [hwidth, twoTo_add]
    exact Nat.mul_lt_mul_of_pos_right Nat.lt_log2_self (twoTo_pos j)
  refine ⟨j, ?_⟩
  rw [toDouble, if_neg hfinite, Double.ofRatio_exact hexact hden hlow hhigh (by omega)]
  exact Double.assemble_parts hlow hhigh (by omega)

theorem eq_of_significand_zero (h : x.significand = 0) : x = ofParts x.isNegative 0 := by
  by_cases hzero : x.exponentField = 0
  · have hfraction : x.fraction = 0 := by rw [← h, significand, if_pos hzero]
    conv_lhs => rw [← ofParts_fields x, hzero, hfraction, Nat.zero_mul]
  · rw [significand, if_neg hzero, twoTo_eq] at h
    omega

theorem ofDouble_finite {y : Double} (h : y.isFinite) :
    ofDouble y = ofRatio y.isNegative y.ratio.1.natAbs y.ratio.2 := by
  have hexponent : y.exponentField ≠ 2047 := of_decide_eq_true h
  simp [ofDouble, Double.isNaN, Double.isInfinite, hexponent]

theorem natAbs_ratio (y : Double) : y.ratio.1.natAbs = y.significand * twoPow y.scale := by
  rw [Double.ratio]
  split_ifs <;> simp [Int.natAbs_mul]

theorem ofDouble_toDouble_infinite (hexponent : x.exponentField = 255)
    (hfraction : x.fraction = 0) : ofDouble x.toDouble = x := by
  have hmagnitude : 2047 * twoTo 52 < twoTo 63 := by simp [twoTo_eq]
  have hdouble : x.toDouble = Double.ofParts x.isNegative (2047 * twoTo 52) := by
    rw [toDouble, if_pos hexponent, if_pos hfraction, Double.infinity]
  have hinfinite : x.toDouble.exponentField = 2047 ∧ x.toDouble.fraction = 0 := by
    rw [hdouble, Double.exponentField_ofParts hmagnitude, Double.fraction_ofParts hmagnitude]
    exact ⟨Nat.mul_div_cancel _ (twoTo_pos 52), Nat.mul_mod_left _ _⟩
  have hsign : x.toDouble.isNegative = x.isNegative := by
    rw [hdouble, Double.isNegative_ofParts hmagnitude]
  conv_rhs => rw [← ofParts_fields x, hexponent, hfraction]
  simp [ofDouble, Double.isNaN, Double.isInfinite, hinfinite, hsign, infinityMagnitude]

theorem ofDouble_toDouble_zero (hexponent : x.exponentField ≠ 255) (hzero : x.significand = 0) :
    ofDouble x.toDouble = x := by
  have hdouble : x.toDouble = Double.ofParts x.isNegative 0 := by
    rw [toDouble, if_neg hexponent, hzero, Nat.zero_mul, Double.ofRatio, if_pos rfl, Double.zero]
  have hfields : x.toDouble.exponentField = 0 ∧ x.toDouble.fraction = 0 := by
    rw [hdouble, Double.exponentField_ofParts (twoTo_pos 63),
      Double.fraction_ofParts (twoTo_pos 63)]
    exact ⟨Nat.zero_div _, Nat.zero_mod _⟩
  have hfinite : x.toDouble.isFinite := by simp [Double.isFinite, hfields]
  have hsignificand : x.toDouble.significand = 0 := by
    rw [Double.significand, if_pos hfields.1, hfields.2]
  have hsign : x.toDouble.isNegative = x.isNegative := by
    rw [hdouble, Double.isNegative_ofParts (twoTo_pos 63)]
  conv_rhs => rw [eq_of_significand_zero hzero]
  rw [ofDouble_finite hfinite, natAbs_ratio, hsign, hsignificand, Nat.zero_mul, ofRatio, if_pos rfl]

theorem ofDouble_toDouble_pos (hexponent : x.exponentField ≠ 255) (hpos : 0 < x.significand) :
    ofDouble x.toDouble = x := by
  obtain ⟨j, hsign, hfinite, hsignificand, hscale⟩ := toDouble_parts hexponent hpos
  rw [ofDouble_finite hfinite, natAbs_ratio, hsign]
  -- The double has its significand shifted, so its ratio is the exact value of the single.
  refine ofRatio_exact hexponent hpos ?_ (Double.twoPow_pos _)
  rw [← Double.exact_shift j, ← hsignificand, ← hscale, Exact, Double.ratio]
  ring

/-- A single that is no NaN comes back from the double it is. -/
theorem ofDouble_toDouble (h : x.isNaN = false) : ofDouble x.toDouble = x := by
  by_cases hexponent : x.exponentField = 255
  · exact ofDouble_toDouble_infinite hexponent (by simpa [isNaN, hexponent] using h)
  · rcases Nat.eq_zero_or_pos x.significand with hzero | hpos
    · exact ofDouble_toDouble_zero hexponent hzero
    · exact ofDouble_toDouble_pos hexponent hpos

theorem isNaN_ofParts {negative : Bool} {magnitude : Nat} (hlo : infinityMagnitude < magnitude)
    (hhi : magnitude < twoTo 31) : (ofParts negative magnitude).isNaN := by
  have hbits : (ofParts negative magnitude).bits.toNat =
      (if negative then twoTo 31 else 0) + magnitude := by
    rw [ofParts, UInt32.toNat_ofNat']
    rw [twoTo_eq] at hhi
    apply Nat.mod_eq_of_lt
    cases negative
    · simp
      omega
    · simp [twoTo_eq]
      omega
  have hfields : (ofParts negative magnitude).exponentField = 255 ∧
      (ofParts negative magnitude).fraction ≠ 0 := by
    rw [exponentField, fraction, hbits]
    simp only [infinityMagnitude, twoTo_eq] at hlo hhi ⊢
    cases negative
    · simp
      omega
    · simp
      omega
  simp [isNaN, hfields]

theorem isNaN_ofDouble_toDouble (h : x.isNaN) : (ofDouble x.toDouble).isNaN := by
  have hnan : x.exponentField = 255 ∧ x.fraction ≠ 0 := by simpa [isNaN] using h
  have hdouble : x.toDouble = Double.ofParts x.isNegative
      (2047 * twoTo 52 + twoTo 51 + x.fraction % twoTo 22 * twoTo 29) := by
    rw [toDouble, if_pos hnan.1, if_neg hnan.2]
  generalize hpayload : x.fraction % twoTo 22 * twoTo 29 = payload at hdouble
  have hlt : payload < twoTo 51 := by
    simp only [twoTo_eq] at hpayload ⊢
    omega
  have hdoubleNaN : x.toDouble.isNaN := by
    rw [hdouble]
    apply Double.isNaN_ofParts
    · simp only [twoTo_eq]
      omega
    · simp only [twoTo_eq] at hlt ⊢
      omega
  rw [ofDouble, if_pos hdoubleNaN]
  have hkept := Nat.mod_lt (x.toDouble.fraction / twoTo 29) (twoTo_pos 22)
  apply isNaN_ofParts
  · simp only [twoTo_eq]
    omega
  · simp only [infinityMagnitude, twoTo_eq] at hkept ⊢
    omega

end SqlGateway.Single
