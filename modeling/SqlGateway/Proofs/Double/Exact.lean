import SqlGateway.Double.Basic
import SqlGateway.Proofs.Power

namespace SqlGateway.Double

variable {num den m precision : Nat} {q least : Int}

theorem roundQuotient_mul (h : 0 < den) (m : Nat) : roundQuotient (m * den) den = m := by
  have hmod : m * den % den = 0 := Nat.mul_mod_left m den
  rw [roundQuotient]
  simp only [hmod, Nat.mul_div_cancel m h]
  rw [if_neg (by omega)]

/-- The quotient `num / den` is exactly `m · 2 ^ q`. -/
def Exact (num den m : Nat) (q : Int) : Prop := num * twoPow (-q) = m * (den * twoPow q)

theorem twoPow_pos (n : Int) : 0 < twoPow n := twoTo_pos _

theorem exact_shift (j : Nat) : Exact num den (m * twoTo j) (q - j) ↔ Exact num den m q := by
  obtain ⟨c, hc⟩ : ∃ c : Nat, (-(q - j)).toNat = c + (-q).toNat :=
    ⟨(-(q - j)).toNat - (-q).toNat, by omega⟩
  have hc' : j + (q - j).toNat = c + q.toNat := by omega
  have hneg : twoPow (-(q - j)) = twoTo c * twoPow (-q) := by
    rw [twoPow, hc, twoPow, twoTo_add]
  have hpos : twoTo j * twoPow (q - j) = twoTo c * twoPow q := by
    rw [twoPow, twoPow, ← twoTo_add, hc', twoTo_add]
  have hleft : num * twoPow (-(q - j)) = twoTo c * (num * twoPow (-q)) := by rw [hneg]; ring
  have hright : m * twoTo j * (den * twoPow (q - j)) = twoTo c * (m * (den * twoPow q)) := by
    calc m * twoTo j * (den * twoPow (q - j)) = m * den * (twoTo j * twoPow (q - j)) := by ring
      _ = twoTo c * (m * (den * twoPow q)) := by rw [hpos]; ring
  rw [Exact, hleft, hright]
  exact Nat.mul_left_cancel_iff (twoTo_pos c)

theorem log2_exact (h : Exact num den m q) (hden : 0 < den) (hm : 0 < m) :
    0 < num ∧ (Nat.log2 m : Int) + q ≤ (Nat.log2 num : Int) - Nat.log2 den ∧
      (Nat.log2 num : Int) - Nat.log2 den ≤ Nat.log2 m + q + 1 := by
  have hnum : 0 < num := by
    refine Nat.pos_of_ne_zero fun h0 ↦ ?_
    rw [Exact, h0, Nat.zero_mul] at h
    have hpos := Nat.mul_pos hm (Nat.mul_pos hden (twoPow_pos q))
    omega
  rw [Exact, twoPow, twoPow, twoTo_eq, twoTo_eq] at h
  have hm₁ := Nat.log2_self_le hm.ne'
  have hm₂ := Nat.lt_log2_self (n := m)
  have hn₁ := Nat.log2_self_le hnum.ne'
  have hn₂ := Nat.lt_log2_self (n := num)
  have hd₁ := Nat.log2_self_le hden.ne'
  have hd₂ := Nat.lt_log2_self (n := den)
  generalize Nat.log2 m = k at *
  generalize Nat.log2 num = a at *
  generalize Nat.log2 den = b at *
  generalize hu : (-q).toNat = u at *
  generalize hv : q.toNat = v at *
  have hlow : 2 ^ (k + b + v) < 2 ^ (a + 1 + u) := by
    calc 2 ^ (k + b + v) = 2 ^ k * (2 ^ b * 2 ^ v) := by ring
      _ ≤ m * (den * 2 ^ v) := Nat.mul_le_mul hm₁ (Nat.mul_le_mul_right _ hd₁)
      _ = num * 2 ^ u := h.symm
      _ < 2 ^ (a + 1) * 2 ^ u := Nat.mul_lt_mul_of_pos_right hn₂ (Nat.two_pow_pos u)
      _ = 2 ^ (a + 1 + u) := by ring
  have hhigh : 2 ^ (a + u) < 2 ^ (k + 1 + (b + 1) + v) := by
    calc 2 ^ (a + u) = 2 ^ a * 2 ^ u := by ring
      _ ≤ num * 2 ^ u := Nat.mul_le_mul_right _ hn₁
      _ = m * den * 2 ^ v := by rw [h]; ring
      _ < 2 ^ (k + 1) * 2 ^ (b + 1) * 2 ^ v :=
          Nat.mul_lt_mul_of_pos_right (Nat.mul_lt_mul'' hm₂ hd₂) (Nat.two_pow_pos v)
      _ = 2 ^ (k + 1 + (b + 1) + v) := by ring
  have hlow := (Nat.pow_lt_pow_iff_right (by omega)).mp hlow
  have hhigh := (Nat.pow_lt_pow_iff_right (by omega)).mp hhigh
  exact ⟨hnum, by omega, by omega⟩

theorem roundQuotient_exact (h : Exact num den m q) (hden : 0 < den) :
    num * twoPow (-q) / (den * twoPow q) = m ∧
      roundQuotient (num * twoPow (-q)) (den * twoPow q) = m := by
  have hpos : 0 < den * twoPow q := Nat.mul_pos hden (twoPow_pos q)
  rw [Exact] at h
  rw [h]
  exact ⟨Nat.mul_div_cancel m hpos, roundQuotient_mul hpos m⟩

/-- A number with a significand of the full precision, or of the least scale, is the nearest to
itself. -/
theorem nearest_exact (h : Exact num den m q) (hden : 0 < den) (hm : 0 < m)
    (hlt : m < twoTo precision) (hleast : least ≤ q)
    (hfull : twoTo precision ≤ 2 * m ∨ q = least) :
    nearest precision least num den = (m, q) := by
  obtain ⟨-, hlow, hhigh⟩ := log2_exact h hden hm
  obtain ⟨hquot, hround⟩ := roundQuotient_exact h hden
  have hlog : Nat.log2 m < precision := (Nat.log2_lt hm.ne').mpr hlt
  have hlog' : twoTo precision ≤ 2 * m → precision ≤ Nat.log2 m + 1 := fun hfull ↦ by
    have hupper : 2 * m < 2 ^ (Nat.log2 m + 2) := by
      have := Nat.lt_log2_self (n := m)
      rw [Nat.pow_succ]
      omega
    have := (Nat.pow_lt_pow_iff_right (by omega)).mp (lt_of_le_of_lt hfull hupper)
    omega
  rw [nearest]
  -- The first guess of the scale is the right one, or the one below it.
  rcases (by omega : max ((Nat.log2 num : Int) - Nat.log2 den - precision) least = q ∨
      (max ((Nat.log2 num : Int) - Nat.log2 den - precision) least = q - 1 ∧
        twoTo precision ≤ 2 * m)) with hq | ⟨hq, hfull⟩
  · simp only [hq, hquot, if_pos hlt, hround]
  · obtain ⟨hdouble, -⟩ := roundQuotient_exact ((exact_shift 1).mpr h) hden
    have hover : ¬ m * twoTo 1 < twoTo precision := by rw [twoTo_eq 1]; omega
    rw [Nat.cast_one] at hdouble
    simp only [hq, hdouble, if_neg hover, Int.sub_add_cancel, hround]

theorem fraction_lt (x : Double) : x.fraction < twoTo 52 := Nat.mod_lt _ (twoTo_pos 52)

theorem exponentField_lt (x : Double) : x.exponentField < 2048 := Nat.mod_lt _ (twoTo_pos 11)

theorem ofParts_fields (x : Double) :
    ofParts x.isNegative (x.exponentField * twoTo 52 + x.fraction) = x := by
  obtain ⟨b⟩ := x
  have hlt := b.toNat_lt
  rw [ofParts, isNegative, exponentField, fraction, signBit]
  congr 1
  rw [← UInt64.toNat_inj, UInt64.toNat_ofNat']
  simp only [twoTo_eq]
  by_cases h : 2 ^ 63 ≤ b.toNat
  · simp only [h, decide_true, if_true]
    omega
  · simp only [h, decide_false, Bool.false_eq_true, if_false]
    omega

theorem significand_lt (x : Double) : x.significand < twoTo 53 := by
  have hfraction := x.fraction_lt
  rw [significand]
  simp only [twoTo_eq] at hfraction ⊢
  split <;> omega

theorem least_le_scale (x : Double) : -1074 ≤ x.scale := by
  rw [scale]
  split <;> omega

variable {negative : Bool} {magnitude : Nat}

theorem toNat_ofParts (h : magnitude < twoTo 63) :
    (ofParts negative magnitude).bits.toNat = signBit negative + magnitude := by
  rw [twoTo_eq] at h
  rw [ofParts, UInt64.toNat_ofNat']
  cases negative
  · simp [signBit]
    omega
  · simp [signBit, twoTo_eq]
    omega

theorem isNegative_ofParts (h : magnitude < twoTo 63) :
    (ofParts negative magnitude).isNegative = negative := by
  rw [isNegative, toNat_ofParts h]
  rw [twoTo_eq] at h ⊢
  cases negative
  · simpa [signBit] using h
  · simp [signBit, twoTo_eq]

theorem exponentField_ofParts (h : magnitude < twoTo 63) :
    (ofParts negative magnitude).exponentField = magnitude / twoTo 52 := by
  rw [exponentField, toNat_ofParts h]
  simp only [twoTo_eq] at h ⊢
  cases negative
  · simp [signBit]
    omega
  · simp [signBit, twoTo_eq]
    omega

theorem fraction_ofParts (h : magnitude < twoTo 63) :
    (ofParts negative magnitude).fraction = magnitude % twoTo 52 := by
  rw [fraction, toNat_ofParts h]
  cases negative
  · simp [signBit]
  · simp [signBit, twoTo_eq]
    omega

theorem isNaN_ofParts (hlo : 2047 * twoTo 52 < magnitude) (hhi : magnitude < twoTo 63) :
    (ofParts negative magnitude).isNaN := by
  have hexponent : (ofParts negative magnitude).exponentField = 2047 := by
    rw [exponentField_ofParts hhi]
    simp only [twoTo_eq] at hlo hhi ⊢
    omega
  have hfraction : (ofParts negative magnitude).fraction ≠ 0 := by
    rw [fraction_ofParts hhi]
    simp only [twoTo_eq] at hlo hhi ⊢
    omega
  simp [isNaN, hexponent, hfraction]

theorem ofRatio_exact (h : Exact num den m q) (hden : 0 < den) (hlo : twoTo 52 ≤ m)
    (hhi : m < twoTo 53) (hq : -1074 ≤ q) :
    ofRatio negative num den = assemble negative m q := by
  have hm : 0 < m := Nat.lt_of_lt_of_le (twoTo_pos 52) hlo
  have hnum := (log2_exact h hden hm).1
  have hfull : twoTo 53 ≤ 2 * m ∨ q = -1074 := by
    left
    simp only [twoTo_eq] at hlo ⊢
    omega
  rw [ofRatio, if_neg hnum.ne', nearest_exact h hden hm hhi hq hfull]

theorem assemble_parts (hlo : twoTo 52 ≤ m) (hhi : m < twoTo 53) (hq : -1074 ≤ q ∧ q ≤ 971) :
    (assemble negative m q).isNegative = negative ∧ (assemble negative m q).isFinite ∧
      (assemble negative m q).significand = m ∧ (assemble negative m q).scale = q := by
  have hbound : (q + 1075).toNat * twoTo 52 + (m - twoTo 52) < 2047 * twoTo 52 := by
    simp only [twoTo_eq] at hlo hhi ⊢
    omega
  have hlt : (q + 1075).toNat * twoTo 52 + (m - twoTo 52) < twoTo 63 := by
    simp only [twoTo_eq] at hbound ⊢
    omega
  have hexponent : ((q + 1075).toNat * twoTo 52 + (m - twoTo 52)) / twoTo 52 =
      (q + 1075).toNat := by
    simp only [twoTo_eq] at hlo hhi ⊢
    omega
  have hfraction : ((q + 1075).toNat * twoTo 52 + (m - twoTo 52)) % twoTo 52 = m - twoTo 52 := by
    simp only [twoTo_eq] at hlo hhi ⊢
    omega
  rw [assemble, if_neg (Nat.not_lt.mpr hlo), if_pos hbound]
  simp only [isNegative_ofParts hlt, isFinite, significand, scale, exponentField_ofParts hlt,
    fraction_ofParts hlt, hexponent, hfraction]
  refine ⟨trivial, ?_, ?_, ?_⟩
  · exact decide_eq_true (by omega)
  · rw [if_neg (by omega)]
    omega
  · rw [if_neg (by omega)]
    omega

end SqlGateway.Double
