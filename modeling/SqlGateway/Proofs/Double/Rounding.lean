import SqlGateway.Proofs.Double.Nearest

namespace SqlGateway.Double

variable {num den num' den' m m' : Nat} {q q' : Int} {r v : ℚ} {negative : Bool} {x : Double}

theorem Rounded.value_lt (h : Rounded (v / 2 ^ q) m q) : v < 2 ^ (53 + q) := by
  rw [zpow_add₀ two_ne_zero]
  exact (div_lt_iff₀ (zpow_pos two_pos q)).mp h.fits

theorem Rounded.le_value (h : Rounded (v / 2 ^ q) m q) : q = -1074 ∨ 2 ^ (52 + q) ≤ v := by
  rw [zpow_add₀ two_ne_zero]
  exact h.full.imp_right (le_div_iff₀ (zpow_pos two_pos q)).mp

theorem Rounded.scale_le (h : Rounded (v / 2 ^ q) m q) (h' : Rounded (v / 2 ^ q') m' q') :
    q' ≤ q := by
  rcases h'.le_value with rfl | hlow
  · exact h.scale
  · have := (zpow_lt_zpow_iff_right₀ one_lt_two).mp (hlow.trans_lt h.value_lt)
    omega

theorem Rounded.significand_eq (h : Rounded r m q) (h' : Rounded r m' q) : m = m' := by
  obtain ⟨hle, htie⟩ := nearest_integer h.near m'
  obtain ⟨hle', -⟩ := nearest_integer h'.near m
  rw [Int.cast_natCast] at hle hle' htie
  have hsame : |(m' : ℚ) - r| = |m - r| := le_antisymm hle' hle
  by_contra hne
  -- two integers that are as near are neighbours, and they are not both even
  have hhalf := htie (fun h ↦ hne (Int.ofNat.inj h).symm) hsame
  have heven : 2 ∣ m := h.even hhalf
  have heven' : 2 ∣ m' := h'.even (hsame.trans hhalf)
  have hgap : |(m : ℚ) - m'| ≤ 1 := by
    calc |(m : ℚ) - m'| = |(m - r) - (m' - r)| := by ring_nf
      _ ≤ |m - r| + |m' - r| := abs_sub _ _
      _ ≤ 1 := by linarith [h.near, h'.near]
  have hgap : |(m : Int) - m'| ≤ 1 := by exact_mod_cast hgap
  have := abs_le.mp hgap
  omega

theorem Rounded.unique (h : Rounded (v / 2 ^ q) m q) (h' : Rounded (v / 2 ^ q') m' q') :
    m = m' ∧ q = q' := by
  obtain rfl : q = q' := le_antisymm (h'.scale_le h) (h.scale_le h')
  exact ⟨h.significand_eq h', rfl⟩

theorem ofRatio_congr (hden : 0 < den) (hden' : 0 < den') (h : num * den' = num' * den) :
    ofRatio negative num den = ofRatio negative num' den' := by
  have hvalue : (num / den : ℚ) = num' / den' := by
    rw [div_eq_div_iff (Nat.cast_ne_zero.mpr hden.ne') (Nat.cast_ne_zero.mpr hden'.ne')]
    exact_mod_cast h
  rcases Nat.eq_zero_or_pos num with rfl | hnum
  · rw [Nat.zero_mul, zero_eq_mul] at h
    rw [h.resolve_right hden.ne', ofRatio_zero, ofRatio_zero]
  · have hnum' : 0 < num' :=
      Nat.pos_of_mul_pos_right (h ▸ Nat.mul_pos hnum hden' : 0 < num' * den)
    obtain ⟨m, q, heq, hrounded⟩ := exists_rounded negative hnum hden
    obtain ⟨m', q', heq', hrounded'⟩ := exists_rounded negative hnum' hden'
    rw [hvalue] at hrounded
    obtain ⟨rfl, rfl⟩ := hrounded.unique hrounded'
    rw [heq, heq']

theorem ofRatio_overflow (hden : 0 < den) (h : twoTo 1024 * den ≤ num) :
    ofRatio negative num den = infinity negative := by
  have hnum : 0 < num := (Nat.mul_pos (twoTo_pos 1024) hden).trans_le h
  obtain ⟨m, q, heq, hrounded⟩ := exists_rounded negative hnum hden
  have hlow : (2 : ℚ) ^ ((1024 : Nat) : Int) ≤ num / den := by
    rw [le_div_iff₀ (Nat.cast_pos.mpr hden), zpow_natCast, ← cast_twoTo, ← Nat.cast_mul]
    exact Nat.cast_le.mpr h
  have hq := (zpow_lt_zpow_iff_right₀ one_lt_two).mp (hlow.trans_lt hrounded.value_lt)
  have hm : twoTo 52 ≤ m := hrounded.bounds.2.resolve_left (by omega)
  have hover : ¬ (q + 1075).toNat * twoTo 52 + (m - twoTo 52) < 2047 * twoTo 52 := by
    simp only [twoTo_eq] at hm ⊢
    omega
  rw [heq, assemble, if_neg (Nat.not_lt.mpr hm), if_neg hover]

theorem ofRatio_underflow (h : num * twoTo 1075 < den) :
    ofRatio negative num den = zero negative := by
  have hden : 0 < den := Nat.zero_lt_of_lt h
  rcases Nat.eq_zero_or_pos num with rfl | hnum
  · rw [ofRatio, if_pos rfl]
  · obtain ⟨m, q, heq, hrounded⟩ := exists_rounded negative hnum hden
    have hsmall : (num / den : ℚ) < 2 ^ (-(1075 : Nat) : Int) := by
      rw [div_lt_iff₀ (Nat.cast_pos.mpr hden), zpow_neg, inv_mul_eq_div, zpow_natCast,
        lt_div_iff₀ (pow_pos two_pos _), ← cast_twoTo, ← Nat.cast_mul]
      exact Nat.cast_lt.mpr h
    have hq : q = -1074 := by
      refine hrounded.le_value.resolve_right fun hlow ↦ ?_
      have hlt := (zpow_lt_zpow_iff_right₀ one_lt_two).mp (hlow.trans_lt hsmall)
      have := hrounded.scale
      omega
    rw [hq] at hrounded heq
    have hhalf : (num / den : ℚ) / 2 ^ (-1074 : Int) < 1 / 2 := by
      rw [div_lt_iff₀ (zpow_pos two_pos _)]
      refine hsmall.trans_eq ?_
      rw [one_div, ← zpow_neg_one, ← zpow_add₀ two_ne_zero]
      rfl
    have hm : (m : ℚ) < 1 := by linarith [(abs_le.mp hrounded.near).2]
    rw [heq, Nat.cast_lt_one.mp hm, assemble, if_pos (twoTo_pos 52), zero]

/-- The answers that are known without the power are those with it. -/
theorem ofDecimal_eq_ofRatio (negative : Bool) (m : Nat) (e : Int) :
    ofDecimal negative m e = ofRatio negative (m * tenTo e.toNat) (tenTo (-e).toNat) := by
  unfold ofDecimal
  split
  · rename_i hm
    rw [hm, Nat.zero_mul, ofRatio, if_pos rfl]
  · rename_i hm
    have hm := Nat.pos_of_ne_zero hm
    split
    · rename_i he
      have hden : (-e).toNat = 0 := by omega
      rw [hden]
      refine (ofRatio_overflow (by decide) ?_).symm
      calc twoTo 1024 * tenTo 0 = twoTo 1024 := by rw [tenTo_zero, Nat.mul_one]
        _ ≤ twoTo (3 * e.toNat) := twoTo_le (by omega)
        _ ≤ tenTo e.toNat := twoTo_le_tenTo _
        _ ≤ m * tenTo e.toNat := Nat.le_mul_of_pos_left _ hm
    · split
      · rename_i he
        have hnum : e.toNat = 0 := by omega
        rw [hnum]
        refine (ofRatio_underflow ?_).symm
        calc m * tenTo 0 * twoTo 1075 = m * twoTo 1075 := by rw [tenTo_zero, Nat.mul_one]
          _ < twoTo (Nat.log2 m + 1) * twoTo 1075 :=
              Nat.mul_lt_mul_of_pos_right Nat.lt_log2_self (twoTo_pos 1075)
          _ = twoTo (Nat.log2 m + 1 + 1075) := (twoTo_add _ _).symm
          _ ≤ twoTo (3 * (-e).toNat) := twoTo_le (by omega)
          _ ≤ tenTo (-e).toNat := twoTo_le_tenTo _
      · rfl

theorem ofDecimal_mul_tenTo (negative : Bool) (m j : Nat) (e : Int) :
    ofDecimal negative (m * tenTo j) e = ofDecimal negative m (e + j) := by
  have hexponent : j + e.toNat + (-(e + j)).toNat = (e + j).toNat + (-e).toNat := by omega
  rw [ofDecimal_eq_ofRatio, ofDecimal_eq_ofRatio]
  apply ofRatio_congr (tenTo_pos _) (tenTo_pos _)
  calc m * tenTo j * tenTo e.toNat * tenTo (-(e + j)).toNat
      = m * tenTo (j + e.toNat + (-(e + j)).toNat) := by
        rw [tenTo_add, tenTo_add]
        ring
    _ = m * tenTo (e + j).toNat * tenTo (-e).toNat := by
        rw [hexponent, tenTo_add]
        ring

theorem scale_eq_or_le (x : Double) : x.scale = -1074 ∨ twoTo 52 ≤ x.significand := by
  rw [scale, significand]
  split
  · exact .inl rfl
  · exact .inr (Nat.le_add_left _ _)

theorem assemble_self (hfinite : x.isFinite) : assemble x.isNegative x.significand x.scale = x := by
  have hexponent : x.exponentField ≠ 2047 := of_decide_eq_true hfinite
  have hfraction := x.fraction_lt
  have hlt := x.exponentField_lt
  conv_rhs => rw [← ofParts_fields x]
  by_cases hzero : x.exponentField = 0
  · have hsmall : x.significand = x.fraction := if_pos hzero
    rw [assemble, hsmall, if_pos hfraction, hzero, Nat.zero_mul, Nat.zero_add]
  · have hsignificand : x.significand = x.fraction + twoTo 52 := if_neg hzero
    have hscale : (x.scale + 1075).toNat = x.exponentField := by
      rw [scale, if_neg hzero]
      omega
    have hbound : x.exponentField * twoTo 52 + x.fraction < 2047 * twoTo 52 := by
      simp only [twoTo_eq] at hfraction ⊢
      omega
    rw [assemble, hsignificand, hscale, Nat.add_sub_cancel,
      if_neg (Nat.not_lt.mpr (Nat.le_add_left _ _)), if_pos hbound]

theorem ofRatio_self (hfinite : x.isFinite) (hden : 0 < den)
    (h : Exact num den x.significand x.scale) : ofRatio x.isNegative num den = x := by
  conv_rhs => rw [← assemble_self hfinite]
  rcases Nat.eq_zero_or_pos x.significand with hzero | hpos
  · have hnum : num = 0 := by
      rw [Exact, hzero, Nat.zero_mul] at h
      exact (Nat.mul_eq_zero.mp h).resolve_right (twoPow_pos _).ne'
    have hscale : x.scale = -1074 := x.scale_eq_or_le.resolve_right (by rw [hzero]; decide)
    rw [hnum, hzero, hscale, ofRatio_zero]
  · have hfull : twoTo 53 ≤ 2 * x.significand ∨ x.scale = -1074 := by
      refine x.scale_eq_or_le.symm.imp_left fun hle ↦ ?_
      simp only [twoTo_eq] at hle ⊢
      omega
    rw [ofRatio, if_neg (log2_exact h hden hpos).1.ne',
      nearest_exact h hden hpos x.significand_lt x.least_le_scale hfull]

end SqlGateway.Double
