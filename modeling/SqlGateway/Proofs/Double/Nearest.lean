import Mathlib.Algebra.Order.Field.Power
import Mathlib.Data.Rat.Cast.Order
import Mathlib.Tactic.Linarith
import SqlGateway.Proofs.Double.Exact

namespace SqlGateway.Double

/-- The value of a finite number. -/
def toRat (x : Double) : ℚ :=
  (if x.isNegative then -(x.significand : ℚ) else x.significand) * 2 ^ x.scale

structure IsNearest (r : ℚ) (x : Double) : Prop where
  finite : x.isFinite
  least (y : Double) (hy : y.isFinite) : |x.toRat - r| ≤ |y.toRat - r|
  even (y : Double) (hy : y.isFinite) (hne : y.toRat ≠ x.toRat)
    (htie : |y.toRat - r| = |x.toRat - r|) : 2 ∣ x.significand

variable {num den m precision : Nat} {q least : Int} {r : ℚ}

theorem cast_twoTo (n : Nat) : ((twoTo n : Nat) : ℚ) = 2 ^ n := Nat.cast_pow 2 n

theorem roundQuotient_near (num : Nat) (hden : 0 < den) :
    |(roundQuotient num den : ℚ) - num / den| ≤ 1 / 2 ∧
      (|(roundQuotient num den : ℚ) - num / den| = 1 / 2 → 2 ∣ roundQuotient num den) := by
  have hd : (0 : ℚ) < den := Nat.cast_pos.mpr hden
  have hsum : (num : ℚ) = den * (num / den : Nat) + (num % den : Nat) := by
    exact_mod_cast (Nat.div_add_mod num den).symm
  have hlt : ((num % den : Nat) : ℚ) < den := Nat.cast_lt.mpr (Nat.mod_lt num hden)
  rw [roundQuotient]
  generalize num / den = t at hsum ⊢
  generalize num % den = s at hsum hlt ⊢
  have hquot : (num : ℚ) / den = t + s / den := by
    rw [hsum, add_div, mul_div_cancel_left₀ _ hd.ne']
  have hpart : (0 : ℚ) ≤ s / den := div_nonneg (Nat.cast_nonneg s) hd.le
  have htie : (s : ℚ) / den = 1 / 2 → s * 2 = den := by
    intro htie
    rw [div_eq_div_iff hd.ne' two_ne_zero, one_mul] at htie
    exact_mod_cast htie
  rw [hquot]
  split
  · rename_i hup
    have hhalf : (1 : ℚ) / 2 ≤ s / den := by
      rw [div_le_div_iff₀ two_pos hd]
      exact_mod_cast (by omega : 1 * den ≤ s * 2)
    have hwhole : (s : ℚ) / den ≤ 1 := (div_le_one₀ hd).mpr hlt.le
    have hgap : |((t + 1 : Nat) : ℚ) - (t + s / den)| = 1 - s / den := by
      rw [Nat.cast_add_one, abs_of_nonneg (by linarith)]
      ring
    rw [hgap]
    refine ⟨by linarith, fun h ↦ ?_⟩
    have := htie (by linarith)
    omega
  · rename_i hdown
    have hhalf : (s : ℚ) / den ≤ 1 / 2 := by
      rw [div_le_div_iff₀ hd two_pos]
      exact_mod_cast (by omega : s * 2 ≤ 1 * den)
    have hgap : |(t : ℚ) - (t + s / den)| = s / den := by
      rw [sub_add_cancel_left, abs_neg, abs_of_nonneg hpart]
    rw [hgap]
    refine ⟨hhalf, fun h ↦ ?_⟩
    have := htie h
    omega

theorem nearest_integer (h : |(m : ℚ) - r| ≤ 1 / 2) (j : Int) :
    |m - r| ≤ |j - r| ∧ (j ≠ m → |j - r| = |m - r| → |m - r| = 1 / 2) := by
  by_cases hj : j = m
  · rw [hj, Int.cast_natCast]
    exact ⟨le_refl _, fun hne ↦ absurd rfl hne⟩
  · have hapart : (1 : ℚ) ≤ |(j : ℚ) - m| := by
      exact_mod_cast Int.one_le_abs (sub_ne_zero.mpr hj)
    have htriangle : |(j : ℚ) - m| ≤ |j - r| + |m - r| := by
      calc |(j : ℚ) - m| = |(j - r) - (m - r)| := by ring_nf
        _ ≤ |j - r| + |m - r| := abs_sub _ _
    refine ⟨by linarith, fun _ htie ↦ ?_⟩
    linarith

theorem le_of_near {k : Nat} (h : |(m : ℚ) - r| ≤ 1 / 2) :
    (r < k → m ≤ k) ∧ ((k : ℚ) ≤ r → k ≤ m) := by
  obtain ⟨hlow, hhigh⟩ := abs_le.mp h
  constructor
  · intro hr
    have hlt : (m : ℚ) < (k + 1 : Nat) := by
      push_cast
      linarith
    exact Nat.lt_succ_iff.mp (Nat.cast_lt.mp hlt)
  · intro hr
    have hlt : (k : ℚ) < (m + 1 : Nat) := by
      push_cast
      linarith
    exact Nat.lt_succ_iff.mp (Nat.cast_lt.mp hlt)

/-- A multiple of a power of two that has room in the significand. -/
def Representable (v : ℚ) : Prop := ∃ k e : Int, |k| < 2 ^ 53 ∧ -1074 ≤ e ∧ v = k * 2 ^ e

theorem toRat_representable (x : Double) : Representable x.toRat := by
  have hsignificand : (x.significand : Int) < 2 ^ 53 := by exact_mod_cast x.significand_lt
  refine ⟨if x.isNegative then -x.significand else x.significand, x.scale, ?_, x.least_le_scale, ?_⟩
  · split
    · rwa [abs_neg, Nat.abs_cast]
    · rwa [Nat.abs_cast]
  · rw [toRat]
    split <;> push_cast <;> rfl

theorem Representable.neg {v : ℚ} (h : Representable v) : Representable (-v) := by
  obtain ⟨k, e, hk, he, rfl⟩ := h
  refine ⟨-k, e, by rwa [abs_neg], he, ?_⟩
  push_cast
  ring

theorem sub_mul_zpow (a : ℚ) (q : Int) : |a * 2 ^ q - r * 2 ^ q| = |a - r| * 2 ^ q := by
  have hu : (0 : ℚ) < 2 ^ q := zpow_pos two_pos q
  rw [← sub_mul, abs_mul, abs_of_pos hu]

/-- What is below a multiple that does not exceed the exact one is farther away than the nearest. -/
theorem nearer_of_lt {j : Int} (hround : |m - r| ≤ 1 / 2) (hj : j ≤ r) {v : ℚ}
    (hv : v < j * 2 ^ q) : |m * 2 ^ q - r * 2 ^ q| < |v - r * 2 ^ q| := by
  have hu : (0 : ℚ) < 2 ^ q := zpow_pos two_pos q
  have hle : j * 2 ^ q ≤ r * 2 ^ q := mul_le_mul_of_nonneg_right hj hu.le
  calc |m * 2 ^ q - r * 2 ^ q| = |m - r| * 2 ^ q := sub_mul_zpow m q
    _ ≤ |j - r| * 2 ^ q := mul_le_mul_of_nonneg_right (nearest_integer hround j).1 hu.le
    _ = r * 2 ^ q - j * 2 ^ q := by
        rw [abs_of_nonpos (sub_nonpos.mpr hj)]
        ring
    _ < r * 2 ^ q - v := by linarith
    _ ≤ |v - r * 2 ^ q| := by
        rw [abs_sub_comm]
        exact le_abs_self _

theorem Representable.multiple_or_lt {v : ℚ} (h : Representable v) (q : Int) :
    (∃ j : Int, v = j * 2 ^ q) ∨ -1074 < q ∧ v < 2 ^ 52 * 2 ^ q := by
  obtain ⟨k, e, hk, he, rfl⟩ := h
  rcases le_or_gt q e with hqe | hqe
  · left
    obtain ⟨d, rfl⟩ := Int.le.dest hqe
    refine ⟨k * 2 ^ d, ?_⟩
    rw [zpow_add₀ two_ne_zero, zpow_natCast]
    push_cast
    ring
  · right
    refine ⟨by omega, ?_⟩
    have hk : (k : ℚ) < 2 ^ 53 := by exact_mod_cast (abs_lt.mp hk).2
    have hpow : (2 : ℚ) ^ e ≤ 2 ^ (q - 1) := zpow_le_zpow_right₀ one_le_two (by omega)
    calc (k : ℚ) * 2 ^ e < 2 ^ 53 * 2 ^ e := mul_lt_mul_of_pos_right hk (zpow_pos two_pos e)
      _ ≤ 2 ^ 53 * 2 ^ (q - 1) := mul_le_mul_of_nonneg_left hpow (by positivity)
      _ = 2 ^ 52 * 2 ^ q := by
          rw [zpow_sub_one₀ two_ne_zero]
          ring

theorem nearest_multiple (hround : |m - r| ≤ 1 / 2)
    (heven : |m - r| = 1 / 2 → 2 ∣ m) (hfull : q = -1074 ∨ 2 ^ 52 ≤ r) {v : ℚ}
    (hv : Representable v) :
    |m * 2 ^ q - r * 2 ^ q| ≤ |v - r * 2 ^ q| ∧
      (v ≠ m * 2 ^ q → |v - r * 2 ^ q| = |m * 2 ^ q - r * 2 ^ q| → 2 ∣ m) := by
  have hu : (0 : ℚ) < 2 ^ q := zpow_pos two_pos q
  -- what has no room for a multiple of the unit is below all significands of full precision
  rcases hv.multiple_or_lt q with ⟨j, rfl⟩ | ⟨hq, hsmall⟩
  · obtain ⟨hle, htie⟩ := nearest_integer hround j
    rw [sub_mul_zpow, sub_mul_zpow]
    refine ⟨mul_le_mul_of_nonneg_right hle hu.le, fun hne heq ↦ heven (htie ?_ ?_)⟩
    · rintro rfl
      exact hne (by rw [Int.cast_natCast])
    · exact mul_right_cancel₀ hu.ne' heq
  · have hr : ((2 ^ 52 : Int) : ℚ) ≤ r := by
      rw [Int.cast_pow, Int.cast_ofNat]
      exact hfull.resolve_left (by omega)
    rw [← Int.cast_ofNat, ← Int.cast_pow] at hsmall
    have hlt := nearer_of_lt hround hr hsmall
    exact ⟨hlt.le, fun _ heq ↦ absurd heq hlt.ne'⟩

theorem twoPow_eq (q : Int) : (twoPow q : ℚ) = 2 ^ q * twoPow (-q) := by
  simp only [twoPow, twoTo_eq]
  rcases le_total 0 q with hq | hq
  · obtain ⟨n, rfl⟩ := Int.eq_ofNat_of_zero_le hq
    simp
  · obtain ⟨n, hn⟩ := Int.eq_ofNat_of_zero_le (Int.neg_nonneg.mpr hq)
    obtain rfl : q = -n := by omega
    simp

theorem scaled_eq (q : Int) :
    ((num * twoPow (-q) : Nat) : ℚ) / (den * twoPow q : Nat) = num / den / 2 ^ q := by
  have hpos : (twoPow (-q) : ℚ) ≠ 0 := Nat.cast_ne_zero.mpr (twoPow_pos _).ne'
  push_cast
  rw [twoPow_eq q, ← mul_assoc, mul_div_mul_right _ _ hpos, div_div]

theorem scaled_lt_iff (num : Nat) (hden : 0 < den) (k : Nat) (q : Int) :
    num * twoPow (-q) / (den * twoPow q) < k ↔ (num / den : ℚ) < k * 2 ^ q := by
  have hpos : 0 < den * twoPow q := Nat.mul_pos hden (twoPow_pos q)
  have hpos' : (0 : ℚ) < (den * twoPow q : Nat) := Nat.cast_pos.mpr hpos
  rw [Nat.div_lt_iff_lt_mul hpos, ← Nat.cast_lt (α := ℚ), Nat.cast_mul k, ← div_lt_iff₀ hpos',
    scaled_eq, div_lt_iff₀ (zpow_pos two_pos q)]

theorem pow_mul_zpow (n : Nat) (q : Int) : (2 : ℚ) ^ n * 2 ^ q = 2 ^ (n + q) := by
  rw [zpow_add₀ two_ne_zero, zpow_natCast]

theorem log2_quotient (hnum : 0 < num) (hden : 0 < den) :
    (2 : ℚ) ^ ((Nat.log2 num : Int) - Nat.log2 den) < 2 * (num / den) ∧
      (num / den : ℚ) < 2 ^ ((Nat.log2 num : Int) - Nat.log2 den + 1) := by
  have hn₁ := Nat.log2_self_le hnum.ne'
  have hn₂ := Nat.lt_log2_self (n := num)
  have hd₁ := Nat.log2_self_le hden.ne'
  have hd₂ := Nat.lt_log2_self (n := den)
  have hd : (0 : ℚ) < den := Nat.cast_pos.mpr hden
  generalize Nat.log2 num = a at *
  generalize Nat.log2 den = b at *
  have hpos : (0 : ℚ) < 2 ^ ((a : Int) - b) := zpow_pos two_pos _
  have hsplit : (2 : ℚ) ^ b * 2 ^ ((a : Int) - b) = 2 ^ a := by
    rw [pow_mul_zpow, add_sub_cancel, zpow_natCast]
  constructor
  · rw [← mul_div_assoc, lt_div_iff₀ hd]
    calc (2 : ℚ) ^ ((a : Int) - b) * den < 2 ^ ((a : Int) - b) * 2 ^ (b + 1) :=
          mul_lt_mul_of_pos_left (by exact_mod_cast hd₂) hpos
      _ = 2 * 2 ^ a := by
          rw [← hsplit]
          ring
      _ ≤ 2 * num := mul_le_mul_of_nonneg_left (by exact_mod_cast hn₁) zero_le_two
  · rw [div_lt_iff₀ hd, zpow_add_one₀ two_ne_zero]
    calc (num : ℚ) < 2 ^ (a + 1) := by exact_mod_cast hn₂
      _ = 2 ^ ((a : Int) - b) * 2 * 2 ^ b := by
          rw [pow_succ, ← hsplit]
          ring
      _ ≤ 2 ^ ((a : Int) - b) * 2 * den :=
          mul_le_mul_of_nonneg_left (by exact_mod_cast hd₁) (by positivity)

/-- The chosen scale leaves as many bits as there is room for, unless it is the least one. -/
theorem nearest_spec (precision : Nat) (least : Int) (hnum : 0 < num) (hden : 0 < den) :
    ∃ q, nearest precision least num den =
        (roundQuotient (num * twoPow (-q)) (den * twoPow q), q) ∧ least ≤ q ∧
      (num / den : ℚ) < 2 ^ precision * 2 ^ q ∧
      (q = least ∨ (2 : ℚ) ^ precision * 2 ^ q ≤ 2 * (num / den)) := by
  obtain ⟨hlow, hhigh⟩ := log2_quotient hnum hden
  have hfits := scaled_lt_iff num hden (twoTo precision)
  rw [nearest]
  generalize (Nat.log2 num : Int) - Nat.log2 den = l at *
  simp only [hfits, cast_twoTo]
  -- the logarithms tell the scale up to one, and the first guess is the lower of the two
  split
  · rename_i h
    refine ⟨_, rfl, le_max_right _ _, h, ?_⟩
    rcases le_total least (l - precision) with hq | hq
    · right
      rw [max_eq_left hq, pow_mul_zpow, add_sub_cancel]
      exact hlow.le
    · left
      exact max_eq_right hq
  · rename_i h
    refine ⟨_, rfl, by omega, ?_, .inr ?_⟩
    · calc (num / den : ℚ) < 2 ^ (l + 1) := hhigh
        _ ≤ 2 ^ (precision + (max (l - precision) least + 1)) :=
            zpow_le_zpow_right₀ one_le_two (by omega)
        _ = 2 ^ precision * 2 ^ (max (l - precision) least + 1) := (pow_mul_zpow _ _).symm
    · rw [zpow_add_one₀ two_ne_zero, ← mul_assoc]
      linarith [not_lt.mp h]

variable {negative : Bool}

theorem isFinite_infinity : (infinity negative).isFinite = false := by
  have hlt : 2047 * twoTo 52 < twoTo 63 := by decide
  rw [infinity, isFinite, exponentField_ofParts hlt]
  rfl

theorem isFinite_assemble (hm : twoTo 52 ≤ m) (hfinite : (assemble negative m q).isFinite) :
    q ≤ 971 := by
  by_contra hbig
  have hover : ¬ (q + 1075).toNat * twoTo 52 + (m - twoTo 52) < 2047 * twoTo 52 := by
    simp only [twoTo_eq] at hm ⊢
    omega
  rw [assemble, if_neg (Nat.not_lt.mpr hm), if_neg hover, isFinite_infinity] at hfinite
  cases hfinite

theorem assemble_carry (hq : -1074 ≤ q) :
    assemble negative (twoTo 53) q = assemble negative (twoTo 52) (q + 1) := by
  have hmagnitude : (q + 1075).toNat * twoTo 52 + (twoTo 53 - twoTo 52) =
      (q + 1 + 1075).toNat * twoTo 52 + (twoTo 52 - twoTo 52) := by
    simp only [twoTo_eq]
    omega
  have hlt : ¬ twoTo 53 < twoTo 52 := by decide
  rw [assemble, assemble, if_neg hlt, if_neg (lt_irrefl _), hmagnitude]

theorem toRat_of_parts {x : Double} (hsign : x.isNegative = negative) (hm : x.significand = m)
    (hq : x.scale = q) : x.toRat = (if negative then -(m : ℚ) else m) * 2 ^ q := by
  rw [toRat, hsign, hm, hq]

theorem assemble_full (hlo : twoTo 52 ≤ m) (hhi : m < twoTo 53) (hq : -1074 ≤ q)
    (hfinite : (assemble negative m q).isFinite) :
    (assemble negative m q).toRat = (if negative then -(m : ℚ) else m) * 2 ^ q ∧
      (assemble negative m q).significand = m := by
  obtain ⟨hsign, -, hsignificand, hscale⟩ :=
    assemble_parts hlo hhi ⟨hq, isFinite_assemble hlo hfinite⟩
  exact ⟨toRat_of_parts hsign hsignificand hscale, hsignificand⟩

theorem assemble_subnormal (negative : Bool) (hm : m < twoTo 52) :
    (assemble negative m (-1074)).toRat = (if negative then -(m : ℚ) else m) * 2 ^ (-1074 : Int) ∧
      (assemble negative m (-1074)).significand = m := by
  have hlt : m < twoTo 63 := hm.trans (by decide)
  have hexponent : (ofParts negative m).exponentField = 0 := by
    rw [exponentField_ofParts hlt, Nat.div_eq_of_lt hm]
  have hsignificand : (ofParts negative m).significand = m := by
    rw [significand, if_pos hexponent, fraction_ofParts hlt, Nat.mod_eq_of_lt hm]
  have hscale : (ofParts negative m).scale = -1074 := by rw [scale, if_pos hexponent]
  rw [assemble, if_pos hm]
  exact ⟨toRat_of_parts (isNegative_ofParts hlt) hsignificand hscale, hsignificand⟩

theorem assemble_toRat (hm : m ≤ twoTo 53) (hq : -1074 ≤ q) (hfull : q = -1074 ∨ twoTo 52 ≤ m)
    (hfinite : (assemble negative m q).isFinite) :
    (assemble negative m q).toRat = (if negative then -(m : ℚ) else m) * 2 ^ q ∧
      (2 ∣ m → 2 ∣ (assemble negative m q).significand) := by
  rcases lt_or_ge m (twoTo 52) with hlo | hlo
  · obtain rfl : q = -1074 := hfull.resolve_right (Nat.not_le.mpr hlo)
    obtain ⟨hvalue, hsignificand⟩ := assemble_subnormal negative hlo
    rw [hsignificand]
    exact ⟨hvalue, id⟩
  · rcases hm.lt_or_eq with hhi | rfl
    · obtain ⟨hvalue, hsignificand⟩ := assemble_full hlo hhi hq hfinite
      rw [hsignificand]
      exact ⟨hvalue, id⟩
    · rw [assemble_carry hq] at hfinite ⊢
      obtain ⟨hvalue, hsignificand⟩ :=
        assemble_full (le_refl _) (by decide) (by omega) hfinite
      rw [hvalue, hsignificand, zpow_add_one₀ two_ne_zero]
      refine ⟨?_, fun _ ↦ by decide⟩
      simp only [twoTo_eq]
      push_cast
      split <;> ring

/-- It is enough to compare with the multiples of powers of two, whatever the sign. -/
theorem isNearest_of_representable {x : Double} {v : ℚ} (hfinite : x.isFinite)
    (hx : x.toRat = if negative then -v else v)
    (hv : ∀ w, Representable w →
      |v - r| ≤ |w - r| ∧ (w ≠ v → |w - r| = |v - r| → 2 ∣ x.significand)) :
    IsNearest (if negative then -r else r) x := by
  cases negative with
  | false =>
    refine ⟨hfinite, fun y _ ↦ ?_, fun y _ hne htie ↦ ?_⟩
    · rw [hx]
      exact (hv _ (toRat_representable y)).1
    · rw [hx] at hne htie
      exact (hv _ (toRat_representable y)).2 hne htie
  | true =>
    have hself : |-v - -r| = |v - r| := by rw [neg_sub_neg, abs_sub_comm]
    have hother : ∀ w : ℚ, |w - -r| = |-w - r| := by
      intro w
      rw [← abs_neg]
      congr 1
      ring
    refine ⟨hfinite, fun y _ ↦ ?_, fun y _ hne htie ↦ ?_⟩
    · rw [hx, if_pos rfl, if_pos rfl, hself, hother]
      exact (hv _ (toRat_representable y).neg).1
    · rw [hx, if_pos rfl, if_pos rfl, hself, hother] at htie
      refine (hv _ (toRat_representable y).neg).2 ?_ htie
      rintro rfl
      exact hne (by rw [hx, if_pos rfl, neg_neg])

/-- A quotient in units of `2 ^ q`, and the significand that it is rounded to. -/
structure Rounded (r : ℚ) (m : Nat) (q : Int) : Prop where
  near : |m - r| ≤ 1 / 2
  even : |m - r| = 1 / 2 → 2 ∣ m
  scale : -1074 ≤ q
  fits : r < 2 ^ 53
  full : q = -1074 ∨ 2 ^ 52 ≤ r

theorem Rounded.bounds (h : Rounded r m q) : m ≤ twoTo 53 ∧ (q = -1074 ∨ twoTo 52 ≤ m) := by
  refine ⟨(le_of_near h.near).1 ?_, h.full.imp_right fun hr ↦ (le_of_near h.near).2 ?_⟩
  · rw [cast_twoTo]
    exact h.fits
  · rwa [cast_twoTo]

theorem Rounded.isNearest (h : Rounded r m q) (hfinite : (assemble negative m q).isFinite) :
    IsNearest (if negative then -(r * 2 ^ q) else r * 2 ^ q) (assemble negative m q) := by
  obtain ⟨hm, hfull⟩ := h.bounds
  obtain ⟨hvalue, hcarry⟩ := assemble_toRat hm h.scale hfull hfinite
  refine isNearest_of_representable hfinite (v := m * 2 ^ q) ?_ fun w hw ↦ ?_
  · rw [hvalue]
    split
    · exact neg_mul _ _
    · rfl
  · obtain ⟨hle, htie⟩ := nearest_multiple h.near h.even h.full hw
    exact ⟨hle, fun hne heq ↦ hcarry (htie hne heq)⟩

theorem Rounded.isFinite (h : Rounded r m q) (hq : q ≤ 970) :
    (assemble negative m q).isFinite := by
  obtain ⟨hm, -⟩ := h.bounds
  have hscale := h.scale
  have hexponent : ∀ {magnitude : Nat}, magnitude < 2047 * twoTo 52 →
      (ofParts negative magnitude).isFinite := by
    intro magnitude hlt
    have hdiv : magnitude / twoTo 52 < 2047 := Nat.div_lt_of_lt_mul (by rwa [Nat.mul_comm])
    rw [Double.isFinite, exponentField_ofParts (hlt.trans (by decide))]
    exact decide_eq_true (Nat.ne_of_lt hdiv)
  have hsmall : (q + 1075).toNat * twoTo 52 + (m - twoTo 52) < 2047 * twoTo 52 := by
    simp only [twoTo_eq] at hm ⊢
    omega
  rw [assemble]
  split
  · rename_i hlo
    exact hexponent (hlo.trans (by decide))
  · simp only [if_pos hsmall]
    exact hexponent hsmall

theorem exists_rounded (negative : Bool) (hnum : 0 < num) (hden : 0 < den) :
    ∃ m q, ofRatio negative num den = assemble negative m q ∧
      Rounded (num / den / 2 ^ q) m q := by
  obtain ⟨q, hnearest, hq, hlt, hfull⟩ := nearest_spec 53 (-1074) hnum hden
  have hu : (0 : ℚ) < 2 ^ q := zpow_pos two_pos q
  obtain ⟨hnear, heven⟩ := roundQuotient_near (num * twoPow (-q))
    (Nat.mul_pos hden (twoPow_pos q))
  rw [scaled_eq] at hnear heven
  refine ⟨_, q, ?_, hnear, heven, hq, (div_lt_iff₀ hu).mpr hlt, hfull.imp_right fun h ↦ ?_⟩
  · rw [ofRatio, if_neg hnum.ne', hnearest]
  · rw [le_div_iff₀ hu]
    linarith

theorem ofRatio_zero (negative : Bool) (den : Nat) :
    ofRatio negative 0 den = assemble negative 0 (-1074) := by
  rw [ofRatio, if_pos rfl, assemble, if_pos (twoTo_pos 52), zero]

theorem rounded_zero : Rounded 0 0 (-1074) :=
  ⟨by simp, by simp, le_refl _, by positivity, .inl rfl⟩

theorem ofRatio_isNearest (hden : 0 < den) (hfinite : (ofRatio negative num den).isFinite) :
    IsNearest (if negative then -(num / den : ℚ) else num / den) (ofRatio negative num den) := by
  rcases Nat.eq_zero_or_pos num with rfl | hnum
  · rw [ofRatio_zero] at hfinite ⊢
    simpa using rounded_zero.isNearest hfinite
  · obtain ⟨m, q, heq, hrounded⟩ := exists_rounded negative hnum hden
    have h := hrounded.isNearest (heq ▸ hfinite)
    rwa [div_mul_cancel₀ _ (zpow_pos two_pos q).ne', ← heq] at h

theorem ofRatio_isFinite (hden : 0 < den) (hlt : num < twoTo 1023 * den) :
    (ofRatio negative num den).isFinite := by
  rcases Nat.eq_zero_or_pos num with rfl | hnum
  · rw [ofRatio_zero]
    exact rounded_zero.isFinite (by decide)
  · obtain ⟨m, q, heq, hrounded⟩ := exists_rounded negative hnum hden
    rw [heq]
    refine hrounded.isFinite ?_
    rcases hrounded.full with rfl | hfull
    · decide
    · have hd : (0 : ℚ) < den := Nat.cast_pos.mpr hden
      have hu : (0 : ℚ) < 2 ^ q := zpow_pos two_pos q
      have hquot : (num / den : ℚ) < 2 ^ 1023 := by
        rw [div_lt_iff₀ hd]
        rw [twoTo_eq] at hlt
        exact_mod_cast hlt
      have hpow : (2 : ℚ) ^ ((52 : Nat) + q) < 2 ^ ((1023 : Nat) : Int) := by
        rw [← pow_mul_zpow, zpow_natCast]
        exact ((le_div_iff₀ hu).mp hfull).trans_lt hquot
      have := (zpow_lt_zpow_iff_right₀ one_lt_two).mp hpow
      omega

/-- An integer within the range of the exponent is rounded to the nearest number; zero to either
of the two. -/
theorem ofRatio_natAbs_isNearest {n : Int} (hn : n.natAbs < twoTo 1023)
    (hsign : n ≠ 0 → negative = decide (n < 0)) : IsNearest n (ofRatio negative n.natAbs 1) := by
  have hvalue : (if negative then -((n.natAbs : ℚ) / (1 : Nat)) else n.natAbs / (1 : Nat)) = n := by
    rw [Nat.cast_one, div_one, Nat.cast_natAbs]
    rcases lt_trichotomy n 0 with hneg | rfl | hpos
    · rw [hsign hneg.ne, decide_eq_true hneg, if_pos rfl, abs_of_neg hneg]
      push_cast
      exact neg_neg _
    · simp
    · rw [hsign hpos.ne', decide_eq_false hpos.not_gt, abs_of_pos hpos]
      rfl
  rw [← hvalue]
  exact ofRatio_isNearest Nat.one_pos (ofRatio_isFinite Nat.one_pos (by rwa [Nat.mul_one]))

theorem ofInt_isNearest {n : Int} (hn : n.natAbs < twoTo 1023) : IsNearest n (ofInt n) :=
  ofRatio_natAbs_isNearest hn fun _ ↦ rfl

example : ofInt 9007199254740993 = ofInt 9007199254740992 ∧
    ofInt 9007199254740995 = ofInt 9007199254740996 := by decide

end SqlGateway.Double
