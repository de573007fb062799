import Mathlib.Tactic.IntervalCases
import SqlGateway.Text.Number

namespace SqlGateway.Text

theorem lowerAscii_cases (c : Char) :
    lowerAscii c = c ∧ c.toLower = c ∨ ∃ n, 65 ≤ n ∧ n ≤ 90 ∧ c = Char.ofNat n := by
  by_cases h : 'A' ≤ c ∧ c ≤ 'Z'
  · exact .inr ⟨c.toNat, h.1, h.2, (Char.ofNat_toNat c).symm⟩
  · have hcore : ¬ (c.val ≥ 'A'.val ∧ c.val ≤ 'Z'.val) := h
    exact .inl ⟨if_neg h, dif_neg hcore⟩

theorem lowerAscii_eq (c : Char) : lowerAscii c = c.toLower := by
  rcases lowerAscii_cases c with ⟨hlow, hcore⟩ | ⟨n, hlo, hhi, rfl⟩
  · rw [hlow, hcore]
  · interval_cases n <;> rfl

theorem lowerText_eq (s : String) : lowerText s = s.toLower := by
  have hfun : lowerAscii = Char.toLower := funext lowerAscii_eq
  have hmap : s.toLower = s.map Char.toLower := rfl
  apply String.toList_injective
  rw [lowerText, String.toList_ofList, hmap, String.toList_map, hfun]

theorem lowerAscii_lowerAscii (c : Char) : lowerAscii (lowerAscii c) = lowerAscii c := by
  rcases lowerAscii_cases c with ⟨hlow, -⟩ | ⟨n, hlo, hhi, rfl⟩
  · rw [hlow, hlow]
  · interval_cases n <;> rfl

@[simp]
theorem lowerText_lowerText (s : String) : lowerText (lowerText s) = lowerText s := by
  simp only [lowerText, String.toList_ofList, List.map_map]
  congr 2
  funext c
  exact lowerAscii_lowerAscii c

theorem eq_or_eq_upperAscii (c : Char) : c = lowerAscii c ∨ c = upperAscii (lowerAscii c) := by
  rcases lowerAscii_cases c with ⟨hlow, -⟩ | ⟨n, hlo, hhi, rfl⟩
  · exact .inl hlow.symm
  · right
    interval_cases n <;> rfl

end SqlGateway.Text
