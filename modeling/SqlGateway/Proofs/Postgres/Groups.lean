import Mathlib.Data.List.DropRight
import Mathlib.Data.Nat.Digits.Lemmas
import SqlGateway.Postgres.Wire
import SqlGateway.Proofs.Power

namespace SqlGateway.Postgres.Numeric

variable {x : Numeric} {gs : List Nat} {weight : Int} {left n : Nat} {b : Blob}

/-- Groups of four digits behind the point of a number. -/
def places (x : Numeric) : Nat := (x.scale + 3) / 4

/-- A number is cut at its point in groups of four digits. The first of them is not zero and counts
`10000 ^ weight`. Of the groups at the end `left` are left out: none of a number below one, and
otherwise all that are zero and behind the point. -/
structure Cut (x : Numeric) (gs : List Nat) (weight : Int) (left : Nat) : Prop where
  lt_base : ∀ g ∈ gs, g < 10000
  head : gs.head? ≠ some 0
  value : Nat.ofDigits 10000 gs.reverse * 10000 ^ left * 10 ^ x.scale =
    x.mantissa * 10000 ^ x.places
  weight_eq : weight + x.places + 1 = gs.length + left
  below_one : weight < 0 → left = 0
  behind : left ≤ x.places
  last : 0 ≤ weight → left < x.places → gs.getLast? ≠ some 0

/-- How many groups there are, the weight of the first, the sign, the places and the groups, in two
octets each. -/
def layout (x : Numeric) (gs : List Nat) (weight : Int) : Blob :=
  bigEndian 2 gs.length ++ signedOctets 2 weight ++
    bigEndian 2 (if x.negative then 0x4000 else 0) ++ bigEndian 2 x.scale ++
    gs.flatMap (bigEndian 2)

/-- The octets that a number is sent as. -/
inductive Written (x : Numeric) : Blob → Prop where
  | zero (h : x.mantissa = 0) : Written x (List.replicate 8 0)
  | groups {gs : List Nat} {weight : Int} {left : Nat} (hx : x.mantissa ≠ 0)
      (h : x.Cut gs weight left) : Written x (x.layout gs weight)

theorem word_eq : word = bigEndian 2 := by
  funext n
  simp [word, bigEndian, twoTo_eq]

theorem signedWord_eq (n : Int) : signedWord n = signedOctets 2 n := congrFun word_eq _

theorem groups_go (n : Nat) (tail : List Nat) :
    groups.go n tail = (Nat.digits 10000 n).reverse ++ tail := by
  induction n, tail using groups.go.induct with
  | case1 tail => simp [groups.go]
  | case2 n tail h ih =>
    rw [groups.go, dif_neg h, ih, Nat.digits_def' (by decide) (Nat.pos_of_ne_zero h)]
    simp

theorem groups_eq (n : Nat) : groups n = (Nat.digits 10000 n).reverse := by
  rw [groups, groups_go, List.append_nil]

/-- Zeros behind the groups of a number count as a power of their base. -/
theorem groups_eq_iff (hn : n ≠ 0) :
    groups n = gs ++ List.replicate left 0 ↔
      (∀ g ∈ gs, g < 10000) ∧ gs.head? ≠ some 0 ∧
        Nat.ofDigits 10000 gs.reverse * 10000 ^ left = n := by
  have hvalue : Nat.ofDigits 10000 (List.replicate left 0 ++ gs.reverse) =
      Nat.ofDigits 10000 gs.reverse * 10000 ^ left := by
    simp [Nat.ofDigits_append, Nat.mul_comm]
  rw [groups_eq, List.reverse_eq_iff, List.reverse_append, List.reverse_replicate]
  constructor
  · intro h
    have hlast := Nat.getLast_digit_ne_zero 10000 hn
    refine ⟨fun g hg ↦ ?_, fun hhead ↦ ?_, ?_⟩
    · refine Nat.digits_lt_base (by decide) (m := n) ?_
      rw [h]
      simp [hg]
    · obtain ⟨rest, rfl⟩ := List.head?_eq_some_iff.mp hhead
      simp [h] at hlast
    · rw [← hvalue, ← h, Nat.ofDigits_digits]
  · rintro ⟨hlt, hhead, rfl⟩
    have hgs : gs ≠ [] := by
      rintro rfl
      simp at hn
    rw [← hvalue]
    refine Nat.digits_ofDigits 10000 (by decide) _ (fun g hg ↦ ?_) fun _ ↦ ?_
    · rcases List.mem_append.mp hg with hg | hg
      · rw [(List.mem_replicate.mp hg).2]
        decide
      · exact hlt g (List.mem_reverse.mp hg)
    · rw [List.getLast_append_of_ne_nil _ (by simpa using hgs), List.getLast_reverse]
      intro hzero
      exact hhead ((List.head?_eq_some_head hgs).trans (congrArg some hzero))

/-- The digits of a number as an integer, with as many places as its groups have. -/
def total (x : Numeric) : Nat := x.mantissa * tenTo (4 * x.places - x.scale)

theorem total_mul (x : Numeric) : x.total * 10 ^ x.scale = x.mantissa * 10000 ^ x.places := by
  have hplaces : 4 * x.places - x.scale + x.scale = 4 * x.places := by
    rw [places]
    omega
  have hpower : tenTo (4 * x.places - x.scale) * 10 ^ x.scale = 10000 ^ x.places := by
    change 10 ^ (4 * x.places - x.scale) * 10 ^ x.scale = 10000 ^ x.places
    rw [← Nat.pow_add, hplaces, Nat.pow_mul]
  rw [total, Nat.mul_assoc, hpower]

theorem total_ne_zero (hx : x.mantissa ≠ 0) : x.total ≠ 0 :=
  Nat.mul_ne_zero hx (Nat.ne_of_gt (tenTo_pos _))

theorem Cut.groups_total (h : x.Cut gs weight left) (hx : x.mantissa ≠ 0) :
    groups x.total = gs ++ List.replicate left 0 := by
  refine (groups_eq_iff (total_ne_zero hx)).mpr ⟨h.lt_base, h.head, ?_⟩
  exact Nat.eq_of_mul_eq_mul_right (Nat.pow_pos (by decide)) (h.value.trans x.total_mul.symm)

/-- The zeros that a number is cut off are those at the end of what is behind its point. -/
theorem Cut.kept (h : x.Cut gs weight left) (hweight : 0 ≤ weight) :
    let all := gs ++ List.replicate left 0
    let whole := all.length - x.places
    all.take whole ++ (all.drop whole).rdropWhile (· == 0) = gs := by
  intro all whole
  have hlength : all.length = gs.length + left := by simp [all]
  have hwhole : whole ≤ gs.length := by
    have := h.behind
    omega
  have hlast : (gs.drop whole).rdropWhile (· == 0) = gs.drop whole := by
    refine List.rdropWhile_eq_self_iff.mpr fun hne hzero ↦ ?_
    have hlt : whole < gs.length := by simpa using hne
    have hleft : left < x.places := by
      have := h.weight_eq
      omega
    refine h.last hweight hleft ?_
    rw [List.getLast_drop, beq_iff_eq] at hzero
    rw [List.getLast?_eq_some_getLast (List.ne_nil_of_length_pos (Nat.zero_lt_of_lt hlt)), hzero]
  rw [List.take_append_of_le_length hwhole, List.drop_append_of_le_length hwhole,
    List.rdropWhile, List.reverse_append, List.reverse_replicate,
    List.dropWhile_append_of_pos (by simp), ← List.rdropWhile, hlast, List.take_append_drop]

theorem encode_eq (hx : x.mantissa ≠ 0) :
    x.encode =
      let all := groups x.total
      let weight : Int := (all.length : Int) - x.places - 1
      let whole := all.length - x.places
      x.layout
        (if 0 ≤ weight then all.take whole ++ (all.drop whole).rdropWhile (· == 0) else all)
        weight := by
  rw [Numeric.encode, if_neg hx]
  simp only [word_eq, signedWord_eq]
  rfl

theorem Cut.encode (h : x.Cut gs weight left) (hx : x.mantissa ≠ 0) :
    x.encode = x.layout gs weight := by
  have hweight : ((gs ++ List.replicate left 0).length : Int) - x.places - 1 = weight := by
    have := h.weight_eq
    simp only [List.length_append, List.length_replicate]
    omega
  simp only [encode_eq hx, h.groups_total hx, hweight]
  rcases Int.lt_or_le weight 0 with hneg | hpos
  · obtain rfl := h.below_one hneg
    rw [if_neg (Int.not_le.mpr hneg), List.replicate_zero, List.append_nil]
  · rw [if_pos hpos, h.kept hpos]

theorem exists_zeros (gs : List Nat) :
    ∃ left, gs = gs.rdropWhile (· == 0) ++ List.replicate left 0 ∧
      (gs.rdropWhile (· == 0)).getLast? ≠ some 0 := by
  refine ⟨(gs.rtakeWhile (· == 0)).length, ?_, fun hlast ↦ ?_⟩
  · have hzeros : gs.rtakeWhile (· == 0) = List.replicate (gs.rtakeWhile (· == 0)).length 0 :=
      List.eq_replicate_of_mem fun g hg ↦ by simpa using List.mem_rtakeWhile_imp hg
    rw [← hzeros, List.rdropWhile_append_rtakeWhile]
  · have hne : gs.rdropWhile (· == 0) ≠ [] := by
      intro hnil
      simp [hnil] at hlast
    rw [List.getLast?_eq_some_getLast hne] at hlast
    exact List.rdropWhile_last_not _ _ hne (by simpa using hlast)

theorem exists_cut (hx : x.mantissa ≠ 0) : ∃ gs weight left, x.Cut gs weight left := by
  -- how the groups are cut depends on whether the first of them is in front of the point
  rcases Nat.lt_or_ge x.places (groups x.total).length with hplaces | hplaces
  · obtain ⟨left, hsplit, hlast⟩ :=
      exists_zeros ((groups x.total).drop ((groups x.total).length - x.places))
    generalize hkept : List.rdropWhile _ _ = kept at hsplit hlast
    have hall : groups x.total =
        ((groups x.total).take ((groups x.total).length - x.places) ++ kept) ++
          List.replicate left 0 := by
      rw [List.append_assoc, ← hsplit, List.take_append_drop]
    have hlength : kept.length + left = x.places := by
      have := congrArg List.length hsplit
      simp only [List.length_drop, List.length_append, List.length_replicate] at this
      omega
    obtain ⟨hlt, hhead, hvalue⟩ := (groups_eq_iff (total_ne_zero hx)).mp hall
    refine ⟨_, (groups x.total).length - x.places - 1, left, hlt, hhead, ?_, ?_, ?_, ?_, ?_⟩
    · rw [hvalue, total_mul]
    · simp only [List.length_append, List.length_take]
      omega
    · omega
    · omega
    · intro _ hleft
      have hne : kept ≠ [] := List.ne_nil_of_length_pos (by omega)
      rwa [List.getLast?_append_of_ne_nil _ hne]
  · have hall : groups x.total = groups x.total ++ List.replicate 0 0 := (List.append_nil _).symm
    obtain ⟨hlt, hhead, hvalue⟩ := (groups_eq_iff (total_ne_zero hx)).mp hall
    refine ⟨_, (groups x.total).length - x.places - 1, 0, hlt, hhead, ?_, ?_, ?_, ?_, ?_⟩
    · rw [hvalue, total_mul]
    · omega
    · exact fun _ ↦ rfl
    · exact Nat.zero_le _
    · omega

theorem written_iff : x.Written b ↔ x.encode = b := by
  constructor
  · rintro (h | ⟨hx, h⟩)
    · rw [Numeric.encode, if_pos h]
      rfl
    · exact h.encode hx
  · rintro rfl
    by_cases hx : x.mantissa = 0
    · rw [Numeric.encode, if_pos hx]
      exact .zero hx
    · obtain ⟨gs, weight, left, h⟩ := exists_cut hx
      rw [h.encode hx]
      exact .groups hx h

end SqlGateway.Postgres.Numeric
