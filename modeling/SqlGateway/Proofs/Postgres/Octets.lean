import SqlGateway.Postgres.Wire
import SqlGateway.Proofs.Power

namespace SqlGateway.Postgres

variable {width : Nat} {bs : Blob}

theorem twoTo_octets (width : Nat) : twoTo (8 * (width + 1)) = twoTo (8 * width) * 256 := by
  rw [Nat.mul_add, twoTo_add]
  rfl

@[simp]
theorem length_bigEndian (width n : Nat) : (bigEndian width n).length = width := by
  induction width with
  | zero => rfl
  | succ width ih => rw [bigEndian, List.length_cons, ih]

theorem fromBigEndian_eq (n : Nat) (bs : Blob) :
    fromBigEndian n bs = n * twoTo (8 * bs.length) + fromBigEndian 0 bs := by
  induction bs generalizing n with
  | nil => simp [fromBigEndian, twoTo_eq]
  | cons b bs ih =>
    have hcons (k : Nat) : fromBigEndian k (b :: bs) = fromBigEndian (k * 256 + b.toNat) bs := rfl
    rw [hcons, hcons, ih (n * 256 + b.toNat), ih (0 * 256 + b.toNat), List.length_cons,
      twoTo_octets]
    ring

theorem fromBigEndian_lt (bs : Blob) : fromBigEndian 0 bs < twoTo (8 * bs.length) := by
  induction bs with
  | nil => exact Nat.one_pos
  | cons b bs ih =>
    have hcons : fromBigEndian 0 (b :: bs) = fromBigEndian (0 * 256 + b.toNat) bs := rfl
    have hb : b.toNat + 1 ≤ 256 := b.toNat_lt
    calc fromBigEndian 0 (b :: bs)
        = b.toNat * twoTo (8 * bs.length) + fromBigEndian 0 bs := by
          rw [hcons, fromBigEndian_eq, Nat.zero_mul, Nat.zero_add]
      _ < (b.toNat + 1) * twoTo (8 * bs.length) := by rw [Nat.add_mul]; omega
      _ ≤ 256 * twoTo (8 * bs.length) := Nat.mul_le_mul_right _ hb
      _ = twoTo (8 * (b :: bs).length) := by rw [List.length_cons, twoTo_octets, Nat.mul_comm]

theorem fromBigEndian_bigEndian (width n : Nat) :
    fromBigEndian 0 (bigEndian width n) = n % twoTo (8 * width) := by
  induction width with
  | zero => exact (Nat.mod_one n).symm
  | succ width ih =>
    have hcons : fromBigEndian 0 (bigEndian (width + 1) n) =
        fromBigEndian (0 * 256 + (n / twoTo (8 * width)).toUInt8.toNat) (bigEndian width n) := rfl
    rw [hcons, fromBigEndian_eq, ih, length_bigEndian, twoTo_octets, Nat.mod_mul, Nat.zero_mul,
      Nat.zero_add, Nat.toUInt8_eq, UInt8.toNat_ofNat']
    ring

theorem bigEndian_mul_add (width k n : Nat) :
    bigEndian width (k * twoTo (8 * width) + n) = bigEndian width n := by
  suffices h : ∀ j, bigEndian width (j * twoTo (8 * width) + n) = bigEndian width n from h k
  induction width with
  | zero => exact fun _ ↦ rfl
  | succ width ih =>
    intro j
    have hj : j * twoTo (8 * (width + 1)) + n = j * 256 * twoTo (8 * width) + n := by
      rw [twoTo_octets]
      ring
    have hdiv : (j * 256 * twoTo (8 * width) + n) / twoTo (8 * width) =
        j * 256 + n / twoTo (8 * width) := by
      rw [Nat.add_comm, Nat.add_mul_div_right _ _ (twoTo_pos _), Nat.add_comm]
    have hhead : (j * 256 + n / twoTo (8 * width)).toUInt8 = (n / twoTo (8 * width)).toUInt8 := by
      rw [← UInt8.toNat_inj, Nat.toUInt8_eq, Nat.toUInt8_eq, UInt8.toNat_ofNat', UInt8.toNat_ofNat']
      omega
    rw [hj, bigEndian, bigEndian, hdiv, hhead, ih (j * 256)]

theorem bigEndian_fromBigEndian (bs : Blob) : bigEndian bs.length (fromBigEndian 0 bs) = bs := by
  induction bs with
  | nil => rfl
  | cons b bs ih =>
    have hcons : fromBigEndian 0 (b :: bs) = fromBigEndian (0 * 256 + b.toNat) bs := rfl
    have hdiv : (b.toNat * twoTo (8 * bs.length) + fromBigEndian 0 bs) / twoTo (8 * bs.length) =
        b.toNat := by
      rw [Nat.add_comm, Nat.add_mul_div_right _ _ (twoTo_pos _),
        Nat.div_eq_of_lt (fromBigEndian_lt bs), Nat.zero_add]
    rw [hcons, fromBigEndian_eq, Nat.zero_mul, Nat.zero_add, List.length_cons, bigEndian, hdiv,
      bigEndian_mul_add, ih, Nat.toUInt8_eq, UInt8.ofNat_toNat]

theorem readOctets?_bigEndian {n : Nat} (h : n < twoTo (8 * width)) :
    readOctets? width (bigEndian width n) = some n := by
  rw [readOctets?, if_pos (length_bigEndian _ _), fromBigEndian_bigEndian, Nat.mod_eq_of_lt h]

theorem readOctets?_some {n : Nat} (h : readOctets? width bs = some n) :
    bigEndian width n = bs ∧ n < twoTo (8 * width) := by
  unfold readOctets? at h
  split at h
  · rename_i hlength
    cases h
    rw [← hlength]
    exact ⟨bigEndian_fromBigEndian bs, fromBigEndian_lt bs⟩
  · cases h

/-- The number has a form in two's complement of `width` octets. -/
def FitsSigned (width : Nat) (n : Int) : Prop :=
  -((twoTo (8 * width) / 2 : Nat) : Int) ≤ n ∧ n < ((twoTo (8 * width) / 2 : Nat) : Int)

instance (width : Nat) (n : Int) : Decidable (FitsSigned width n) :=
  inferInstanceAs (Decidable (_ ∧ _))

theorem readSigned?_eq (width : Nat) (bs : Blob) :
    readSigned? width bs =
      (readOctets? width bs).map fun (n : Nat) ↦ (n : Int).bmod (twoTo (8 * width)) := by
  unfold readSigned?
  cases readOctets? width bs <;> rfl

theorem readSigned?_signedOctets {n : Int} (h : FitsSigned width n) :
    readSigned? width (signedOctets width n) = some n := by
  obtain ⟨hlo, hhi⟩ := h
  have hpos : (0 : Int) < twoTo (8 * width) := Int.ofNat_lt.mpr (twoTo_pos _)
  have hmod := Int.emod_nonneg n (Int.ne_of_gt hpos)
  have hlt := Int.emod_lt_of_pos n hpos
  rw [readSigned?_eq, signedOctets, readOctets?_bigEndian (by omega), Option.map_some,
    Int.toNat_of_nonneg hmod, Int.emod_bmod, Int.bmod_eq_of_le_mul_two (by omega) (by omega)]

theorem readSigned?_some {n : Int} (hwidth : 0 < width) (h : readSigned? width bs = some n) :
    signedOctets width n = bs ∧ FitsSigned width n := by
  rw [readSigned?_eq] at h
  obtain ⟨m, hm, rfl⟩ := Option.map_eq_some_iff.mp h
  obtain ⟨hbs, hlt⟩ := readOctets?_some hm
  have hpos := twoTo_pos (8 * width)
  have heven : twoTo (8 * width) % 2 = 0 := by
    obtain ⟨w, rfl⟩ := Nat.exists_eq_add_of_lt hwidth
    rw [Nat.zero_add, twoTo_octets]
    omega
  constructor
  · rw [signedOctets, Int.bmod_emod, Int.emod_eq_of_lt (by omega) (by omega), Int.toNat_natCast,
      hbs]
  · have hlo := Int.le_bmod (x := m) hpos
    have hhi := Int.bmod_lt (x := m) hpos
    constructor <;> omega

theorem narrow_eq (width : Nat) (n : Int64) :
    (FitsSigned width n.toInt → narrow width n = .ok (signedOctets width n.toInt)) ∧
    (¬ FitsSigned width n.toInt → ∃ e, narrow width n = .error e) := by
  unfold narrow FitsSigned
  constructor
  · rintro ⟨hlo, hhi⟩
    rw [if_neg (by omega), if_neg (by omega)]
  · intro h
    split
    · exact ⟨_, rfl⟩
    · rw [if_pos (by omega)]
      exact ⟨_, rfl⟩

end SqlGateway.Postgres
