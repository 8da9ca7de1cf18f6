import DeskCalculator.Proofs.Number.Exact

/-!
# Floats from their bits

Core makes a float from bits, and negates one, by packing an unpacked float. Packing loses nothing
of a float in canonical form, and what it is applied to here is in this form. So the exact value of
a float that is made from bits is that of the bits, and the exact value of a negated float is
negated.

## Main definitions

* `IsCanonical`: the finite unpacked floats that the format holds

## Main results

* `unpack_pack`: packing loses nothing of a canonical float
* `Binary64.exactValue_ofBits`: the exact value of a float that is made from bits
* `exactValue_neg`: the exact value of a negated float
-/

namespace DeskCalculator.Number

open Float.Model (Format UnpackedFloat)

theorem toNat_pos_of_ne_zero {fraction : BitVec 52} (ne : fraction ≠ 0#52) : 0 < fraction.toNat :=
  Nat.pos_of_ne_zero fun zero => ne (BitVec.eq_of_toNat_eq zero)

theorem toNat_one_append_pos (fraction : BitVec 52) : 0 < (1#1 ++ fraction).toNat := by
  rw [Binary64.toNat_one_append]
  exact Nat.add_pos_left (twoTo_pos 52) _

/-- A finite unpacked float as the fields of the format hold it. The least exponent goes without a
leading bit in front of the fraction, the others with one. -/
inductive IsCanonical : UnpackedFloat → Prop
  | zero (sign : UnpackedFloat.Sign) : IsCanonical (.zero sign)
  | subnormal (sign : UnpackedFloat.Sign) (fraction : BitVec 52) (ne : fraction ≠ 0#52) :
    IsCanonical (.finite sign fraction.toNat (-1074) (toNat_pos_of_ne_zero ne))
  | normal (sign : UnpackedFloat.Sign) (exponent : BitVec 11) (fraction : BitVec 52)
    (not_zero : exponent ≠ 0#11) (not_top : exponent ≠ -1#11) :
    IsCanonical (.finite sign (1#1 ++ fraction).toNat (exponent.toNat - 1075)
      (toNat_one_append_pos fraction))

namespace IsCanonical

variable {x : UnpackedFloat}

theorem isFinite (h : IsCanonical x) : x.isFinite = true := by
  cases h <;> rfl

theorem neg (h : IsCanonical x) : IsCanonical x.neg := by
  cases h with
  | zero => exact .zero _
  | subnormal _ fraction ne => exact .subnormal _ fraction ne
  | normal _ exponent fraction not_zero not_top =>
    exact .normal _ exponent fraction not_zero not_top

end IsCanonical

/-! ## Packing -/

theorem unpackSign_packComponents {spec : Format} (sign : UnpackedFloat.Sign)
    (exponent : BitVec spec.exponentBits) (mantissa : BitVec spec.mantissaBitsWithoutImplicit) :
    UnpackedFloat.unpackSign (UnpackedFloat.packComponents spec sign exponent mantissa) =
      sign.toBitVec := by
  ext i hi
  obtain rfl : i = 0 := Nat.lt_one_iff.mp hi
  simp [UnpackedFloat.unpackSign, UnpackedFloat.packComponents, BitVec.getLsbD_append,
    BitVec.getElem_append]

theorem ofBitVec_toBitVec (sign : UnpackedFloat.Sign) :
    UnpackedFloat.Sign.ofBitVec sign.toBitVec = sign := by
  cases sign <;> rfl

/-! ## The fields of what is packed -/

section Fields

variable (sign : UnpackedFloat.Sign) (exponent : BitVec 11) (fraction : BitVec 52)

theorem pack_subnormal (pos : 0 < fraction.toNat) :
    UnpackedFloat.pack Format.binary64 (.finite sign fraction.toNat (-1074) pos) =
      UnpackedFloat.packComponents Format.binary64 sign 0#11 fraction := by
  have short : fraction.toNat.log2 + 1 ≠ Format.binary64.mantissaBits := by
    have below := (Nat.log2_lt pos.ne').mpr fraction.isLt
    show _ ≠ 53
    omega
  simp only [UnpackedFloat.pack]
  rw [if_neg (by decide), if_neg short, BitVec.ofNat_toNat, BitVec.setWidth_eq]

/-- By its length a mantissa with a leading bit is told from the others. -/
theorem log2_one_append :
    (1#1 ++ fraction).toNat.log2 + 1 = Format.binary64.mantissaBits := by
  have ne := (toNat_one_append_pos fraction).ne'
  have above : 52 ≤ (1#1 ++ fraction).toNat.log2 := by
    rw [Nat.le_log2 ne, Binary64.toNat_one_append]
    exact Nat.le_add_right _ _
  have below := (Nat.log2_lt ne).mpr (1#1 ++ fraction).isLt
  show _ = 53
  omega

/-- The leading bit does not fit into the fraction field and is lost there. -/
theorem ofNat_one_append : BitVec.ofNat 52 (1#1 ++ fraction).toNat = fraction := by
  apply BitVec.eq_of_toNat_eq
  rw [Binary64.toNat_one_append, BitVec.toNat_ofNat]
  exact (Nat.add_mod_left _ _).trans (Nat.mod_eq_of_lt fraction.isLt)

theorem pack_normal (not_top : exponent ≠ -1#11) (pos : 0 < (1#1 ++ fraction).toNat) :
    UnpackedFloat.pack Format.binary64
        (.finite sign (1#1 ++ fraction).toNat (exponent.toNat - 1075) pos) =
      UnpackedFloat.packComponents Format.binary64 sign exponent fraction := by
  have biased : ((exponent.toNat : ℤ) - 1075 + Format.binary64.exponentBias +
      Format.binary64.mantissaBitsWithoutImplicit).toNat = exponent.toNat := by
    show ((exponent.toNat : ℤ) - 1075 + (1023 : Nat) + (52 : Nat)).toNat = _
    omega
  have low : exponent.toNat + 1 < 2 ^ 11 := by
    have bound := exponent.isLt
    have ne : exponent.toNat ≠ 2047 := fun top => not_top (BitVec.eq_of_toNat_eq top)
    omega
  simp only [UnpackedFloat.pack, biased]
  rw [if_neg (Nat.not_le.mpr low), if_pos (log2_one_append fraction), ofNat_one_append,
    BitVec.ofNat_toNat, BitVec.setWidth_eq]

/-- What core unpacks is decided by the fields. -/
theorem unpack_packComponents :
    UnpackedFloat.unpack Format.binary64
        (UnpackedFloat.packComponents Format.binary64 sign exponent fraction) =
      if exponent = -1#11 then if fraction = 0#52 then .infinity sign else .notANumber
      else if exponent = 0#11 then
        if none : fraction = 0#52 then .zero sign
        else .finite sign fraction.toNat (exponent.toNat - 1075 + 1)
          (toNat_pos_of_ne_zero none)
      else .finite sign (1#1 ++ fraction).toNat (exponent.toNat - 1075)
        (toNat_one_append_pos fraction) := by
  simp only [UnpackedFloat.unpack, UnpackedFloat.unpackExponent_packComponents,
    UnpackedFloat.unpackMantissa_packComponents, unpackSign_packComponents, ofBitVec_toBitVec]
  rfl

end Fields

/-- **Packing loses nothing** of a canonical float. -/
theorem unpack_pack {x : UnpackedFloat} (h : IsCanonical x) :
    UnpackedFloat.unpack Format.binary64 (UnpackedFloat.pack Format.binary64 x) = x := by
  cases h with
  | zero sign =>
    rw [UnpackedFloat.pack, UnpackedFloat.packedZero]
    exact unpack_packComponents sign 0#11 0#52
  | subnormal sign fraction ne =>
    rw [pack_subnormal, unpack_packComponents, if_neg (by decide), if_pos rfl, dif_neg ne]
    rfl
  | normal sign exponent fraction not_zero not_top =>
    rw [pack_normal sign exponent fraction not_top, unpack_packComponents, if_neg not_top,
      if_neg not_zero]

/-- What core unpacks is canonical, if it is finite. -/
theorem isCanonical_unpack {b : BitVec Format.binary64.numBits}
    (finite : (UnpackedFloat.unpack Format.binary64 b).isFinite = true) :
    IsCanonical (UnpackedFloat.unpack Format.binary64 b) := by
  rw [UnpackedFloat.unpack] at finite ⊢
  split
  · next top =>
    rw [if_pos top] at finite
    split at finite <;> cases finite
  · next not_top =>
    split
    · next zero =>
      split
      · exact .zero _
      · next ne =>
        rw [zero]
        exact .subnormal _ _ ne
    · next not_zero => exact .normal _ _ _ not_zero not_top

/-! ## Made from bits, and negated -/

theorem apply_neg (sign : UnpackedFloat.Sign) (k : ℤ) : (-sign).apply k = -sign.apply k := by
  cases sign with
  | negative => exact (Int.neg_neg k).symm
  | positive => rfl

theorem unpackedValue_neg (x : UnpackedFloat) : unpackedValue x.neg = -unpackedValue x := by
  cases x with
  | finite sign mantissa exponent pos =>
    show (((-sign).apply mantissa : ℤ) : ℚ) * 2 ^ exponent = _
    rw [apply_neg, Int.cast_neg, neg_mul, unpackedValue]
  | _ => exact neg_zero.symm

section Negated

variable {v : Float}

theorem unpack_neg (finite : v.isFinite = true) :
    (-v).toModel.unpack = v.toModel.unpack.neg :=
  unpack_pack (isCanonical_unpack finite).neg

/-- The negation of a finite float is finite. -/
theorem isFinite_neg (finite : v.isFinite = true) : (-v).isFinite = true := by
  show (-v).toModel.unpack.isFinite = true
  rw [unpack_neg finite]
  exact (isCanonical_unpack finite).neg.isFinite

/-- **Negating a finite float negates its exact value.** -/
theorem exactValue_neg (finite : v.isFinite = true) : exactValue (-v) = -exactValue v := by
  rw [exactValue, unpack_neg finite, unpackedValue_neg, exactValue]

end Negated

namespace Binary64

variable {bits : Nat}

theorem isFinite_unpack {b : BitVec Format.binary64.numBits}
    (not_top : exponentField b.toNat ≠ 2047) :
    (UnpackedFloat.unpack Format.binary64 b).isFinite = true := by
  rw [UnpackedFloat.unpack, if_neg ((unpackExponent_eq_top b).not.mpr not_top)]
  split
  · split <;> rfl
  · rfl

/-- Bits that are less than those of infinity. -/
theorem fields_of_lt (small : bits < infinityBits) :
    bits.toUInt64.toBitVec.toNat = bits ∧ exponentField bits ≠ 2047 ∧ signField bits = false := by
  have small : bits < 2047 * 2 ^ 52 := small
  refine ⟨?_, ?_, decide_eq_false ?_⟩
  · exact Nat.mod_eq_of_lt (by omega)
  · show bits / 2 ^ 52 % 2 ^ 11 ≠ 2047
    omega
  · show ¬2 ^ 63 ≤ bits
    omega

theorem unpack_ofBits (small : bits < infinityBits) :
    (Float.ofBits bits.toUInt64).toModel.unpack =
      UnpackedFloat.unpack Format.binary64 bits.toUInt64.toBitVec := by
  obtain ⟨same, not_top, -⟩ := fields_of_lt small
  exact unpack_pack (isCanonical_unpack (isFinite_unpack (by rwa [same])))

/-- Bits below those of infinity make a finite float. -/
theorem isFinite_ofBits (small : bits < infinityBits) :
    (Float.ofBits bits.toUInt64).isFinite = true := by
  obtain ⟨same, not_top, -⟩ := fields_of_lt small
  show (Float.ofBits bits.toUInt64).toModel.unpack.isFinite = true
  rw [unpack_ofBits small]
  exact isFinite_unpack (by rwa [same])

/-- **The exact value of a float that is made from bits** is the steps of the bits. -/
theorem exactValue_ofBits (small : bits < infinityBits) :
    exactValue (Float.ofBits bits.toUInt64) = stepsOfBits bits / stepsPerUnit := by
  obtain ⟨same, not_top, unsigned⟩ := fields_of_lt small
  rw [exactValue, unpack_ofBits small, unpackedValue_unpack (by rwa [same]), same, unsigned,
    if_neg Bool.false_ne_true, one_mul]

end Binary64

end DeskCalculator.Number
