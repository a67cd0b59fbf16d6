import DependencyAtlas.Proofs.Decimal.Exact

namespace DependencyAtlas.Decimal

open Float.Model UnpackedFloat

variable {s : Sign} {e : BitVec 11} {m : BitVec 52}

theorem sign_ofBitVec_toBitVec (s : Sign) : Sign.ofBitVec s.toBitVec = s := by
  cases s <;> rfl

theorem sign_neg_neg (s : Sign) : - -s = s := by
  cases s <;> rfl

theorem unpackSign_packComponents {spec : Format} {exponent : BitVec spec.exponentBits}
    {mantissa : BitVec spec.mantissaBitsWithoutImplicit} :
    unpackSign (packComponents spec s exponent mantissa) = s.toBitVec := by
  ext i hi
  obtain rfl : i = 0 := by omega
  simp [unpackSign, packComponents, BitVec.getLsbD_append, BitVec.getElem_append]

theorem sign_toBitVec_ofBitVec (b : BitVec 1) : (Sign.ofBitVec b).toBitVec = b := by
  rcases BitVec.eq_zero_or_eq_one b with rfl | rfl <;> rfl

theorem packComponents_unpack (b : BitVec 64) :
    packComponents .binary64 (Sign.ofBitVec (@unpackSign .binary64 b)) (@unpackExponent .binary64 b)
      (@unpackMantissa .binary64 b) = b := by
  simp only [packComponents, sign_toBitVec_ofBitVec, unpackSign, unpackExponent, unpackMantissa,
    BitVec.extractLsb]
  ext i hi
  grind

theorem full_mantissa_pos (m : BitVec 52) : 0 < (1#1 ++ m).toNat := by
  rw [full_mantissa]
  positivity

theorem mantissa_pos (h : m ≠ 0#52) : 0 < m.toNat := by
  simpa [BitVec.toNat_pos, BitVec.pos_iff_ne_zero] using h

def assembled (s : Sign) (e : BitVec 11) (m : BitVec 52) : UnpackedFloat :=
  if e = -1#11 then if m = 0#52 then .infinity s else .notANumber
  else if e = 0#11 then
    if h : m = 0#52 then .zero s else .finite s m.toNat (-1074) (mantissa_pos h)
  else .finite s (1#1 ++ m).toNat (e.toNat - 1075) (full_mantissa_pos m)

theorem unpack_packComponents (s : Sign) (e : BitVec 11) (m : BitVec 52) :
    UnpackedFloat.unpack .binary64 (packComponents .binary64 s e m) = assembled s e m := by
  have hexponent : (Format.binary64.exponentBias + Format.binary64.mantissaBitsWithoutImplicit : Int) = 1075 := rfl
  simp only [UnpackedFloat.unpack, unpackExponent_packComponents, unpackMantissa_packComponents,
    unpackSign_packComponents, sign_ofBitVec_toBitVec, assembled, hexponent]
  split
  · rfl
  · split
    · rename_i hzero
      subst hzero
      rfl
    · rfl

theorem neg_assembled (s : Sign) (e : BitVec 11) (m : BitVec 52) :
    (assembled s e m).neg = assembled (-s) e m := by
  rw [assembled, assembled]
  split
  · split <;> rfl
  · split
    · split <;> rfl
    · rfl

theorem log2_eq_52_iff {n : Nat} (h : n < 2 ^ 53) : n.log2 = 52 ↔ 2 ^ 52 ≤ n := by
  rcases Nat.eq_zero_or_pos n with rfl | hpos
  · decide
  · have hlow := Nat.le_log2 (k := 52) hpos.ne'
    have hhigh := Nat.log2_lt (k := 53) hpos.ne'
    omega

theorem pack_assembled (h : e = -1#11 → m = 0#52) :
    UnpackedFloat.pack .binary64 (assembled s e m) = packComponents .binary64 s e m := by
  have hm := m.isLt
  rw [assembled]
  split
  · rename_i hall
    rw [if_pos (h hall), h hall, hall]
    rfl
  · rename_i hall
    split
    · rename_i hzero
      subst hzero
      split
      · rename_i hm
        rw [hm]
        rfl
      · have hdigits : ¬ m.toNat.log2 = 52 := by
          rw [log2_eq_52_iff] <;> omega
        have hshort : ¬ m.toNat.log2 + 1 = Format.binary64.mantissaBits := fun heq =>
          hdigits (Nat.succ.inj heq)
        simp only [UnpackedFloat.pack, if_neg hshort, BitVec.ofNat_toNat, BitVec.setWidth_eq]
        rfl
    · have hfull : (1#1 ++ m).toNat.log2 = 52 := by
        rw [log2_eq_52_iff] <;> rw [full_mantissa] <;> omega
      have hlong : (1#1 ++ m).toNat.log2 + 1 = Format.binary64.mantissaBits := by
        rw [hfull]
        rfl
      have hlow : (1#1 ++ m).toNat % 2 ^ 52 = m.toNat := by
        rw [full_mantissa]
        omega
      have hmantissa : BitVec.setWidth 52 (1#1 ++ m) = m := by
        apply BitVec.eq_of_toNat_eq
        rw [BitVec.toNat_setWidth, hlow]
      have hbias : ((e.toNat : Int) - 1075 + Format.binary64.exponentBias +
          Format.binary64.mantissaBitsWithoutImplicit).toNat = e.toNat := by
        change ((e.toNat : Int) - 1075 + 1023 + 52).toNat = e.toNat
        omega
      have hfinite : ¬ 2 ^ Format.binary64.exponentBits ≤ e.toNat + 1 := by
        have hlast : e.toNat ≠ 2047 := fun heq => hall (BitVec.eq_of_toNat_eq heq)
        have hlt := e.isLt
        change ¬ 2048 ≤ e.toNat + 1
        omega
      simp only [UnpackedFloat.pack, hbias, if_neg hfinite, if_pos hlong, BitVec.ofNat_toNat,
        BitVec.setWidth_eq]
      rw [hmantissa]

theorem pack_neg_unpack {b : BitVec 64}
    (h : @unpackExponent .binary64 b = -1#11 → @unpackMantissa .binary64 b = 0#52) :
    UnpackedFloat.pack .binary64 (UnpackedFloat.unpack .binary64 b).neg =
      packComponents .binary64 (-Sign.ofBitVec (@unpackSign .binary64 b))
        (@unpackExponent .binary64 b) (@unpackMantissa .binary64 b) := by
  conv_lhs => rw [← packComponents_unpack b]
  rw [unpack_packComponents, neg_assembled, pack_assembled h]

def bits (x : Float) : BitVec 64 :=
  x.toModel.toBits.toBitVec

theorem bits_neg (x : Float) :
    bits (-x) = UnpackedFloat.pack .binary64 (UnpackedFloat.unpack .binary64 (bits x)).neg := rfl

theorem bits_injective {x y : Float} (h : bits x = bits y) : x = y := by
  obtain ⟨⟨_, _⟩⟩ := x
  obtain ⟨⟨_, _⟩⟩ := y
  rw [Float.ofModel.injEq, Float.Model.mk.injEq]
  exact UInt64.toBitVec_inj.mp h

theorem neg_neg (x : Float) : - -x = x := by
  apply bits_injective
  have hvalid : Format.binary64.Valid (bits x) := x.toModel.valid
  rw [bits_neg, bits_neg]
  by_cases hnumber :
    @unpackExponent .binary64 (bits x) = -1#11 → @unpackMantissa .binary64 (bits x) = 0#52
  · rw [pack_neg_unpack hnumber, pack_neg_unpack]
    · rw [unpackSign_packComponents, unpackExponent_packComponents, unpackMantissa_packComponents,
        sign_ofBitVec_toBitVec, sign_neg_neg, packComponents_unpack]
    · rw [unpackExponent_packComponents, unpackMantissa_packComponents]
      exact hnumber
  -- There is only one NaN, so that it comes back as it was.
  · obtain ⟨hall, hm⟩ := Classical.not_imp.mp hnumber
    rw [hvalid.eq_packedNaN hall hm]
    decide +kernel

theorem infinity_mul (u : UnpackedFloat) :
    UnpackedFloat.mul .binary64 (.infinity .positive) u = .infinity .positive ∨
      UnpackedFloat.mul .binary64 (.infinity .positive) u = .infinity .negative ∨
      UnpackedFloat.mul .binary64 (.infinity .positive) u = .notANumber := by
  rcases u with (_ | _) | _ | _ | ⟨_ | _, _, _, _⟩ <;>
    first
    | exact .inl rfl
    | exact .inr (.inl rfl)
    | exact .inr (.inr rfl)

theorem infinite_mul_sub_self (x : Float) : 1.0 / 0.0 * x - 1.0 / 0.0 * x = 0.0 / 0.0 := by
  have hinfinite : (1.0 / 0.0 : Float).toModel.unpack = .infinity .positive := rfl
  have hmul : 1.0 / 0.0 * x =
      .ofModel (.pack (UnpackedFloat.mul .binary64 (1.0 / 0.0 : Float).toModel.unpack x.toModel.unpack)) := rfl
  rw [hmul, hinfinite]
  rcases infinity_mul x.toModel.unpack with h | h | h <;> rw [h] <;> decide +kernel

end DependencyAtlas.Decimal
