import DependencyAtlas.Decimal.Binary
import Mathlib

/-!
The exact size of a double. Two doubles are equal exactly if both have a size and it is the same one, so
equality is symmetric and transitive, and agrees with that of integers; only NaN has no size.
-/

namespace DependencyAtlas.Decimal

open Float.Model

inductive Size where
  | number (q : ℚ)
  | infinite (negative : Bool)

def Binary.value (b : Binary) : ℚ :=
  b.mantissa * 2 ^ b.exponent

def Binary.signed (negative : Bool) (b : Binary) : ℚ :=
  if negative then -b.value else b.value

def Parts.size? : Parts → Option Size
  | .finite negative b => some (.number (b.signed negative))
  | .infinite negative => some (.infinite negative)
  | .nan => none

def size? (x : Float) : Option Size :=
  (parts x).size?

def isNegative : UnpackedFloat.Sign → Bool
  | .negative => true
  | .positive => false

def partsOf : UnpackedFloat → Parts
  | .infinity s => .infinite (isNegative s)
  | .notANumber => .nan
  | .zero s => .finite (isNegative s) ⟨0, -1074⟩
  | .finite s m e _ => .finite (isNegative s) ⟨m, e⟩

section

variable (b : BitVec 64)

theorem exponent_bits :
    (@UnpackedFloat.unpackExponent .binary64 b).toNat = b.toNat / 2 ^ 52 % 2 ^ 11 := by
  simp [UnpackedFloat.unpackExponent, Nat.shiftRight_eq_div_pow]

theorem mantissa_bits :
    (@UnpackedFloat.unpackMantissa .binary64 b).toNat = b.toNat % 2 ^ 52 := by
  simp [UnpackedFloat.unpackMantissa]

theorem sign_bit :
    (@UnpackedFloat.unpackSign .binary64 b).toNat = b.toNat / 2 ^ 63 % 2 := by
  simp [UnpackedFloat.unpackSign, Nat.shiftRight_eq_div_pow]

theorem exponent_bits_eq_all_iff :
    @UnpackedFloat.unpackExponent .binary64 b = -1#11 ↔
      b.toNat / 2 ^ 52 % 2 ^ 11 = 2047 := by
  rw [← BitVec.toNat_inj, exponent_bits]
  rfl

theorem exponent_bits_eq_zero_iff :
    @UnpackedFloat.unpackExponent .binary64 b = 0#11 ↔
      b.toNat / 2 ^ 52 % 2 ^ 11 = 0 := by
  rw [← BitVec.toNat_inj, exponent_bits]
  rfl

theorem mantissa_bits_eq_zero_iff :
    @UnpackedFloat.unpackMantissa .binary64 b = 0#52 ↔ b.toNat % 2 ^ 52 = 0 := by
  rw [← BitVec.toNat_inj, mantissa_bits]
  rfl

theorem isNegative_sign_bit :
    isNegative (.ofBitVec (@UnpackedFloat.unpackSign .binary64 b)) =
      (b.toNat / 2 ^ 63 % 2 == 1) := by
  have hbit : b.toNat / 2 ^ 63 % 2 < 2 := Nat.mod_lt _ (by decide)
  rw [UnpackedFloat.Sign.ofBitVec]
  split
  · next h =>
    rw [← BitVec.toNat_inj, sign_bit] at h
    rw [h]
    rfl
  · next h =>
    rw [← BitVec.toNat_inj, sign_bit, BitVec.toNat_ofNat] at h
    have hone : b.toNat / 2 ^ 63 % 2 = 1 := by omega
    rw [hone]
    rfl

theorem full_mantissa (m : BitVec 52) : (1#1 ++ m).toNat = 2 ^ 52 + m.toNat := by
  rw [BitVec.toNat_append, ← Nat.shiftLeft_add_eq_or_of_lt m.isLt]
  rfl

theorem ofBits_eq : Parts.ofBits b.toNat = partsOf (.unpack .binary64 b) := by
  have hneg := isNegative_sign_bit b
  have hmantissa := mantissa_bits_eq_zero_iff b
  rw [UnpackedFloat.unpack]
  by_cases hall : b.toNat / 2 ^ 52 % 2 ^ 11 = 2047
  · rw [if_pos ((exponent_bits_eq_all_iff b).mpr hall)]
    by_cases hm : b.toNat % 2 ^ 52 = 0
    · rw [if_pos (hmantissa.mpr hm)]
      simp only [Parts.ofBits, Nat.pow_eq, hall, hm, partsOf, hneg, beq_self_eq_true, if_true]
    · rw [if_neg (hmantissa.not.mpr hm)]
      simp only [Parts.ofBits, Nat.pow_eq, hall, beq_iff_eq, hm, partsOf, beq_self_eq_true, if_true,
        if_false]
  · rw [if_neg ((exponent_bits_eq_all_iff b).not.mpr hall)]
    by_cases hzero : b.toNat / 2 ^ 52 % 2 ^ 11 = 0
    · rw [if_pos ((exponent_bits_eq_zero_iff b).mpr hzero)]
      by_cases hm : b.toNat % 2 ^ 52 = 0
      · rw [dif_pos (hmantissa.mpr hm)]
        simp only [Parts.ofBits, Nat.pow_eq, hzero, hm, partsOf, hneg]
        rfl
      · rw [dif_neg (hmantissa.not.mpr hm)]
        simp only [Parts.ofBits, Nat.pow_eq, hzero, partsOf, hneg, mantissa_bits, exponent_bits]
        rfl
    · rw [if_neg ((exponent_bits_eq_zero_iff b).not.mpr hzero)]
      simp only [Parts.ofBits, Nat.pow_eq, beq_iff_eq, hall, hzero, if_false, partsOf, hneg,
        full_mantissa, mantissa_bits, exponent_bits]
      rfl

end

theorem parts_eq (x : Float) : parts x = partsOf x.toModel.unpack :=
  ofBits_eq x.toModel.toBits.toBitVec

structure Binary.Canonical (b : Binary) : Prop where
  mantissa_lt : b.mantissa < 2 ^ 53
  least : -1074 ≤ b.exponent
  full : b.exponent = -1074 ∨ 2 ^ 52 ≤ b.mantissa

theorem canonical_of_ofBits {bits : Nat} {negative : Bool} {b : Binary}
    (h : Parts.ofBits bits = .finite negative b) : b.Canonical := by
  have hfraction : bits % 2 ^ 52 < 2 ^ 52 := Nat.mod_lt _ (by decide)
  simp only [Parts.ofBits, Nat.pow_eq] at h
  split at h
  · split at h <;> cases h
  · split at h
    · cases h
      exact ⟨by dsimp only; omega, le_refl _, .inl rfl⟩
    · next hzero =>
      cases h
      rw [beq_iff_eq] at hzero
      exact ⟨by dsimp only; omega, by dsimp only; omega, .inr (by dsimp only; omega)⟩

namespace Binary

variable {b c : Binary}

theorem value_pos (h : 0 < b.mantissa) : 0 < b.value :=
  mul_pos (Nat.cast_pos.mpr h) (zpow_pos two_pos _)

theorem value_lt_of_exponent_lt (hb : b.mantissa < 2 ^ 53) (hc : 2 ^ 52 ≤ c.mantissa)
    (hlt : b.exponent < c.exponent) : b.value < c.value := by
  have hb' : (b.mantissa : ℚ) < 2 ^ 53 := by exact_mod_cast hb
  have hc' : (2 ^ 52 : ℚ) ≤ c.mantissa := by exact_mod_cast hc
  calc b.value
    _ < 2 ^ 53 * 2 ^ b.exponent := mul_lt_mul_of_pos_right hb' (zpow_pos two_pos _)
    _ = 2 ^ 52 * 2 ^ (b.exponent + 1) := by rw [zpow_add_one₀ two_ne_zero]; ring
    _ ≤ 2 ^ 52 * 2 ^ c.exponent :=
      mul_le_mul_of_nonneg_left (zpow_le_zpow_right₀ one_le_two hlt) (by positivity)
    _ ≤ c.value := mul_le_mul_of_nonneg_right hc' (zpow_nonneg zero_le_two _)

theorem value_injective (hb : b.Canonical) (hc : c.Canonical) (h : b.value = c.value) : b = c := by
  have hexponent : b.exponent = c.exponent := by
    rcases lt_trichotomy b.exponent c.exponent with hlt | heq | hgt
    · have hfull := hc.full.resolve_left (by have := hb.least; omega)
      exact absurd h (value_lt_of_exponent_lt hb.mantissa_lt hfull hlt).ne
    · exact heq
    · have hfull := hb.full.resolve_left (by have := hc.least; omega)
      exact absurd h.symm (value_lt_of_exponent_lt hc.mantissa_lt hfull hgt).ne
  have hmantissa : (b.mantissa : ℚ) = c.mantissa := by
    rw [value, value, hexponent] at h
    exact mul_right_cancel₀ (zpow_ne_zero _ two_ne_zero) h
  cases b
  cases c
  simp_all

theorem signed_zero {negative : Bool} (h : b.mantissa = 0) : b.signed negative = 0 := by
  simp [signed, value, h]

theorem signed_ne_zero {negative : Bool} (h : 0 < b.mantissa) : b.signed negative ≠ 0 := by
  have hpos := value_pos h
  cases negative
  · exact hpos.ne'
  · exact neg_ne_zero.mpr hpos.ne'

theorem signed_eq_iff {m n : Bool} (hb : b.Canonical) (hc : c.Canonical) (hposb : 0 < b.mantissa)
    (hposc : 0 < c.mantissa) : b.signed m = c.signed n ↔ m = n ∧ b = c := by
  have hb' := value_pos hposb
  have hc' := value_pos hposc
  constructor
  · intro h
    cases m <;> cases n <;> simp only [signed, if_true, if_false, Bool.false_eq_true] at h
    · exact ⟨rfl, value_injective hb hc h⟩
    · linarith
    · linarith
    · exact ⟨rfl, value_injective hb hc (neg_injective h)⟩
  · rintro ⟨rfl, rfl⟩
    rfl

end Binary

theorem isNegative_inj {s t : UnpackedFloat.Sign} : isNegative s = isNegative t ↔ s = t := by
  cases s <;> cases t <;> simp [isNegative]

theorem unpacked_beq_iff {u v : UnpackedFloat}
    (hu : ∀ negative b, partsOf u = .finite negative b → b.Canonical)
    (hv : ∀ negative b, partsOf v = .finite negative b → b.Canonical) :
    u.beq v = true ↔ ∃ s, (partsOf u).size? = some s ∧ (partsOf v).size? = some s := by
  rw [UnpackedFloat.beq_iff_ne_notANumber_and_eq]
  cases u with
  | notANumber => simp [partsOf, Parts.size?]
  | infinity s => cases v <;> simp [partsOf, Parts.size?, isNegative_inj, eq_comm]
  | zero s =>
    cases v with
    | finite t n f hn =>
      have hne := @Binary.signed_ne_zero ⟨n, f⟩ (isNegative t) hn
      simpa [partsOf, Parts.size?, Binary.signed_zero] using hne
    | zero t => cases s <;> cases t <;> simp [partsOf, Parts.size?, Binary.signed_zero]
    | _ => simp [partsOf, Parts.size?]
  | finite s m e hm =>
    cases v with
    | zero t =>
      have hne := @Binary.signed_ne_zero ⟨m, e⟩ (isNegative s) hm
      simpa [partsOf, Parts.size?, Binary.signed_zero, eq_comm] using hne
    | finite t n f hn =>
      have heq := Binary.signed_eq_iff (m := isNegative s) (n := isNegative t) (hu _ _ rfl) (hv _ _ rfl)
        hm hn
      rw [isNegative_inj] at heq
      simpa [partsOf, Parts.size?, eq_comm] using heq.symm
    | _ => simp [partsOf, Parts.size?]

/-- Equal are the doubles that have the same size; NaN has none. -/
theorem beq_iff (x y : Float) : (x == y) = true ↔ ∃ s, size? x = some s ∧ size? y = some s := by
  have hx := parts_eq x
  have hy := parts_eq y
  rw [size?, size?, hx, hy]
  apply unpacked_beq_iff
  · exact fun _ _ h => canonical_of_ofBits (hx.trans h)
  · exact fun _ _ h => canonical_of_ofBits (hy.trans h)

theorem Binary.value_floor {b : Binary} (h : b.floor.2 = false) : b.value = b.floor.1 := by
  obtain ⟨m, e⟩ := b
  cases e with
  | ofNat k => simp [value, floor]
  | negSucc k =>
    have hdvd : 2 ^ (k + 1) ∣ m := by
      apply Nat.dvd_of_mod_eq_zero
      simpa [floor] using h
    obtain ⟨q, rfl⟩ := hdvd
    have hpow : (2 : ℚ) ^ (k + 1) ≠ 0 := by positivity
    simp only [value, floor, Nat.pow_eq, zpow_negSucc]
    rw [Nat.mul_div_cancel_left q (by positivity), ← div_eq_mul_inv, div_eq_iff hpow]
    push_cast
    ring

theorem Binary.floor_whole {b : Binary} {z : ℤ} (h : b.value = z) : b.floor.2 = false := by
  obtain ⟨m, e⟩ := b
  cases e with
  | ofNat k => rfl
  | negSucc k =>
    have hpow : (2 : ℚ) ^ (k + 1) ≠ 0 := by positivity
    rw [value, zpow_negSucc, ← div_eq_mul_inv, div_eq_iff hpow] at h
    have hm : (m : ℤ) = ((2 ^ (k + 1) : ℕ) : ℤ) * z := by
      rw [mul_comm]
      exact_mod_cast h
    have hdvd : 2 ^ (k + 1) ∣ m := by exact_mod_cast Dvd.intro z hm.symm
    simpa [floor] using Nat.mod_eq_zero_of_dvd hdvd

theorem exactInt?_eq_some_iff (x : Float) (z : ℤ) :
    exactInt? x = some z ↔ size? x = some (.number z) := by
  rw [exactInt?, size?]
  cases parts x with
  | infinite negative => simp [Parts.size?]
  | nan => simp [Parts.size?]
  | finite negative b =>
    cases hrest : b.floor.2 with
    | false =>
      have hvalue := Binary.value_floor hrest
      cases negative <;> simp [Parts.size?, Binary.signed, hrest, hvalue] <;> norm_cast
    | true =>
      have hne : ∀ w : ℤ, b.value ≠ w := by
        intro w hw
        rw [Binary.floor_whole hw] at hrest
        cases hrest
      cases negative with
      | false => simpa [Parts.size?, Binary.signed, hrest] using hne z
      | true => simpa [Parts.size?, Binary.signed, hrest, neg_eq_iff_eq_neg] using hne (-z)

end DependencyAtlas.Decimal
