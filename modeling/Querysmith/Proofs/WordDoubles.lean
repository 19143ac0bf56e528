import Querysmith.Value

namespace Querysmith.Word

open Float.Model Float.Model.UnpackedFloat

/-- The exponent is far from where packing overflows. -/
def IsModerate : UnpackedFloat → Prop
  | .zero _ => True
  | .finite _ _ e _ => e ≤ 900
  | .infinity _ | .notANumber => False

theorem isFinite_unpack {b : BitVec Format.binary64.numBits}
    (h : unpackExponent b ≠ -BitVec.ofNat Format.binary64.exponentBits 1) :
    (UnpackedFloat.unpack Format.binary64 b).isFinite = true := by
  unfold UnpackedFloat.unpack
  rw [if_neg h]
  by_cases hexponent : unpackExponent b = BitVec.ofNat Format.binary64.exponentBits 0
  · rw [if_pos hexponent]
    by_cases hmantissa :
        unpackMantissa b = BitVec.ofNat Format.binary64.mantissaBitsWithoutImplicit 0
    · rw [dif_pos hmantissa]
      rfl
    · rw [dif_neg hmantissa]
      rfl
  · rw [if_neg hexponent]
    rfl

theorem unpackExponent_pack_finite (s : Sign) {m : Nat} {e : Int} (hm : 0 < m) (he : e ≤ 900) :
    unpackExponent (UnpackedFloat.pack Format.binary64 (.finite s m e hm)) =
      if m.log2 + 1 = 53 then BitVec.ofNat 11 (e + 1023 + 52).toNat else 0 := by
  have hfits : ¬ 2048 ≤ (e + 1023 + 52).toNat + 1 := by omega
  have hpack : UnpackedFloat.pack Format.binary64 (.finite s m e hm) =
      if m.log2 + 1 = 53 then
        packComponents Format.binary64 s (BitVec.ofNat 11 (e + 1023 + 52).toNat) (BitVec.ofNat 52 m)
      else packComponents Format.binary64 s 0 (BitVec.ofNat 52 m) :=
    if_neg hfits
  rw [hpack]
  split <;> exact unpackExponent_packComponents

theorem unpackExponent_pack_ne {f : UnpackedFloat} (h : IsModerate f) :
    unpackExponent (UnpackedFloat.pack Format.binary64 f) ≠
      -BitVec.ofNat Format.binary64.exponentBits 1 := by
  cases f with
  | infinity s => exact h.elim
  | notANumber => exact h.elim
  | zero s =>
      have hzero : unpackExponent (UnpackedFloat.pack Format.binary64 (.zero s)) = 0 :=
        unpackExponent_packComponents
      rw [hzero]
      decide
  | finite s m e hm =>
      have he : e ≤ 900 := h
      rw [unpackExponent_pack_finite s hm he]
      split
      · intro hones
        have hbits : (e + 1023 + 52).toNat % 2048 = 2047 := congrArg BitVec.toNat hones
        omega
      · decide

theorem isFinite_pack {f : UnpackedFloat} (h : IsModerate f) :
    (Float.Model.pack f).isFinite = true :=
  isFinite_unpack (unpackExponent_pack_ne h)

theorem mantissa_shiftRight_le (em : ExtendedMantissa) (k : Nat) :
    (em >>> k).mantissa ≤ em.mantissa := by
  induction k with
  | zero => exact Nat.le_refl _
  | succ k ih => exact Nat.le_trans (Nat.div_le_self _ 2) ih

theorem mantissa_ofMantissaAndAccuracy (m : Nat) (a : Accuracy) :
    (ExtendedMantissa.ofMantissaAndAccuracy m a).mantissa = m := by
  cases a with
  | exact => rfl
  | inexact o => cases o <;> rfl

theorem roundedMantissa_le (em : ExtendedMantissa) : em.roundedMantissa ≤ em.mantissa + 1 := by
  unfold ExtendedMantissa.roundedMantissa
  cases em.accuracy with
  | exact => exact Nat.le_succ _
  | inexact o => cases o <;> simp only [Accuracy.roundToNearestEven] <;> omega

theorem log2_le_of_le_succ {m n : Nat} (h : m ≤ n + 1) : m.log2 ≤ n.log2 + 1 := by
  by_cases hm : m = 0
  · rw [hm]
    exact Nat.zero_le _
  · have hn : n < 2 ^ (n.log2 + 1) := Nat.lt_log2_self
    have hpow : 2 ^ (n.log2 + 2) = 2 * 2 ^ (n.log2 + 1) := Nat.pow_succ'
    have hlt : m < 2 ^ (n.log2 + 2) := by omega
    exact Nat.le_of_lt_succ ((Nat.log2_lt hm).2 hlt)

theorem log2_shiftLeft_le (m k : Nat) : (m <<< k).log2 ≤ m.log2 + k := by
  by_cases hm : m <<< k = 0
  · rw [hm]
    exact Nat.zero_le _
  · have hlt : m <<< k < 2 ^ (m.log2 + 1 + k) := by
      rw [Nat.shiftLeft_eq, Nat.pow_add]
      exact Nat.mul_lt_mul_of_pos_right Nat.lt_log2_self (Nat.two_pow_pos k)
    have hlog := (Nat.log2_lt hm).2 hlt
    omega

theorem snd_shiftToTargetExponent (m : Nat) (e : Int) (a : Accuracy) :
    (shiftToTargetExponent Format.binary64 m e a).2 = max e (max (m.log2 + e - 52) (-1074)) := by
  have htarget : Format.binary64.targetExponent (totalExponent m e) =
      max ((m.log2 : Int) + 1 + e - 53) (-1074) := rfl
  change e + (Format.binary64.targetExponent (totalExponent m e) - e).toNat = _
  rw [htarget]
  omega

theorem mantissa_shiftToTargetExponent_le (m : Nat) (e : Int) (a : Accuracy) :
    (shiftToTargetExponent Format.binary64 m e a).1.mantissa ≤ m := by
  have hshift := mantissa_shiftRight_le (.ofMantissaAndAccuracy m a)
    (Format.binary64.targetExponent (totalExponent m e) - e).toNat
  rw [mantissa_ofMantissaAndAccuracy] at hshift
  exact hshift

/-- Rounding up may need one more bit, so the mantissa is moved twice. -/
theorem isModerate_roundWithAccuracy (s : Sign) {m : Nat} {e : Int} (a : Accuracy)
    (hm : m.log2 ≤ 200) (he : e ≤ 0) :
    IsModerate (roundWithAccuracy Format.binary64 s m e a) := by
  have hexponent := snd_shiftToTargetExponent m e a
  have hmantissa := mantissa_shiftToTargetExponent_le m e a
  unfold roundWithAccuracy
  generalize shiftToTargetExponent Format.binary64 m e a = first at hexponent hmantissa ⊢
  obtain ⟨em, moved⟩ := first
  have hrounded : em.roundedMantissa.log2 ≤ m.log2 + 1 :=
    log2_le_of_le_succ (Nat.le_trans (roundedMantissa_le em) (Nat.succ_le_succ hmantissa))
  have hlast := snd_shiftToTargetExponent em.roundedMantissa moved .exact
  dsimp only at hexponent ⊢
  by_cases hzero :
      (shiftToTargetExponent Format.binary64 em.roundedMantissa moved .exact).1.mantissa = 0
  · rw [dif_pos hzero]
    trivial
  · rw [dif_neg hzero]
    change (shiftToTargetExponent Format.binary64 em.roundedMantissa moved .exact).2 ≤ 900
    omega

theorem isModerate_round (s : Sign) {m : Nat} (hm : m.log2 ≤ 63) :
    IsModerate (UnpackedFloat.round Format.binary64 s m 0) := by
  have htarget : Format.binary64.targetExponent (totalExponent m 0) =
      max ((m.log2 : Int) + 1 + 0 - 53) (-1074) := rfl
  have hwiden := log2_shiftLeft_le m (0 - Format.binary64.targetExponent (totalExponent m 0)).toNat
  refine isModerate_roundWithAccuracy s .exact (Nat.le_trans hwiden ?_) ?_
  · rw [htarget]
    omega
  · omega

theorem isModerate_ofUInt64 (w : UInt64) :
    IsModerate (UnpackedFloat.ofUInt64 Format.binary64 w) := by
  change IsModerate (UnpackedFloat.normalize Format.binary64 w.toNat 0 .positive)
  unfold UnpackedFloat.normalize
  split
  · rename_i h
    have hneg : (w.toNat : Int) < 0 := Int.compare_eq_lt.1 h
    omega
  · trivial
  · rename_i h
    have hpos : (0 : Int) < w.toNat := Int.compare_eq_gt.1 h
    have hne : (w.toNat : Int).toNat ≠ 0 := by omega
    have hlt : (w.toNat : Int).toNat < 2 ^ 64 := w.toNat_lt
    exact isModerate_round .positive (Nat.le_of_lt_succ ((Nat.log2_lt hne).2 hlt))

theorem isFinite_toFloat (w : UInt64) : w.toFloat.isFinite = true :=
  isFinite_pack (isModerate_ofUInt64 w)

end Querysmith.Word
