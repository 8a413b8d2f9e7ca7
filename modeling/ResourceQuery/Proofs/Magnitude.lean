import Mathlib.Algebra.Group.Nat.Defs
import ResourceQuery.Decimal

namespace ResourceQuery

namespace Binary64

theorem magnitude_ofMagnitude {negative : Bool} {m : Nat} (h : m ≤ infiniteMagnitude) :
    (ofMagnitude negative m).magnitude = m := by
  have hi : m < signBit := Nat.lt_of_le_of_lt h (by decide)
  simp only [signBit] at hi
  simp only [ofMagnitude, magnitude, signBit, UInt64.toNat_ofNat']
  split <;> omega

theorem ofMagnitude_magnitude (x : Binary64) : ofMagnitude x.isNegative x.magnitude = x := by
  obtain ⟨bits⟩ := x
  have hb := bits.toNat_lt
  rw [ofMagnitude, Binary64.mk.injEq, ← UInt64.toNat_inj, UInt64.toNat_ofNat']
  by_cases h : signBit ≤ bits.toNat
  · simp only [isNegative, h, decide_true, if_true, magnitude]
    simp only [signBit] at *
    omega
  · simp only [isNegative, h, decide_false, Bool.false_eq_true, if_false, magnitude]
    simp only [signBit] at *
    omega

theorem eq_infinity {x : Binary64} (hn : x.isNaN = false) (hf : x.isFinite = false) :
    x = infinity x.isNegative := by
  have hm : x.magnitude = infiniteMagnitude := by
    simp only [isNaN, isFinite, decide_eq_false_iff_not] at hn hf
    omega
  rw [infinity, ← hm, ofMagnitude_magnitude]

theorem isNaN_ofMagnitude {negative : Bool} {m : Nat} (h : m ≤ infiniteMagnitude) :
    (ofMagnitude negative m).isNaN = false := by
  rw [isNaN, magnitude_ofMagnitude h]
  exact decide_eq_false (Nat.not_lt.2 h)

theorem isNaN_infinity (negative : Bool) : (infinity negative).isNaN = false :=
  isNaN_ofMagnitude (Nat.le_refl infiniteMagnitude)

theorem isNaN_zero (negative : Bool) : (zero negative).isNaN = false :=
  isNaN_ofMagnitude (Nat.zero_le infiniteMagnitude)

theorem nearestMagnitude_le (r : Ratio) : nearestMagnitude r ≤ infiniteMagnitude := by
  unfold nearestMagnitude
  split
  · exact Nat.zero_le _
  · exact Nat.min_le_left _ _

theorem isNaN_ofRatio (negative : Bool) (r : Ratio) : (ofRatio negative r).isNaN = false :=
  isNaN_ofMagnitude (nearestMagnitude_le r)

theorem isNegative_ofMagnitude {negative : Bool} {m : Nat} (h : m ≤ infiniteMagnitude) :
    (ofMagnitude negative m).isNegative = negative := by
  have hi : m < signBit := Nat.lt_of_le_of_lt h (by decide)
  simp only [signBit] at hi
  cases negative
  · simp only [ofMagnitude, isNegative, signBit, UInt64.toNat_ofNat', Bool.false_eq_true, if_false]
    rw [decide_eq_false_iff_not]
    omega
  · simp only [ofMagnitude, isNegative, signBit, UInt64.toNat_ofNat', if_true]
    rw [decide_eq_true_iff]
    omega

theorem natAbs_truncate (x : Binary64) : x.truncate.natAbs = x.ratio.floor := by
  rw [truncate]
  split <;> simp

theorem ratio_den_pos (x : Binary64) : 0 < x.ratio.den := by
  rw [ratio, Ratio.scale]
  split
  · exact Nat.one_pos
  · exact Nat.mul_pos Nat.one_pos (Nat.two_pow_pos _)

section

variable {m : Nat}

theorem exists_moved_up (hm : m ≠ 0) (h : m < 2 ^ 53) :
    ∃ k, Nat.log2 m + k = 52 ∧ 2 ^ 52 ≤ m * 2 ^ k ∧ m * 2 ^ k < 2 ^ 53 ∧
      Ratio.scale 2 ⟨m, 1⟩ (52 - Nat.log2 m) = ⟨m * 2 ^ k, 1⟩ := by
  have hlow := Nat.log2_self_le hm
  have hhigh := Nat.lt_log2_self (n := m)
  have hlt := (Nat.log2_lt hm).2 h
  generalize Nat.log2 m = bits at *
  obtain ⟨k, hk⟩ := Nat.exists_eq_add_of_le (Nat.le_of_lt_succ hlt)
  refine ⟨k, hk.symm, ?_, ?_, ?_⟩
  · rw [hk, Nat.pow_add]
    exact Nat.mul_le_mul_right _ hlow
  · rw [show 53 = bits + 1 + k by omega, Nat.pow_add]
    exact Nat.mul_lt_mul_of_pos_right hhigh (Nat.two_pow_pos k)
  · rw [show (52 : Int) - bits = k by omega, Ratio.scale, if_pos (by omega)]
    rfl

theorem exists_moved_down (h : 2 ^ 53 ≤ m) :
    ∃ k, Nat.log2 m = 53 + k ∧ 2 ^ 52 ≤ m / 2 ^ (k + 1) ∧
      Ratio.scale 2 ⟨m, 1⟩ (52 - Nat.log2 m) = ⟨m, 2 ^ (k + 1)⟩ := by
  have hm : m ≠ 0 := by omega
  have hlow := Nat.log2_self_le hm
  have hle := (Nat.le_log2 hm).2 h
  generalize Nat.log2 m = bits at *
  obtain ⟨k, rfl⟩ := Nat.exists_eq_add_of_le hle
  refine ⟨k, rfl, ?_, ?_⟩
  · rw [Nat.le_div_iff_mul_le (Nat.two_pow_pos _), ← Nat.pow_add,
      show 52 + (k + 1) = 53 + k by omega]
    exact hlow
  · rw [Ratio.scale, if_neg (by omega),
      show (-((52 : Int) - (53 + k : Nat))).toNat = k + 1 by omega]
    simp

theorem lastExponent_integer (hm : m ≠ 0) : lastExponent ⟨m, 1⟩ = Nat.log2 m - 52 := by
  have hfloor : leadingBit ≤ (Ratio.scale 2 ⟨m, 1⟩ (52 - Nat.log2 m)).floor := by
    by_cases h : m < 2 ^ 53
    · obtain ⟨k, -, hlow, -, hscale⟩ := exists_moved_up hm h
      rw [hscale, Ratio.floor, Nat.div_one]
      exact hlow
    · obtain ⟨k, -, hlow, hscale⟩ := exists_moved_down (Nat.not_lt.1 h)
      rw [hscale]
      exact hlow
  have hmax : max ((Nat.log2 m : Int) - (Nat.log2 1 : Int) - 52) (-1074) = Nat.log2 m - 52 := by
    rw [show Nat.log2 1 = 0 by decide]
    omega
  unfold lastExponent
  simp only [hmax, Int.neg_sub]
  rw [if_neg]
  omega

theorem nearestMagnitude_integer (hm : m ≠ 0) :
    nearestMagnitude ⟨m, 1⟩ = min infiniteMagnitude ((Nat.log2 m + 1022) * leadingBit +
      (Ratio.scale 2 ⟨m, 1⟩ (52 - Nat.log2 m)).round) := by
  rw [nearestMagnitude, if_neg hm]
  simp only [lastExponent_integer hm, Int.neg_sub]
  rw [show ((Nat.log2 m : Int) - 52 + 1074).toNat = Nat.log2 m + 1022 by omega]

theorem Ratio.floor_le_round (r : Ratio) : r.floor ≤ r.round := by
  unfold Ratio.round
  simp only
  split <;> omega

theorem Ratio.round_integer (m : Nat) : Ratio.round ⟨m, 1⟩ = m := by
  simp [Ratio.round, Ratio.floor, Nat.mod_one]

theorem parts_of_magnitude {x : Binary64} {field significand : Nat}
    (hx : x.magnitude = field * leadingBit + significand) (hlow : 2 ^ 52 ≤ significand)
    (hhigh : significand < 2 ^ 53) : x.parts = ⟨significand, field - 1074⟩ := by
  have hfield : x.magnitude / leadingBit = field + 1 := by
    simp only [leadingBit] at *
    omega
  have hfraction : x.magnitude % leadingBit = significand - leadingBit := by
    simp only [leadingBit] at *
    omega
  unfold parts
  simp only [hfield, hfraction]
  rw [if_neg (Nat.succ_ne_zero field), Parts.mk.injEq]
  simp only [leadingBit]
  omega

/-- What has been moved up as a significand is moved down by the exponent. -/
theorem floor_ratio_of_magnitude {x : Binary64} {k : Nat} (hk : k ≤ 52)
    (hx : x.magnitude = (1074 - k) * leadingBit + m * 2 ^ k) (hlow : 2 ^ 52 ≤ m * 2 ^ k)
    (hhigh : m * 2 ^ k < 2 ^ 53) : x.ratio.floor = m := by
  rw [ratio, parts_of_magnitude hx hlow hhigh,
    show (((1074 - k : Nat) : Int) - 1074) = -(k : Int) by omega]
  cases k with
  | zero => simp [Ratio.scale, Ratio.floor]
  | succ k =>
      have hneg : ¬(0 : Int) ≤ -((k + 1 : Nat) : Int) := by omega
      rw [Ratio.scale, if_neg hneg, Ratio.floor, Int.neg_neg, Int.toNat_natCast, Nat.one_mul]
      exact Nat.mul_div_cancel m (Nat.two_pow_pos (k + 1))

theorem magnitude_ofRatio (negative : Bool) (r : Ratio) :
    (ofRatio negative r).magnitude = nearestMagnitude r :=
  magnitude_ofMagnitude (nearestMagnitude_le r)

theorem isNegative_ofRatio (negative : Bool) (r : Ratio) :
    (ofRatio negative r).isNegative = negative :=
  isNegative_ofMagnitude (nearestMagnitude_le r)

theorem ofRatio_small (negative : Bool) (h : m < 2 ^ 53) :
    (ofRatio negative ⟨m, 1⟩).isFinite ∧
      (ofRatio negative ⟨m, 1⟩).truncate = if negative then -(m : Int) else m := by
  suffices hs : nearestMagnitude ⟨m, 1⟩ < infiniteMagnitude ∧
      (ofRatio negative ⟨m, 1⟩).ratio.floor = m by
    rw [isFinite, magnitude_ofRatio, truncate, isNegative_ofRatio, hs.2]
    exact ⟨decide_eq_true hs.1, rfl⟩
  by_cases hm : m = 0
  · subst hm
    have hparts : (ofRatio negative ⟨0, 1⟩).parts = ⟨0, -1074⟩ := by cases negative <;> rfl
    refine ⟨by decide, ?_⟩
    rw [ratio, hparts, Ratio.scale, if_neg (by decide), Ratio.floor, Nat.zero_div]
  · obtain ⟨k, hk, hlow, hhigh, hscale⟩ := exists_moved_up hm h
    have hmagnitude : nearestMagnitude ⟨m, 1⟩ = (1074 - k) * leadingBit + m * 2 ^ k := by
      rw [nearestMagnitude_integer hm, hscale, Ratio.round_integer,
        show Nat.log2 m + 1022 = 1074 - k by omega, Nat.min_eq_right]
      simp only [infiniteMagnitude, leadingBit]
      omega
    constructor
    · rw [hmagnitude]
      simp only [infiniteMagnitude, leadingBit]
      omega
    · have hratio := (magnitude_ofRatio negative ⟨m, 1⟩).trans hmagnitude
      exact floor_ratio_of_magnitude (by omega) hratio hlow hhigh

theorem le_floor_of_le_magnitude {x : Binary64} (h : 1076 * leadingBit ≤ x.magnitude) :
    2 ^ 53 ≤ x.ratio.floor := by
  have hfield : 1076 ≤ x.magnitude / leadingBit := (Nat.le_div_iff_mul_le (by decide)).2 h
  obtain ⟨k, hk⟩ := Nat.exists_eq_add_of_le hfield
  have hparts : x.parts = ⟨leadingBit + x.magnitude % leadingBit, (k + 1 : Nat)⟩ := by
    unfold parts
    simp only [hk]
    rw [if_neg (by omega), Parts.mk.injEq]
    exact ⟨rfl, by omega⟩
  rw [ratio, hparts, Ratio.scale, if_pos (Int.natCast_nonneg _), Ratio.floor, Nat.div_one,
    Int.toNat_natCast]
  calc 2 ^ 53 = leadingBit * 2 ^ 1 := by rfl
    _ ≤ (leadingBit + x.magnitude % leadingBit) * 2 ^ (k + 1) :=
      Nat.mul_le_mul (Nat.le_add_right _ _) (Nat.pow_le_pow_right (by decide) (by omega))

theorem le_truncate_ofRatio (negative : Bool) (h : 2 ^ 53 ≤ m) :
    2 ^ 53 ≤ (ofRatio negative ⟨m, 1⟩).truncate.natAbs := by
  rw [natAbs_truncate]
  obtain ⟨k, hk, hlow, hscale⟩ := exists_moved_down h
  have hmagnitude : 1076 * leadingBit ≤ nearestMagnitude ⟨m, 1⟩ := by
    have hround := Ratio.floor_le_round ⟨m, 2 ^ (k + 1)⟩
    simp only [Ratio.floor] at hround
    rw [nearestMagnitude_integer (by omega), hscale, Nat.le_min]
    simp only [infiniteMagnitude, leadingBit]
    omega
  exact le_floor_of_le_magnitude (magnitude_ofRatio negative ⟨m, 1⟩ ▸ hmagnitude)

end

end Binary64

namespace Decimal

theorem isNaN_toBinary64 (negative : Bool) (d : Decimal) :
    (d.toBinary64 negative).isNaN = false := by
  unfold toBinary64
  split
  · exact Binary64.isNaN_zero _
  · simp only
    split
    · exact Binary64.isNaN_infinity _
    · split
      · exact Binary64.isNaN_zero _
      · exact Binary64.isNaN_ofRatio _ _

theorem toBinary64_integer (negative : Bool) (m : Nat) :
    toBinary64 negative ⟨m, 0⟩ = Binary64.ofRatio negative ⟨m, 1⟩ := by
  unfold toBinary64
  by_cases hm : m = 0
  · subst hm
    rfl
  · simp [hm, Binary64.Ratio.scale]

end Decimal

end ResourceQuery
