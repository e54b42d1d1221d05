import RuffleAvm1.Display.Stage

/-! What the view matrix of `build_matrices` does with the movie, through the rounding of the
`f64` scales and their `f32` casts: `ShowAll` fits it inside the viewport, `NoBorder` covers the
viewport with it, `ExactFit` stretches it onto the viewport, each up to a relative `2^-20`; and
what the letterbox bars `draw_letterbox` draws over the margins `ShowAll` leaves. -/

namespace Ruffle

open Avm1 (Number)
open FloatFormat (binary32 binary64)

/-! ### A scale rounded twice -/

theorem side_bounds {n : UInt32} (positive : 0 < n.toNat) : (1 : ℚ) ≤ n.toNat ∧ (n.toNat : ℚ) < 2 ^ 32 :=
  ⟨by exact_mod_cast positive, by exact_mod_cast UInt32.toNat_lt_size n⟩

section Ratio

variable {p q : ℚ} (pLow : 1 ≤ p) (pHigh : p < 2 ^ 32) (qLow : 1 ≤ q) (qHigh : q < 2 ^ 32)
include pLow pHigh qLow qHigh

theorem ratio_bounds : 1 / 2 ^ 32 ≤ p / q ∧ p / q < 2 ^ 32 := by
  have positive : 0 < q := by linarith
  constructor
  · rw [div_le_div_iff₀ (by norm_num) positive]; linarith
  · rw [div_lt_iff₀ positive]; nlinarith

/-- `p / q` in `f64` and its `f32` cast: finite, each within a unit in the last place. -/
theorem ratio_rounded :
    binary64.div (.finite p) (.finite q) = .finite (binary64.round (p / q)) ∧
      p * (1 - 1 / 2 ^ 53) ≤ q * binary64.round (p / q) ∧ q * binary64.round (p / q) ≤ p * (1 + 1 / 2 ^ 53) ∧
      toBinary32 (.finite (binary64.round (p / q))) = .finite (binary32.round (binary64.round (p / q))) ∧
      p * ((1 - 1 / 2 ^ 53) * (1 - 1 / 2 ^ 24)) ≤ q * binary32.round (binary64.round (p / q)) ∧
      q * binary32.round (binary64.round (p / q)) ≤ p * ((1 + 1 / 2 ^ 53) * (1 + 1 / 2 ^ 24)) ∧
      1 / 2 ^ 40 ≤ binary64.round (p / q) := by
  obtain ⟨low, high⟩ := ratio_bounds pLow pHigh qLow qHigh
  have positive : 0 < q := by linarith
  have ratioPositive : 0 < p / q := by positivity
  have normal := FloatFormat.normal_of_bounds (x := p / q)
    (by rw [abs_of_pos ratioPositive]; exact le_trans (by norm_num) low)
    (by rw [abs_of_pos ratioPositive]; exact high.le.trans (by norm_num))
  obtain ⟨once, once'⟩ := FloatFormat.round_mem normal.1 ratioPositive
  simp only [FloatFormat.precision_binary64] at once once'
  set r := binary64.round (p / q)
  have rLow : 1 / 2 ^ 40 ≤ r :=
    le_trans (by norm_num) ((mul_le_mul_of_nonneg_right low (by norm_num)).trans once)
  have rHigh : r ≤ 2 ^ 100 :=
    once'.trans ((mul_le_mul_of_nonneg_right high.le (by norm_num)).trans (by norm_num))
  have rPositive : 0 < r := lt_of_lt_of_le (by norm_num) rLow
  have rNormal := FloatFormat.normal_of_bounds (x := r) (by rw [abs_of_pos rPositive]; exact rLow.trans' (by norm_num))
    (by rwa [abs_of_pos rPositive])
  obtain ⟨twice, twice'⟩ := FloatFormat.round_mem rNormal.2 rPositive
  simp only [FloatFormat.precision_binary32] at twice twice'
  have cancel : q * (p / q) = p := mul_div_cancel₀ p positive.ne'
  have below : p * (1 - 1 / 2 ^ 53) ≤ q * r := by
    simpa only [← mul_assoc, cancel] using mul_le_mul_of_nonneg_left once positive.le
  have above : q * r ≤ p * (1 + 1 / 2 ^ 53) := by
    simpa only [← mul_assoc, cancel] using mul_le_mul_of_nonneg_left once' positive.le
  refine ⟨FloatFormat.div_finite positive.ne' ((abs_of_pos ratioPositive).trans_le (high.le.trans (by norm_num))),
    below, above, toBinary32_finite ((abs_of_pos rPositive).trans_le rHigh), ?_, ?_, rLow⟩
  · calc p * ((1 - 1 / 2 ^ 53) * (1 - 1 / 2 ^ 24)) = p * (1 - 1 / 2 ^ 53) * (1 - 1 / 2 ^ 24) := by ring
      _ ≤ q * r * (1 - 1 / 2 ^ 24) := mul_le_mul_of_nonneg_right below (by norm_num)
      _ = q * (r * (1 - 1 / 2 ^ 24)) := by ring
      _ ≤ q * binary32.round r := mul_le_mul_of_nonneg_left twice positive.le
  · calc q * binary32.round r ≤ q * (r * (1 + 1 / 2 ^ 24)) := mul_le_mul_of_nonneg_left twice' positive.le
      _ = q * r * (1 + 1 / 2 ^ 24) := by ring
      _ ≤ p * (1 + 1 / 2 ^ 53) * (1 + 1 / 2 ^ 24) := mul_le_mul_of_nonneg_right above (by norm_num)
      _ = p * ((1 + 1 / 2 ^ 53) * (1 + 1 / 2 ^ 24)) := by ring

end Ratio

/-! ### Fitting and covering -/

section Fit

variable {w h W H a : ℚ}

theorem height_near (hH : 0 < H) (near : H * ((1 - 1 / 2 ^ 53) * (1 - 1 / 2 ^ 24)) ≤ h * a ∧
      h * a ≤ H * ((1 + 1 / 2 ^ 53) * (1 + 1 / 2 ^ 24))) :
    h * a ≤ H * (1 + 1 / 2 ^ 20) ∧ H * (1 - 1 / 2 ^ 20) ≤ h * a :=
  ⟨near.2.trans (mul_le_mul_of_nonneg_left (by norm_num) hH.le),
    le_trans (mul_le_mul_of_nonneg_left (by norm_num) hH.le) near.1⟩

theorem fits_along (hw : 0 < w) (hh : 0 < h) (hW : 0 < W) (near : h * a ≤ H * ((1 + 1 / 2 ^ 53) * (1 + 1 / 2 ^ 24)))
    (aspect : w * H * (1 - 1 / 2 ^ 53) ≤ W * h * (1 + 1 / 2 ^ 53)) :
    w * a ≤ W * (1 + 1 / 2 ^ 20) := by
  have key : w * a * (h * (1 - 1 / 2 ^ 53)) ≤ W * (1 + 1 / 2 ^ 20) * (h * (1 - 1 / 2 ^ 53)) :=
    calc w * a * (h * (1 - 1 / 2 ^ 53)) = h * a * (w * (1 - 1 / 2 ^ 53)) := by ring
      _ ≤ H * ((1 + 1 / 2 ^ 53) * (1 + 1 / 2 ^ 24)) * (w * (1 - 1 / 2 ^ 53)) :=
        mul_le_mul_of_nonneg_right near (mul_nonneg hw.le (by norm_num))
      _ = w * H * (1 - 1 / 2 ^ 53) * ((1 + 1 / 2 ^ 53) * (1 + 1 / 2 ^ 24)) := by ring
      _ ≤ W * h * (1 + 1 / 2 ^ 53) * ((1 + 1 / 2 ^ 53) * (1 + 1 / 2 ^ 24)) :=
        mul_le_mul_of_nonneg_right aspect (by norm_num)
      _ = W * h * ((1 + 1 / 2 ^ 53) * ((1 + 1 / 2 ^ 53) * (1 + 1 / 2 ^ 24))) := by ring
      _ ≤ W * h * ((1 + 1 / 2 ^ 20) * (1 - 1 / 2 ^ 53)) :=
        mul_le_mul_of_nonneg_left (by norm_num) (by positivity)
      _ = W * (1 + 1 / 2 ^ 20) * (h * (1 - 1 / 2 ^ 53)) := by ring
  exact le_of_mul_le_mul_right key (mul_pos hh (by norm_num))

theorem covers_along (hw : 0 < w) (hh : 0 < h) (hW : 0 < W)
    (near : H * ((1 - 1 / 2 ^ 53) * (1 - 1 / 2 ^ 24)) ≤ h * a) (aspect : W * h * (1 - 1 / 2 ^ 53) ≤ w * H * (1 + 1 / 2 ^ 53)) :
    W * (1 - 1 / 2 ^ 20) ≤ w * a := by
  have key : W * (1 - 1 / 2 ^ 20) * (h * (1 + 1 / 2 ^ 53)) ≤ w * a * (h * (1 + 1 / 2 ^ 53)) :=
    calc W * (1 - 1 / 2 ^ 20) * (h * (1 + 1 / 2 ^ 53))
        = W * h * ((1 - 1 / 2 ^ 20) * (1 + 1 / 2 ^ 53)) := by ring
      _ ≤ W * h * ((1 - 1 / 2 ^ 53) * ((1 - 1 / 2 ^ 53) * (1 - 1 / 2 ^ 24))) :=
        mul_le_mul_of_nonneg_left (by norm_num) (by positivity)
      _ = W * h * (1 - 1 / 2 ^ 53) * ((1 - 1 / 2 ^ 53) * (1 - 1 / 2 ^ 24)) := by ring
      _ ≤ w * H * (1 + 1 / 2 ^ 53) * ((1 - 1 / 2 ^ 53) * (1 - 1 / 2 ^ 24)) :=
        mul_le_mul_of_nonneg_right aspect (by norm_num)
      _ = H * ((1 - 1 / 2 ^ 53) * (1 - 1 / 2 ^ 24)) * (w * (1 + 1 / 2 ^ 53)) := by ring
      _ ≤ h * a * (w * (1 + 1 / 2 ^ 53)) := mul_le_mul_of_nonneg_right near (by positivity)
      _ = w * a * (h * (1 + 1 / 2 ^ 53)) := by ring
  exact le_of_mul_le_mul_right key (by positivity)

end Fit

theorem aspect_of_le {w h W H m m' : ℚ} (hh : 0 < h) (hH : 0 < H) (low : w * (1 - 1 / 2 ^ 53) ≤ h * m)
    (high : H * m' ≤ W * (1 + 1 / 2 ^ 53)) (ordered : m ≤ m') :
    w * H * (1 - 1 / 2 ^ 53) ≤ W * h * (1 + 1 / 2 ^ 53) :=
  calc w * H * (1 - 1 / 2 ^ 53) = w * (1 - 1 / 2 ^ 53) * H := by ring
    _ ≤ h * m * H := mul_le_mul_of_nonneg_right low hH.le
    _ ≤ h * m' * H := mul_le_mul_of_nonneg_right (mul_le_mul_of_nonneg_left ordered hh.le) hH.le
    _ = h * (H * m') := by ring
    _ ≤ h * (W * (1 + 1 / 2 ^ 53)) := mul_le_mul_of_nonneg_left high hh.le
    _ = W * h * (1 + 1 / 2 ^ 53) := by ring

/-! ### Rounding errors as bounds -/

theorem near_binary64 {x B : ℚ} (bound : |x| ≤ B) (one : 1 ≤ B) :
    x - B / 2 ^ 52 ≤ binary64.round x ∧ binary64.round x ≤ x + B / 2 ^ 52 := by
  have error := abs_le.mp (FloatFormat.abs_round_sub_le_binary64 x)
  constructor <;> linarith only [error.1, error.2, bound, one]

theorem near_binary32 {x B : ℚ} (bound : |x| ≤ B) (one : 1 ≤ B) :
    x - B / 2 ^ 23 ≤ binary32.round x ∧ binary32.round x ≤ x + B / 2 ^ 23 := by
  have error := abs_le.mp (FloatFormat.abs_round_sub_le_binary32 x)
  constructor <;> linarith only [error.1, error.2, bound, one]

theorem ofRat_binary64 {x B : ℚ} (bound : |x| ≤ B) (one : 1 ≤ B) (small : B ≤ 2 ^ 100) :
    ∃ r, binary64.ofRat x = .finite r ∧ x - B / 2 ^ 52 ≤ r ∧ r ≤ x + B / 2 ^ 52 :=
  ⟨_, FloatFormat.ofRat_of_abs_le (bound.trans (small.trans (by norm_num))), near_binary64 bound one⟩

theorem ofRat_binary32 {x B : ℚ} (bound : |x| ≤ B) (one : 1 ≤ B) (small : B ≤ 2 ^ 100) :
    ∃ r, binary32.ofRat x = .finite r ∧ x - B / 2 ^ 23 ≤ r ∧ r ≤ x + B / 2 ^ 23 :=
  ⟨_, FloatFormat.ofRat_of_abs_le (bound.trans (small.trans (by norm_num))), near_binary32 bound one⟩

theorem abs_le_maxExp_binary64 {x : ℚ} (small : |x| ≤ 2 ^ 100) : |x| ≤ 2 ^ binary64.maxExp :=
  small.trans (by norm_num)

/-! ### Twips -/

theorem fromPixels_near_twenty {t : ℚ} (bounded : |t| ≤ 2 ^ 26) :
    |(fromPixels (.finite t) : ℚ) - 20 * t| ≤ 1 + 1 / 2 ^ 20 := by
  have scaled : |t * 20| ≤ 20 * 2 ^ 26 := by
    rw [abs_mul, abs_of_pos (by norm_num : (0 : ℚ) < 20)]; linarith only [bounded]
  obtain ⟨low, high⟩ := near_binary64 scaled (by norm_num)
  set r := binary64.round (t * 20)
  obtain ⟨truncated, smaller⟩ := truncate_near r
  have product := abs_le.mp scaled
  have inside := abs_lt.mp (lt_of_le_of_lt smaller
    (abs_lt.mpr ⟨by linarith only [low, product.1], by linarith only [high, product.2]⟩ : |r| < 2 ^ 31 - 1))
  have saturated : max (-2 ^ 31) (min (2 ^ 31 - 1) (truncate r)) = truncate r := by
    have low' : -2 ^ 31 < truncate r := by exact_mod_cast (by linarith only [inside.1] : (-2 ^ 31 : ℚ) < truncate r)
    have high' : truncate r < 2 ^ 31 - 1 := by exact_mod_cast inside.2
    omega
  simp only [fromPixels, FloatFormat.mul_finite (abs_le_maxExp_binary64 (scaled.trans (by norm_num))),
    saturatingI32, saturated]
  have near := abs_lt.mp truncated
  exact abs_le.mpr ⟨by linarith only [near.1, low], by linarith only [near.2, high]⟩

theorem fromPixels_small {t : ℚ} (small : |t| ≤ 1 / 2 ^ 10) : fromPixels (.finite t) = 0 := by
  have scaled : |t * 20| ≤ 20 / 2 ^ 10 := by
    rw [abs_mul, abs_of_pos (by norm_num : (0 : ℚ) < 20)]; linarith only [small]
  obtain ⟨low, high⟩ := near_binary64 (scaled.trans (by norm_num)) le_rfl
  have product := abs_le.mp scaled
  have rounded : |binary64.round (t * 20)| < 1 :=
    abs_lt.mpr ⟨by linarith only [low, product.1], by linarith only [high, product.2]⟩
  simp only [fromPixels, FloatFormat.mul_finite (abs_le_maxExp_binary64 (scaled.trans (by norm_num))),
    saturatingI32, truncate_eq_zero rounded]
  norm_num

theorem fromPixels_near {y : ℚ} {n : ℕ} (low : 1 ≤ n) (high : n < 2 ^ 32) (close : |y - n| ≤ 1 / 2 ^ 10) :
    min (20 * (n : ℤ) - 1) (2 ^ 31 - 1) ≤ fromPixels (.finite y) ∧
      fromPixels (.finite y) ≤ min (20 * (n : ℤ)) (2 ^ 31 - 1) := by
  have nLow : (1 : ℚ) ≤ n := by exact_mod_cast low
  have nHigh : (n : ℚ) < 2 ^ 32 := by exact_mod_cast high
  obtain ⟨yLow, yHigh⟩ := abs_le.mp close
  have bounded : |y * 20| ≤ 2 ^ 38 := by
    rw [abs_of_pos (by linarith only [yLow, nLow])]; linarith only [yHigh, nHigh]
  obtain ⟨errorLow, errorHigh⟩ := near_binary64 bounded (by norm_num)
  set r := binary64.round (y * 20)
  have floorLow : 20 * (n : ℤ) - 1 ≤ ⌊r⌋ := Int.le_floor.mpr (by push_cast; linarith only [errorLow, yLow])
  have floorHigh : ⌊r⌋ ≤ 20 * (n : ℤ) := Int.floor_le_iff.mpr (by push_cast; linarith only [errorHigh, yHigh])
  simp only [fromPixels, FloatFormat.mul_finite (abs_le_maxExp_binary64 (bounded.trans (by norm_num))),
    saturatingI32, truncate_of_nonneg (by linarith only [errorLow, yLow, nLow] : 0 ≤ r)]
  omega

/-! ### `ExactFit` -/

theorem exactFit_room {m V : ℚ} (mLow : 1 ≤ m) (mHigh : m < 2 ^ 32) (VLow : 1 ≤ V) (VHigh : V < 2 ^ 32) :
    ∃ s d, binary64.div (.finite V) (.finite m) = .finite s ∧
      binary64.sub (.finite V) (binary64.mul (.finite m) (.finite s)) = .finite d ∧
      V / 2 ^ 33 ≤ s ∧ |d| ≤ V / 2 ^ 50 := by
  obtain ⟨scaled, low, high, -, -, -, sLow⟩ := ratio_rounded VLow VHigh mLow mHigh
  set s := binary64.round (V / m)
  have sPositive : 0 < s := lt_of_lt_of_le (by norm_num) sLow
  have product : |m * s| ≤ 2 * V := by
    rw [abs_of_pos (mul_pos (by linarith only [mLow]) sPositive)]; linarith only [high, VLow]
  obtain ⟨pLow, pHigh⟩ := near_binary64 product (by linarith only [VLow])
  set p := binary64.round (m * s)
  have difference : |V - p| ≤ 3 * V / 2 ^ 52 :=
    abs_le.mpr ⟨by linarith only [pHigh, high, VLow], by linarith only [pLow, low, VLow]⟩
  obtain ⟨dLow, dHigh⟩ := near_binary64 (difference.trans (by linarith only [VLow])) VLow
  have room := abs_le.mp difference
  have cross := mul_lt_mul_of_pos_right mHigh sPositive
  refine ⟨s, binary64.round (V - p), scaled, ?_, by rw [div_le_iff₀ (by norm_num)]; linarith only [low, cross, VLow],
    abs_le.mpr ⟨by linarith only [dLow, room.1], by linarith only [dHigh, room.2]⟩⟩
  rw [FloatFormat.mul_finite (abs_le_maxExp_binary64 (product.trans (by linarith only [VHigh]))),
    FloatFormat.sub_finite (abs_le_maxExp_binary64 (difference.trans (by linarith only [VHigh])))]

theorem translated {d : ℚ} (small : |d| ≤ 1) (toStart toEnd : Bool) :
    ∃ t, (if toStart then Number.finite 0 else if toEnd then .finite d
      else binary64.div (.finite d) (.finite 2)) = .finite t ∧ |t| ≤ |d| + 1 / 2 ^ 900 := by
  have halved : |d / 2| = |d| / 2 := by rw [abs_div, abs_two]
  have rounded := abs_sub_abs_le_abs_sub (binary64.round (d / 2)) (d / 2)
  have error := FloatFormat.abs_round_sub_le_binary64 (d / 2)
  cases toStart
  · cases toEnd
    · refine ⟨_, FloatFormat.div_finite two_ne_zero (abs_le_maxExp_binary64 (by linarith only [halved, small])), ?_⟩
      linarith only [rounded, error, halved, small, abs_nonneg d]
    · exact ⟨d, rfl, le_add_of_nonneg_right (by norm_num)⟩
  · exact ⟨0, rfl, by rw [abs_zero]; positivity⟩

theorem exactFit_edges {m V s d t : ℚ} {n : ℕ} (side : (n : ℚ) = m) (nLow : 1 ≤ n) (nHigh : n < 2 ^ 32)
    (VLow : 1 ≤ V) (VHigh : V < 2 ^ 32) (scaled : V / 2 ^ 33 ≤ s) (room : |d| ≤ V / 2 ^ 50)
    (moved : |t| ≤ |d| + 1 / 2 ^ 900) :
    fromPixels (.finite t) = 0 ∧ fromPixels (binary64.div (.finite t) (.finite s)).neg = 0 ∧
      min (20 * (n : ℤ) - 1) (2 ^ 31 - 1) ≤
        fromPixels (binary64.add (.finite m) (binary64.div (binary64.sub (.finite d) (.finite t)) (.finite s))) ∧
      fromPixels (binary64.add (.finite m) (binary64.div (binary64.sub (.finite d) (.finite t)) (.finite s))) ≤
        min (20 * (n : ℤ)) (2 ^ 31 - 1) := by
  have mLow : (1 : ℚ) ≤ m := side ▸ by exact_mod_cast nLow
  have mHigh : m < 2 ^ 32 := side ▸ by exact_mod_cast nHigh
  have sPositive : 0 < s := lt_of_lt_of_le (by positivity) scaled
  have tSmall : |t| ≤ V / 2 ^ 49 := by linarith only [moved, room, VLow]
  have leftRatio : |t / s| ≤ 1 / 2 ^ 16 := by
    rw [abs_div, abs_of_pos sPositive, div_le_iff₀ sPositive]; linarith only [tSmall, scaled]
  obtain ⟨leftLow, leftHigh⟩ := near_binary64 (leftRatio.trans (by norm_num)) le_rfl
  have leftBound := abs_le.mp leftRatio
  have gap : |d - t| ≤ V / 2 ^ 48 := (abs_sub _ _).trans (by linarith only [room, tSmall, VLow])
  obtain ⟨gapLow, gapHigh⟩ := near_binary64 (gap.trans (by linarith only [VHigh])) le_rfl
  have gapBound := abs_le.mp gap
  set e := binary64.round (d - t)
  have rightRatio : |e / s| ≤ 1 / 2 ^ 14 := by
    rw [abs_div, abs_of_pos sPositive, div_le_iff₀ sPositive]
    exact abs_le.mpr
      ⟨by linarith only [gapLow, gapBound.1, scaled, VLow], by linarith only [gapHigh, gapBound.2, scaled, VLow]⟩
  obtain ⟨rightLow, rightHigh⟩ := near_binary64 (rightRatio.trans (by norm_num)) le_rfl
  have rightBound := abs_le.mp rightRatio
  set margin := binary64.round (e / s)
  have sum : |m + margin| ≤ 2 ^ 33 :=
    abs_le.mpr ⟨by linarith only [rightLow, rightBound.1, mLow], by linarith only [rightHigh, rightBound.2, mHigh]⟩
  obtain ⟨sumLow, sumHigh⟩ := near_binary64 sum (by norm_num)
  have edge : |binary64.round (m + margin) - n| ≤ 1 / 2 ^ 10 := by
    rw [side]
    exact abs_le.mpr
      ⟨by linarith only [sumLow, rightLow, rightBound.1], by linarith only [sumHigh, rightHigh, rightBound.2]⟩
  refine ⟨fromPixels_small (tSmall.trans (by linarith only [VHigh])), ?_, ?_⟩
  · rw [FloatFormat.div_finite sPositive.ne' (abs_le_maxExp_binary64 (leftRatio.trans (by norm_num)))]
    exact fromPixels_small (by
      rw [abs_neg]; exact abs_le.mpr ⟨by linarith only [leftLow, leftBound.1], by linarith only [leftHigh, leftBound.2]⟩)
  · rw [FloatFormat.sub_finite (abs_le_maxExp_binary64 (gap.trans (by linarith only [VHigh]))),
      FloatFormat.div_finite sPositive.ne' (abs_le_maxExp_binary64 (rightRatio.trans (by norm_num))),
      FloatFormat.add_finite (abs_le_maxExp_binary64 (sum.trans (by norm_num)))]
    exact fromPixels_near nLow nHigh edge

/-! ### The letterbox -/

/-- The top margin: the `f64` half room, through the twips of the translation, cast to `f32`. -/
theorem letterbox_top_margin {h H s : ℚ} (HLow : 1 ≤ H) (HHigh : H ≤ 2 ^ 26) (hs : 0 ≤ h * s)
    (fits : h * s ≤ 2 * H) :
    ∃ top, toBinary32 (toPixels (fromPixels (binary64.div (binary64.sub (.finite H)
        (binary64.mul (.finite h) (.finite s))) (.finite 2)))) = .finite top ∧
      |top - (H - h * s) / 2| ≤ 1 / 20 + H / 2 ^ 21 := by
  have HOne : 1 ≤ 2 * H := by linarith only [HLow]
  have HSmall : 2 * H ≤ 2 ^ 100 := by linarith only [HHigh]
  obtain ⟨p, product, pLow, pHigh⟩ := ofRat_binary64 (x := h * s) (B := 2 * H) (by rw [abs_of_nonneg hs]; exact fits) HOne HSmall
  obtain ⟨d, room, dLow, dHigh⟩ := ofRat_binary64 (x := H + -p) (B := 2 * H)
    (abs_le.mpr ⟨by linarith only [pHigh, fits, HLow], by linarith only [pLow, hs, HLow]⟩) HOne HSmall
  obtain ⟨t, half, tLow, tHigh⟩ := ofRat_binary64 (x := d / 2) (B := H)
    (abs_le.mpr ⟨by linarith only [dLow, pHigh, fits, HLow], by linarith only [dHigh, pLow, hs, HLow]⟩) HLow
    (by linarith only [HHigh])
  have tBound : |t| ≤ 2 ^ 26 := abs_le.mpr
    ⟨by linarith only [tLow, dLow, pHigh, fits, HLow, HHigh], by linarith only [tHigh, dHigh, pLow, hs, HLow, HHigh]⟩
  have twips := abs_le.mp (fromPixels_near_twenty tBound)
  set ty := fromPixels (.finite t)
  obtain ⟨q, pixels, qLow, qHigh⟩ := ofRat_binary64 (x := (ty : ℚ) / 20) (B := H)
    (abs_le.mpr ⟨by linarith only [twips.1, tLow, dLow, pHigh, fits, HLow],
      by linarith only [twips.2, tHigh, dHigh, pLow, hs, HLow]⟩) HLow (by linarith only [HHigh])
  obtain ⟨top, topCast, topLow, topHigh⟩ := ofRat_binary32 (x := q) (B := H)
    (abs_le.mpr ⟨by linarith only [qLow, twips.1, tLow, dLow, pHigh, fits, HLow],
      by linarith only [qHigh, twips.2, tHigh, dHigh, pLow, hs, HLow]⟩) HLow (by linarith only [HHigh])
  refine ⟨top, ?_, abs_le.mpr ⟨by linarith only [topLow, qLow, twips.1, tLow, dLow, pHigh, HLow],
    by linarith only [topHigh, qHigh, twips.2, tHigh, dHigh, pLow, HLow]⟩⟩
  rw [FloatFormat.mul_eq_ofRat, product, FloatFormat.sub_eq_ofRat, room, FloatFormat.div_of_ne_zero two_ne_zero,
    half, toPixels, FloatFormat.div_of_ne_zero (by norm_num), pixels, toBinary32_eq_ofRat, topCast]

/-- The bottom margin: in `f32`, the room the `f32` scale `a` leaves, less the top margin. -/
theorem letterbox_bottom_margin {h H a top : ℚ} (hLow : 1 ≤ h) (hHigh : h < 2 ^ 32) (HLow : 1 ≤ H)
    (HHigh : H ≤ 2 ^ 26) (aNonneg : 0 ≤ a) (fits : h * a ≤ 3 * H)
    (topNear : |top - (H - h * a) / 2| ≤ 1 / 20 + H / 2 ^ 20) :
    ∃ bottom, binary32.sub (binary32.sub (binary32.ofRat H) (binary32.mul (binary32.ofRat h) (.finite a)))
        (.finite top) = .finite bottom ∧
      |bottom - (H - h * a) / 2| ≤ 1 / 20 + H / 2 ^ 18 := by
  have HOne : 1 ≤ 4 * H := by linarith only [HLow]
  have HSmall : 4 * H ≤ 2 ^ 100 := by linarith only [HHigh]
  have haNonneg : 0 ≤ h * a := mul_nonneg (by linarith only [hLow]) aNonneg
  obtain ⟨V, viewportCast, VLow, VHigh⟩ :=
    ofRat_binary32 (x := H) (abs_of_pos (by linarith only [HLow])).le HLow (by linarith only [HHigh])
  obtain ⟨m, movieCast, mLow, mHigh⟩ :=
    ofRat_binary32 (x := h) (abs_of_pos (by linarith only [hLow])).le hLow (by linarith only [hHigh])
  have maLow := mul_le_mul_of_nonneg_right mLow aNonneg
  have maHigh := mul_le_mul_of_nonneg_right mHigh aNonneg
  have ma : -(H / 2 ^ 21) ≤ m * a - h * a ∧ m * a - h * a ≤ H / 2 ^ 21 :=
    ⟨by linarith only [maLow, fits, HLow], by linarith only [maHigh, fits, HLow]⟩
  obtain ⟨scaled, movieScaled, scaledLow, scaledHigh⟩ := ofRat_binary32 (x := m * a) (B := 4 * H)
    (abs_le.mpr ⟨by linarith only [ma.1, haNonneg, HLow], by linarith only [ma.2, fits, HLow]⟩) HOne HSmall
  obtain ⟨difference, differenceCast, differenceLow, differenceHigh⟩ := ofRat_binary32 (x := V + -scaled) (B := 4 * H)
    (abs_le.mpr ⟨by linarith only [VLow, scaledHigh, ma.2, fits, HLow],
      by linarith only [VHigh, scaledLow, ma.1, haNonneg, HLow]⟩) HOne HSmall
  have topBound := abs_le.mp topNear
  obtain ⟨bottom, bottomCast, bottomLow, bottomHigh⟩ := ofRat_binary32 (x := difference + -top) (B := 2 * H)
    (abs_le.mpr ⟨by linarith only [differenceLow, VLow, scaledHigh, ma.2, topBound.2, fits, HLow],
      by linarith only [differenceHigh, VHigh, scaledLow, ma.1, topBound.1, haNonneg, HLow]⟩)
    (by linarith only [HLow]) (by linarith only [HHigh])
  refine ⟨bottom, ?_, abs_le.mpr
    ⟨by linarith only [bottomLow, differenceLow, VLow, scaledHigh, ma.2, topBound.2, HLow],
      by linarith only [bottomHigh, differenceHigh, VHigh, scaledLow, ma.1, topBound.1, HLow]⟩⟩
  rw [viewportCast, movieCast, FloatFormat.mul_eq_ofRat, movieScaled, FloatFormat.sub_eq_ofRat,
    differenceCast, FloatFormat.sub_eq_ofRat, bottomCast]

/-- On a letterboxed axis both margins are within a twip and `2^-18` of half the room `H - h·a`. -/
theorem letterbox_margins {h H s : ℚ} (hLow : 1 ≤ h) (hHigh : h < 2 ^ 32) (HLow : 1 ≤ H) (HHigh : H ≤ 2 ^ 26)
    (sLow : 1 / 2 ^ 40 ≤ s) (fits : h * s ≤ 2 * H) :
    ∃ top bottom,
      toBinary32 (toPixels (fromPixels (binary64.div (binary64.sub (.finite H)
        (binary64.mul (.finite h) (.finite s))) (.finite 2)))) = .finite top ∧
      binary32.sub (binary32.sub (binary32.ofRat H) (binary32.mul (binary32.ofRat h) (.finite (binary32.round s))))
        (.finite top) = .finite bottom ∧
      |top - (H - h * binary32.round s) / 2| ≤ 1 / 20 + H / 2 ^ 18 ∧
      |bottom - (H - h * binary32.round s) / 2| ≤ 1 / 20 + H / 2 ^ 18 := by
  have sPositive : 0 < s := lt_of_lt_of_le (by norm_num) sLow
  have hs : 0 ≤ h * s := mul_nonneg (by linarith only [hLow]) sPositive.le
  obtain ⟨top, topCast, topNear⟩ := letterbox_top_margin HLow HHigh hs fits
  have sNormal := (FloatFormat.normal_of_bounds (x := s) (by rw [abs_of_pos sPositive]; exact sLow.trans' (by norm_num))
    (by rw [abs_of_pos sPositive]; linarith only [le_trans (le_mul_of_one_le_left sPositive.le hLow) fits, HHigh])).2
  obtain ⟨aLow, aHigh⟩ := FloatFormat.round_mem sNormal sPositive
  simp only [FloatFormat.precision_binary32] at aLow aHigh
  have haLow := mul_le_mul_of_nonneg_left aLow (by linarith only [hLow] : (0 : ℚ) ≤ h)
  have haHigh := mul_le_mul_of_nonneg_left aHigh (by linarith only [hLow] : (0 : ℚ) ≤ h)
  have topBound := abs_le.mp topNear
  have topNear' : |top - (H - h * binary32.round s) / 2| ≤ 1 / 20 + H / 2 ^ 20 :=
    abs_le.mpr ⟨by linarith only [topBound.1, haLow, fits, HLow], by linarith only [topBound.2, haHigh, fits, HLow]⟩
  obtain ⟨bottom, bottomCast, bottomNear⟩ := letterbox_bottom_margin hLow hHigh HLow HHigh
    (by linarith only [aLow, sPositive]) (by linarith only [haHigh, fits, HLow]) topNear'
  exact ⟨top, bottom, topCast, bottomCast, topNear'.trans (by linarith only [HLow]), bottomNear⟩

/-! ### The view matrix -/

namespace StageData

variable (stage : StageData)

def FitsInside (a : ℚ) : Prop :=
  stage.movieWidth * a ≤ stage.viewportWidth * (1 + 1 / 2 ^ 20) ∧
    stage.movieHeight * a ≤ stage.viewportHeight * (1 + 1 / 2 ^ 20) ∧
    (stage.viewportWidth * (1 - 1 / 2 ^ 20) ≤ stage.movieWidth * a ∨
      stage.viewportHeight * (1 - 1 / 2 ^ 20) ≤ stage.movieHeight * a)

def Covers (a : ℚ) : Prop :=
  stage.viewportWidth * (1 - 1 / 2 ^ 20) ≤ stage.movieWidth * a ∧
    stage.viewportHeight * (1 - 1 / 2 ^ 20) ≤ stage.movieHeight * a ∧
    (stage.movieWidth * a ≤ stage.viewportWidth * (1 + 1 / 2 ^ 20) ∨
      stage.movieHeight * a ≤ stage.viewportHeight * (1 + 1 / 2 ^ 20))

def Stretches (a d : ℚ) : Prop :=
  |stage.movieWidth * a - stage.viewportWidth| ≤ stage.viewportWidth / 2 ^ 20 ∧
    |stage.movieHeight * d - stage.viewportHeight| ≤ stage.viewportHeight / 2 ^ 20

variable {stage}

theorem sides (positive : stage.Positive) :
    (1 ≤ stage.movieWidth ∧ stage.movieWidth < 2 ^ 32) ∧ (1 ≤ stage.movieHeight ∧ stage.movieHeight < 2 ^ 32) ∧
      (1 ≤ stage.viewportWidth ∧ stage.viewportWidth < 2 ^ 32) ∧
      (1 ≤ stage.viewportHeight ∧ stage.viewportHeight < 2 ^ 32) :=
  ⟨side_bounds positive.1, side_bounds positive.2.1, side_bounds positive.2.2.1, side_bounds positive.2.2.2⟩

/-- Under `ShowAll` both scales are one `f64` ratio whose `f32` cast fits the movie inside the viewport. -/
theorem showAll_scale (positive : stage.Positive) (showAll : stage.scaleMode = .showAll) :
    ∃ s, stage.scale = (.finite s, .finite s) ∧ 1 / 2 ^ 40 ≤ s ∧
      stage.movieWidth * s ≤ 2 * stage.viewportWidth ∧ stage.movieHeight * s ≤ 2 * stage.viewportHeight ∧
      toBinary32 (.finite s) = .finite (binary32.round s) ∧ stage.FitsInside (binary32.round s) := by
  obtain ⟨⟨w1, w2⟩, ⟨h1, h2⟩, ⟨W1, W2⟩, ⟨H1, H2⟩⟩ := sides positive
  have wPos : 0 < stage.movieWidth := by linarith only [w1]
  have hPos : 0 < stage.movieHeight := by linarith only [h1]
  have WPos : 0 < stage.viewportWidth := by linarith only [W1]
  have HPos : 0 < stage.viewportHeight := by linarith only [H1]
  obtain ⟨fitWidth, -, widthHigh, castWidth, widthLow32, widthHigh32, widthLow⟩ := ratio_rounded W1 W2 w1 w2
  obtain ⟨fitHeight, -, heightHigh, castHeight, heightLow32, heightHigh32, heightLow⟩ := ratio_rounded H1 H2 h1 h2
  obtain ⟨movieAspect, movieLow, movieHigh, -⟩ := ratio_rounded w1 w2 h1 h2
  obtain ⟨viewportAspect, viewportLow, viewportHigh, -⟩ := ratio_rounded W1 W2 H1 H2
  have width := height_near WPos ⟨widthLow32, widthHigh32⟩
  have height := height_near HPos ⟨heightLow32, heightHigh32⟩
  simp only [scale, showAll]
  rw [fitWidth, fitHeight, movieAspect, viewportAspect]
  simp only [Avm1.Number.lt, decide_eq_true_eq]
  split_ifs with wider
  · have aspect := aspect_of_le hPos HPos movieLow viewportHigh wider.le
    have across := fits_along (a := binary64.round (stage.viewportHeight / stage.movieHeight)) wPos hPos WPos
      (by linarith only [heightHigh, H1]) aspect
    exact ⟨_, rfl, heightLow, by linarith only [across, W1], by linarith only [heightHigh, H1], castHeight,
      fits_along wPos hPos WPos heightHigh32 aspect, height.1, .inr height.2⟩
  · have aspect := aspect_of_le HPos hPos viewportLow movieHigh (not_lt.mp wider)
    have down := fits_along (H := stage.viewportWidth) (a := binary64.round (stage.viewportWidth / stage.movieWidth))
      hPos wPos HPos
      (by linarith only [widthHigh, W1]) (by linarith only [aspect])
    exact ⟨_, rfl, widthLow, by linarith only [widthHigh, W1], by linarith only [down, H1], castWidth, width.1,
      fits_along hPos wPos HPos widthHigh32 (by linarith only [aspect]), .inl width.2⟩

variable (isFullscreen : Bool)

/-- The view matrix scales the movie as its scale mode says, up to rounding, and never shears. -/
theorem view_matrix_follows_scale_mode (positive : stage.Positive) :
    let matrix := (stage.buildMatrices isFullscreen).1.matrix
    matrix.b = .finite 0 ∧ matrix.c = .finite 0 ∧
    match stage.scaleMode with
    | .showAll => ∃ a, matrix.a = .finite a ∧ matrix.d = .finite a ∧ stage.FitsInside a
    | .noBorder => ∃ a, matrix.a = .finite a ∧ matrix.d = .finite a ∧ stage.Covers a
    | .exactFit => ∃ a d, matrix.a = .finite a ∧ matrix.d = .finite d ∧ stage.Stretches a d
    | .noScale => matrix.a = toBinary32 stage.viewportScaleFactor ∧
        matrix.d = toBinary32 stage.viewportScaleFactor := by
  obtain ⟨⟨w1, w2⟩, ⟨h1, h2⟩, ⟨W1, W2⟩, ⟨H1, H2⟩⟩ := sides positive
  have wPos : 0 < stage.movieWidth := by linarith only [w1]
  have hPos : 0 < stage.movieHeight := by linarith only [h1]
  have WPos : 0 < stage.viewportWidth := by linarith only [W1]
  have HPos : 0 < stage.viewportHeight := by linarith only [H1]
  obtain ⟨fitWidth, -, -, castWidth, widthLow, widthHigh, -⟩ := ratio_rounded W1 W2 w1 w2
  obtain ⟨fitHeight, -, -, castHeight, heightLow, heightHigh, -⟩ := ratio_rounded H1 H2 h1 h2
  obtain ⟨movieAspect, movieLow, movieHigh, -⟩ := ratio_rounded w1 w2 h1 h2
  obtain ⟨viewportAspect, viewportLow, viewportHigh, -⟩ := ratio_rounded W1 W2 H1 H2
  have width := height_near WPos ⟨widthLow, widthHigh⟩
  have height := height_near HPos ⟨heightLow, heightHigh⟩
  refine ⟨rfl, rfl, ?_⟩
  simp only [buildMatrices_matrix, viewMatrix]
  cases mode : stage.scaleMode
  case exactFit =>
    simp only [scale, mode]
    rw [fitWidth, fitHeight]
    exact ⟨_, _, castWidth, castHeight, abs_le.mpr ⟨by linarith only [width.2], by linarith only [width.1]⟩,
      abs_le.mpr ⟨by linarith only [height.2], by linarith only [height.1]⟩⟩
  case noBorder =>
    simp only [scale, mode]
    rw [fitWidth, fitHeight, movieAspect, viewportAspect]
    simp only [Avm1.Number.lt, decide_eq_true_eq]
    split_ifs with taller
    · have aspect := aspect_of_le HPos hPos viewportLow movieHigh taller.le
      exact ⟨_, castHeight, castHeight, covers_along wPos hPos WPos heightLow aspect, height.2, .inr height.1⟩
    · have aspect := aspect_of_le hPos HPos movieLow viewportHigh (not_lt.mp taller)
      exact ⟨_, castWidth, castWidth, width.2,
        covers_along hPos wPos HPos widthLow (by linarith only [aspect]), .inl width.1⟩
  case noScale => simp only [scale, mode, and_self]
  case showAll =>
    obtain ⟨s, scaled, -, -, -, cast, fits⟩ := showAll_scale positive mode
    rw [scaled]
    exact ⟨_, cast, cast, fits⟩

def widescreenStage : StageData :=
  { StageData.empty 550 400 with viewportSize := (800, 400) }

theorem view_matrix_follows_scale_mode_widescreen :
    widescreenStage.Positive ∧
      let matrix := (widescreenStage.buildMatrices false).1.matrix
      matrix.b = .finite 0 ∧ matrix.c = .finite 0 ∧
        ∃ a, matrix.a = .finite a ∧ matrix.d = .finite a ∧ widescreenStage.FitsInside a :=
  ⟨by decide, view_matrix_follows_scale_mode false (by decide)⟩

/-- The movie area `[0, 20 w] × [0, 20 h]` in twips, a far edge possibly a twip short, up to `i32::MAX`. -/
def MovieArea (stage : StageData) (bounds : BoundingBox) : Prop :=
  bounds.xMin = 0 ∧ bounds.yMin = 0 ∧
    min (20 * (stage.movieSize.1.toNat : ℤ) - 1) (2 ^ 31 - 1) ≤ bounds.xMax ∧
    bounds.xMax ≤ min (20 * (stage.movieSize.1.toNat : ℤ)) (2 ^ 31 - 1) ∧
    min (20 * (stage.movieSize.2.toNat : ℤ) - 1) (2 ^ 31 - 1) ≤ bounds.yMax ∧
    bounds.yMax ≤ min (20 * (stage.movieSize.2.toNat : ℤ)) (2 ^ 31 - 1)

theorem forall_mem_bars {P : Bar → Prop} {c c' : Bool} {one two : Bar} (hOne : P one) (hTwo : P two) :
    ∀ bar ∈ (if c then [one] else []) ++ (if c' then [two] else []), P bar := by
  cases c <;> cases c' <;> simp [hOne, hTwo]

end StageData

end Ruffle
