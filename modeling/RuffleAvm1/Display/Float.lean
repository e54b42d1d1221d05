import Mathlib.Data.Int.Log
import Mathlib.Data.Rat.Floor
import RuffleAvm1.Core.Value

/-! IEEE 754 binary arithmetic as the stage's `f64` and `f32` code does it: an operation rounds its
exact result to the nearest value of the format, ties to even, and gives an infinity past the
largest finite value. Values are `Avm1.Number`s. A zero has no sign here: the stage divides only by
its scales, and no scale it computes is a negative zero. -/

namespace Avm1.Number

def neg : Number → Number
  | .finite x => .finite (-x)
  | .infinity => .negativeInfinity
  | .negativeInfinity => .infinity
  | .nan => .nan

def lt : Number → Number → Bool
  | .finite x, .finite y => decide (x < y)
  | .negativeInfinity, .finite _ | .negativeInfinity, .infinity | .finite _, .infinity => true
  | _, _ => false

def isNegative : Number → Bool
  | .finite x => decide (x < 0)
  | .negativeInfinity => true
  | _ => false

def infinityOf (negative : Bool) : Number :=
  if negative then .negativeInfinity else .infinity

end Avm1.Number

namespace Ruffle

open Avm1 (Number)

def roundHalfEven (y : ℚ) : ℤ :=
  if y - ⌊y⌋ < 1 / 2 then ⌊y⌋
  else if 1 / 2 < y - ⌊y⌋ then ⌊y⌋ + 1
  else if ⌊y⌋ % 2 = 0 then ⌊y⌋ else ⌊y⌋ + 1

theorem abs_roundHalfEven_sub_le (y : ℚ) : |(roundHalfEven y : ℚ) - y| ≤ 1 / 2 := by
  have low := Int.floor_le y
  have high := Int.lt_floor_add_one y
  unfold roundHalfEven
  split_ifs <;> push_cast <;> rw [abs_le] <;> constructor <;> linarith

structure FloatFormat where
  precision : ℕ
  minExp : ℤ
  maxExp : ℤ
  precise : 1 ≤ precision
  ordered : minExp ≤ maxExp

namespace FloatFormat

def binary64 : FloatFormat := ⟨53, -1022, 1023, by decide, by decide⟩

def binary32 : FloatFormat := ⟨24, -126, 127, by decide, by decide⟩

@[simp] theorem precision_binary64 : binary64.precision = 53 := rfl
@[simp] theorem maxExp_binary64 : binary64.maxExp = 1023 := rfl
@[simp] theorem precision_binary32 : binary32.precision = 24 := rfl
@[simp] theorem maxExp_binary32 : binary32.maxExp = 127 := rfl

variable (fmt : FloatFormat)

def quantum (x : ℚ) : ℤ := max (Int.log 2 |x|) fmt.minExp + 1 - fmt.precision

def round (x : ℚ) : ℚ := roundHalfEven (x / 2 ^ fmt.quantum x) * 2 ^ fmt.quantum x

def ofRat (x : ℚ) : Number :=
  if 2 ^ (fmt.maxExp + 1) ≤ |fmt.round x| then .infinityOf (decide (x < 0)) else .finite (fmt.round x)

def add : Number → Number → Number
  | .finite x, .finite y => fmt.ofRat (x + y)
  | .nan, _ | _, .nan | .infinity, .negativeInfinity | .negativeInfinity, .infinity => .nan
  | .infinity, _ | _, .infinity => .infinity
  | .negativeInfinity, _ | _, .negativeInfinity => .negativeInfinity

def sub (x y : Number) : Number := fmt.add x y.neg

def mul (x y : Number) : Number :=
  match x, y with
  | .finite x, .finite y => fmt.ofRat (x * y)
  | .nan, _ | _, .nan => .nan
  | x, y => if x = .finite 0 ∨ y = .finite 0 then .nan else .infinityOf (x.isNegative != y.isNegative)

def div (x y : Number) : Number :=
  match x, y with
  | .nan, _ | _, .nan => .nan
  | .finite x, .finite y =>
    if y = 0 then (if x = 0 then .nan else .infinityOf (decide (x < 0))) else fmt.ofRat (x / y)
  | .finite _, _ => .finite 0
  | x, .finite y => .infinityOf (x.isNegative != decide (y < 0))
  | _, _ => .nan

def Normal (x : ℚ) : Prop := 2 ^ fmt.minExp ≤ |x| ∧ |x| ≤ 2 ^ fmt.maxExp

theorem abs_round_sub_le (x : ℚ) : |fmt.round x - x| ≤ max |x| (2 ^ fmt.minExp) / 2 ^ fmt.precision := by
  rcases eq_or_ne x 0 with rfl | nonzero
  · simp only [round, roundHalfEven, zero_div, Int.floor_zero]
    norm_num
    positivity
  have scaled : (0 : ℚ) < 2 ^ fmt.quantum x := zpow_pos (by norm_num) _
  have step : (2 : ℚ) ^ max (Int.log 2 |x|) fmt.minExp ≤ max |x| (2 ^ fmt.minExp) := by
    rcases le_total (Int.log 2 |x|) fmt.minExp with low | high
    · rw [max_eq_right low]; exact le_max_right _ _
    · rw [max_eq_left high]
      exact (Int.zpow_log_le_self (by norm_num) (abs_pos.mpr nonzero)).trans (le_max_left _ _)
  have expand : fmt.round x - x =
      ((roundHalfEven (x / 2 ^ fmt.quantum x) : ℚ) - x / 2 ^ fmt.quantum x) * 2 ^ fmt.quantum x := by
    rw [round, sub_mul, div_mul_cancel₀ _ scaled.ne']
  calc |fmt.round x - x|
      = |(roundHalfEven (x / 2 ^ fmt.quantum x) : ℚ) - x / 2 ^ fmt.quantum x| * 2 ^ fmt.quantum x := by
        rw [expand, abs_mul, abs_of_pos scaled]
    _ ≤ 1 / 2 * 2 ^ fmt.quantum x := mul_le_mul_of_nonneg_right (abs_roundHalfEven_sub_le _) scaled.le
    _ = 2 ^ max (Int.log 2 |x|) fmt.minExp / 2 ^ fmt.precision := by
        rw [quantum, zpow_sub₀ two_ne_zero, zpow_add₀ two_ne_zero, zpow_one, zpow_natCast]; ring
    _ ≤ max |x| (2 ^ fmt.minExp) / 2 ^ fmt.precision := div_le_div_of_nonneg_right step (by positivity)

variable {fmt}

theorem abs_round_sub_le_of_normal {x : ℚ} (normal : fmt.Normal x) :
    |fmt.round x - x| ≤ |x| / 2 ^ fmt.precision := by
  simpa only [max_eq_left normal.1] using fmt.abs_round_sub_le x

theorem ofRat_of_abs_le {x : ℚ} (bounded : |x| ≤ 2 ^ fmt.maxExp) : fmt.ofRat x = .finite (fmt.round x) := by
  have twice : (2 : ℚ) ≤ 2 ^ fmt.precision := by
    simpa using pow_le_pow_right₀ (by norm_num : (1 : ℚ) ≤ 2) fmt.precise
  have least : (2 : ℚ) ^ fmt.minExp ≤ 2 ^ fmt.maxExp := zpow_le_zpow_right₀ (by norm_num) fmt.ordered
  have error : |fmt.round x - x| ≤ 2 ^ fmt.maxExp / 2 :=
    (fmt.abs_round_sub_le x).trans (div_le_div_of_nonneg_left (by positivity) two_pos twice |>.trans
      (div_le_div_of_nonneg_right (max_le bounded least) two_pos.le))
  have below : |fmt.round x| < 2 ^ (fmt.maxExp + 1) := by
    rw [zpow_add_one₀ two_ne_zero]
    have := abs_sub_abs_le_abs_sub (fmt.round x) x
    have : (0 : ℚ) < 2 ^ fmt.maxExp := zpow_pos (by norm_num) _
    linarith
  simp [ofRat, not_le.mpr below]

theorem round_mem {x : ℚ} (normal : fmt.Normal x) (positive : 0 < x) :
    x * (1 - 1 / 2 ^ fmt.precision) ≤ fmt.round x ∧ fmt.round x ≤ x * (1 + 1 / 2 ^ fmt.precision) := by
  have error := abs_le.mp ((abs_round_sub_le_of_normal normal).trans_eq (by rw [abs_of_pos positive]))
  have share : x * (1 / 2 ^ fmt.precision) = x / 2 ^ fmt.precision := mul_one_div _ _
  constructor <;> linarith only [error.1, error.2, share]

section Operations

variable {x y : ℚ}

theorem add_eq_ofRat : fmt.add (.finite x) (.finite y) = fmt.ofRat (x + y) := rfl

theorem sub_eq_ofRat : fmt.sub (.finite x) (.finite y) = fmt.ofRat (x + -y) := rfl

theorem mul_eq_ofRat : fmt.mul (.finite x) (.finite y) = fmt.ofRat (x * y) := rfl

theorem div_of_ne_zero (nonzero : y ≠ 0) : fmt.div (.finite x) (.finite y) = fmt.ofRat (x / y) := by
  simp only [div, if_neg nonzero]

theorem div_finite (nonzero : y ≠ 0) (bounded : |x / y| ≤ 2 ^ fmt.maxExp) :
    fmt.div (.finite x) (.finite y) = .finite (fmt.round (x / y)) := by
  simp only [div, if_neg nonzero, ofRat_of_abs_le bounded]

theorem mul_finite (bounded : |x * y| ≤ 2 ^ fmt.maxExp) :
    fmt.mul (.finite x) (.finite y) = .finite (fmt.round (x * y)) :=
  ofRat_of_abs_le bounded

theorem add_finite (bounded : |x + y| ≤ 2 ^ fmt.maxExp) :
    fmt.add (.finite x) (.finite y) = .finite (fmt.round (x + y)) :=
  ofRat_of_abs_le bounded

theorem sub_finite (bounded : |x - y| ≤ 2 ^ fmt.maxExp) :
    fmt.sub (.finite x) (.finite y) = .finite (fmt.round (x - y)) := by
  rw [sub_eq_add_neg] at bounded ⊢
  exact ofRat_of_abs_le bounded

end Operations

theorem abs_round_sub_le_binary64 (x : ℚ) : |binary64.round x - x| ≤ |x| / 2 ^ 53 + 1 / 2 ^ 900 := by
  have least : max |x| (2 ^ binary64.minExp) ≤ |x| + 1 / 2 ^ 847 :=
    max_le (by linarith [show (0 : ℚ) < 1 / 2 ^ 847 by norm_num])
      ((show (2 : ℚ) ^ binary64.minExp ≤ 1 / 2 ^ 847 by norm_num [binary64]).trans
        (le_add_of_nonneg_left (abs_nonneg x)))
  calc |binary64.round x - x| ≤ max |x| (2 ^ binary64.minExp) / 2 ^ 53 := binary64.abs_round_sub_le x
    _ ≤ (|x| + 1 / 2 ^ 847) / 2 ^ 53 := div_le_div_of_nonneg_right least (by norm_num)
    _ = |x| / 2 ^ 53 + 1 / 2 ^ 900 := by ring

theorem abs_round_sub_le_binary32 (x : ℚ) : |binary32.round x - x| ≤ |x| / 2 ^ 24 + 1 / 2 ^ 150 := by
  have least : max |x| (2 ^ binary32.minExp) ≤ |x| + 1 / 2 ^ 126 :=
    max_le (by linarith [show (0 : ℚ) < 1 / 2 ^ 126 by norm_num])
      ((show (2 : ℚ) ^ binary32.minExp ≤ 1 / 2 ^ 126 by norm_num [binary32]).trans
        (le_add_of_nonneg_left (abs_nonneg x)))
  calc |binary32.round x - x| ≤ max |x| (2 ^ binary32.minExp) / 2 ^ 24 := binary32.abs_round_sub_le x
    _ ≤ (|x| + 1 / 2 ^ 126) / 2 ^ 24 := div_le_div_of_nonneg_right least (by norm_num)
    _ = |x| / 2 ^ 24 + 1 / 2 ^ 150 := by ring

theorem normal_of_bounds {x : ℚ} (low : 1 / 2 ^ 100 ≤ |x|) (high : |x| ≤ 2 ^ 100) :
    binary64.Normal x ∧ binary32.Normal x :=
  ⟨⟨le_trans (by norm_num [binary64]) low, high.trans (by norm_num)⟩,
    ⟨le_trans (by norm_num [binary32]) low, high.trans (by norm_num)⟩⟩

end FloatFormat

def truncate (x : ℚ) : ℤ := if 0 ≤ x then ⌊x⌋ else ⌈x⌉

theorem truncate_of_nonneg {x : ℚ} (nonneg : 0 ≤ x) : truncate x = ⌊x⌋ := if_pos nonneg

theorem truncate_eq_zero {x : ℚ} (small : |x| < 1) : truncate x = 0 := by
  obtain ⟨low, high⟩ := abs_lt.mp small
  unfold truncate
  split
  · exact Int.floor_eq_zero_iff.mpr ⟨‹_›, high⟩
  · exact Int.ceil_eq_iff.mpr ⟨by norm_num; linarith, by norm_num; linarith⟩

theorem truncate_near (x : ℚ) : |(truncate x : ℚ) - x| < 1 ∧ |(truncate x : ℚ)| ≤ |x| := by
  by_cases sign : 0 ≤ x
  · have low := Int.floor_le x
    have high := Int.lt_floor_add_one x
    have nonneg : (0 : ℚ) ≤ ⌊x⌋ := by exact_mod_cast Int.floor_nonneg.mpr sign
    rw [truncate_of_nonneg sign, abs_of_nonneg nonneg, abs_of_nonneg sign]
    exact ⟨abs_lt.mpr ⟨by linarith, by linarith⟩, low⟩
  · have low := Int.le_ceil x
    have high := Int.ceil_lt_add_one x
    have nonpos : (⌈x⌉ : ℚ) ≤ 0 := by exact_mod_cast Int.ceil_le.mpr (by push_cast; linarith)
    rw [truncate, if_neg sign, abs_of_nonpos nonpos, abs_of_neg (not_le.mp sign)]
    exact ⟨abs_lt.mpr ⟨by linarith, by linarith⟩, by linarith⟩

def saturatingI32 : Number → ℤ
  | .finite x => max (-2 ^ 31) (min (2 ^ 31 - 1) (truncate x))
  | .infinity => 2 ^ 31 - 1
  | .negativeInfinity => -2 ^ 31
  | .nan => 0

def toBinary32 : Number → Number
  | .finite x => FloatFormat.binary32.ofRat x
  | x => x

theorem toBinary32_eq_ofRat (x : ℚ) : toBinary32 (.finite x) = FloatFormat.binary32.ofRat x := rfl

theorem toBinary32_finite {x : ℚ} (bounded : |x| ≤ 2 ^ 100) :
    toBinary32 (.finite x) = .finite (FloatFormat.binary32.round x) :=
  FloatFormat.ofRat_of_abs_le (bounded.trans (by norm_num))

end Ruffle
