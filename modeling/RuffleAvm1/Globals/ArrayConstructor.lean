import RuffleAvm1.Globals.ArrayRefinement
import Mathlib.Data.Rat.Floor

/-! The `Array` constructor and the `Array` function (array.rs), which share one body: a single
number argument is a length, any other arguments are the elements. And `join`, with `toString`,
which is `join` with no arguments. -/

namespace Avm1

def Number.nonNegative : Number → Bool
  | .finite value => 0 ≤ value
  | .infinity => true
  | .nan | .negativeInfinity => false

def Number.isNaN : Number → Bool
  | .nan => true
  | _ => false

/-- `v as usize` for an `f64` on a `width`-bit target: toward zero, saturating, NaN to 0. -/
def Number.asUsize (width : Nat) : Number → Nat
  | .finite value => min (value.num.tdiv value.den).toNat (2 ^ width - 1)
  | .infinity => 2 ^ width - 1
  | .nan | .negativeInfinity => 0

namespace ScriptObjectData

def lengthArgument (width : Nat) : List Value → Option Nat
  | [.number length] =>
    if length.nonNegative then some (length.asUsize width)
    else if !length.isNaN then some 0
    else none
  | _ => none

/-- `Vec::resize` panics (capacity overflow) growing past `isize::MAX` bytes of `valueSize`-byte values. -/
def resizeOverflows (width valueSize : Nat) (vector : List Value) (length : Nat) : Bool :=
  vector.length < length && 2 ^ (width - 1) - 1 < length * valueSize

def trySetLength (width valueSize : Nat) (this : ScriptObjectData) (length : Nat) :
    Option ScriptObjectData :=
  match this.array with
  | .vector vector => if resizeOverflows width valueSize vector length then none else some (this.setLength length)
  | .properties _ => some (this.setLength length)

/-- The body `constructor` and `array_function` share; `none` where `set_length` panics. -/
def initArray (width valueSize : Nat) (this : ScriptObjectData) (args : List Value) : Option ScriptObjectData :=
  match lengthArgument width args with
  | some length => this.trySetLength width valueSize length
  | none => some (this.setArrayElements 0 args)

def constructor (width valueSize : Nat) (this : ScriptObjectData) (args : List Value) : Option ScriptObjectData :=
  this.initArray width valueSize args

def arrayFunction (width valueSize : Nat) (protoData : ScriptObjectData) (arrayProto : ObjectRef)
    (args : List Value) : Option ScriptObjectData :=
  (protoData.createBareObject arrayProto).initArray width valueSize args

def joinPart (coerce : Value → Except Error String) (value : Value) : String :=
  match coerce value with
  | .ok string => string
  | .error _ => "undefined"

/-- `join`: the elements of `array()` between copies of the first argument as a string, or of a comma. -/
def join (coerce : Value → Except Error String) (this : ScriptObjectData) (args : List Value) :
    String :=
  let separator :=
    match args.head?.map coerce with
    | some (.ok separator) => separator
    | _ => ","
  separator.intercalate (this.arrayValues.map (joinPart coerce))

def arrayToString (coerce : Value → Except Error String) (this : ScriptObjectData) : String :=
  this.join coerce []

theorem storeElements_zero (vector values : List Value) :
    storeElements vector 0 values = values ++ vector.drop values.length := by
  refine list_eq_of_getD ?_ fun j below => ?_
  · rw [length_storeElements _ (Nat.zero_le _)]; simp; omega
  · rw [getD_storeElements, getD_append_eq]
    simp only [Nat.zero_le, true_and, Nat.zero_add, Nat.sub_zero]
    split
    · rfl
    · simp only [List.getD_eq_getElem?_getD, List.getElem?_drop]
      congr; omega

theorem asUsize_finite {value : ℚ} (width : Nat) (nonneg : 0 ≤ value) :
    (Number.finite value).asUsize width = min ⌊value⌋₊ (2 ^ width - 1) := by
  rw [Number.asUsize, Int.tdiv_eq_ediv (Rat.num_nonneg.mpr nonneg) (Int.natCast_nonneg _),
    ← Rat.floor_def, Int.floor_toNat]

section Init

variable {this : ScriptObjectData} (mirror : ArrayMirror this)
include mirror

theorem trySetLength_refines (width valueSize length : Nat) :
    if this.arrayValues.length < length ∧ 2 ^ (width - 1) - 1 < length * valueSize then
      this.trySetLength width valueSize length = none
    else ∃ built, this.trySetLength width valueSize length = some built ∧ ArrayMirror built ∧
      built.arrayValues = resize this.arrayValues length := by
  simp only [trySetLength, mirror.stored, resizeOverflows, Bool.and_eq_true, decide_eq_true_eq]
  split_ifs
  · rfl
  · exact ⟨_, rfl, mirror.setLength length, arrayValues_vector (setLength_array mirror.stored length)⟩

theorem setArrayElements_zero_refines (args : List Value) :
    ArrayMirror (this.setArrayElements 0 args) ∧
      (this.setArrayElements 0 args).arrayValues = args ++ this.arrayValues.drop args.length := by
  refine ⟨mirror.setArrayElements 0 args, ?_⟩
  rw [arrayValues_vector (setArrayElements_array mirror.stored 0 args), storeElements_zero]

end Init

end ScriptObjectData

/-- What asking for `length` elements leaves: a panic past `isize::MAX` bytes, else the elements resized. -/
def Resized (width valueSize : Nat) (this : ScriptObjectData) (result : Option ScriptObjectData) (length : Nat) :
    Prop :=
  if this.arrayValues.length < length ∧ 2 ^ (width - 1) - 1 < length * valueSize then result = none
  else ∃ built, result = some built ∧ ArrayMirror built ∧ built.arrayValues = resize this.arrayValues length

/-- `new Array(...)`: a lone number resizes the elements or panics; other arguments are written over them. -/
theorem array_constructor_sets_length_or_elements (width valueSize : Nat) {this : ScriptObjectData}
    (mirror : ArrayMirror this) (args : List Value) :
    match args with
    | [.number (.finite value)] => Resized width valueSize this (this.constructor width valueSize args)
        (if 0 ≤ value then min ⌊value⌋₊ (2 ^ width - 1) else 0)
    | [.number .infinity] => Resized width valueSize this (this.constructor width valueSize args) (2 ^ width - 1)
    | [.number .negativeInfinity] => Resized width valueSize this (this.constructor width valueSize args) 0
    | _ => ∃ built, this.constructor width valueSize args = some built ∧ ArrayMirror built ∧
        built.arrayValues = args ++ this.arrayValues.drop args.length := by
  have elements := ScriptObjectData.setArrayElements_zero_refines mirror
  have length := ScriptObjectData.trySetLength_refines mirror width valueSize
  rcases args with _ | ⟨value, _ | ⟨next, rest⟩⟩
  · exact ⟨_, rfl, elements []⟩
  · cases value with
    | number number =>
      cases number with
      | finite value =>
        have asked : this.constructor width valueSize [.number (.finite value)] =
            this.trySetLength width valueSize (if 0 ≤ value then min ⌊value⌋₊ (2 ^ width - 1) else 0) := by
          by_cases sign : 0 ≤ value <;>
            simp [ScriptObjectData.constructor, ScriptObjectData.initArray, ScriptObjectData.lengthArgument,
              Number.nonNegative, Number.isNaN, sign, ScriptObjectData.asUsize_finite width]
        show Resized .. ; rw [asked]; exact length _
      | nan => exact ⟨_, rfl, elements _⟩
      | infinity => exact length _
      | negativeInfinity => exact length 0
    | _ => exact ⟨_, rfl, elements _⟩
  · rcases value with _ | _ | _ | ⟨_ | _ | _ | _⟩ | _ | _ <;> exact ⟨_, rfl, elements _⟩

theorem array_constructor_panics_on_infinity :
    ArrayMirror (ScriptObject.array none) ∧ (ScriptObject.array none).constructor 64 16 [.number .infinity] = none := by
  have resized := array_constructor_sets_length_or_elements 64 16 (ScriptObject.array_mirror none) [.number .infinity]
  have overflows : (ScriptObject.array none).arrayValues.length < 2 ^ 64 - 1 ∧ 2 ^ (64 - 1) - 1 < (2 ^ 64 - 1) * 16 :=
    ⟨by decide, by norm_num⟩
  exact ⟨ScriptObject.array_mirror none, (if_pos overflows : Resized 64 16 _ _ _ = _) ▸ resized⟩

end Avm1
