import Mathlib.Order.WithBot
import Mathlib.Data.String.Basic
import RuffleAvm1.Core.Names
import RuffleAvm1.Sort.Preorder

/-! The comparators of `Array.sort` and `Array.sortOn`, and when they are total preorders. String
coercion, field lookup and calling a compare function run script code; they are parameters here,
and a failure is their `Except.error`. -/

namespace Avm1

def defaultOrdering : Ordering := .eq

structure SortFlags where
  caseInsensitive : Bool
  descending : Bool
  uniqueSort : Bool
  returnIndexedArray : Bool
  numeric : Bool
  deriving DecidableEq, Repr

namespace SortFlags

def empty : SortFlags := ⟨false, false, false, false, false⟩

def bit (bits : Int) (k : Nat) : Bool :=
  bits / 2 ^ k % 2 = 1

def fromBitsTruncate (bits : Int) : SortFlags :=
  ⟨bit bits 0, bit bits 1, bit bits 2, bit bits 3, bit bits 4⟩

end SortFlags

def Number.partialCmp : Number → Number → Option Ordering
  | .nan, _ | _, .nan => none
  | .negativeInfinity, .negativeInfinity | .infinity, .infinity => some .eq
  | .negativeInfinity, _ | _, .infinity => some .lt
  | _, .negativeInfinity | .infinity, _ => some .gt
  | .finite a, .finite b => some (compare a b)

def Number.extended : Number → WithBot (WithTop ℚ)
  | .nan | .negativeInfinity => ⊥
  | .finite value => ((value : WithTop ℚ) : WithBot (WithTop ℚ))
  | .infinity => ((⊤ : WithTop ℚ) : WithBot (WithTop ℚ))

theorem compare_coe_coe (a b : ℚ) :
    compare ((a : WithTop ℚ) : WithBot (WithTop ℚ)) ((b : WithTop ℚ) : WithBot (WithTop ℚ)) =
      compare a b := by
  rcases lt_trichotomy a b with below | same | above
  · rw [compare_lt_iff_lt.mpr below, compare_lt_iff_lt.mpr (by simpa using below)]
  · rw [same, compare_eq_iff_eq.mpr rfl, compare_eq_iff_eq.mpr rfl]
  · rw [compare_gt_iff_gt.mpr above, compare_gt_iff_gt.mpr (by simpa using above)]

theorem Number.partialCmp_of_ne_nan {x y : Number} (hx : x ≠ .nan) (hy : y ≠ .nan) :
    x.partialCmp y = some (compare x.extended y.extended) := by
  cases x <;> cases y <;>
    simp only [partialCmp, extended, compare_coe_coe, Option.some_inj] <;>
    simp_all [eq_comm (a := Ordering.lt), eq_comm (a := Ordering.gt), eq_comm (a := Ordering.eq),
      compare_lt_iff_lt, compare_gt_iff_gt, compare_eq_iff_eq, lt_top_iff_ne_top, WithBot.coe_eq_top]

def Value.isNumber : Value → Bool
  | .number _ => true
  | _ => false

section Comparators

variable (coerce : Value → Except Error String)

def sortCompareString (a b : Value) : Ordering :=
  match coerce a, coerce b with
  | .ok a, .ok b => compare a b
  | _, _ => defaultOrdering

def sortCompareStringIgnoreCase (a b : Value) : Ordering :=
  match coerce a, coerce b with
  | .ok a, .ok b => compare (foldCase a) (foldCase b)
  | _, _ => defaultOrdering

/-- `sort_compare_numeric`: numbers by value (NaN ties with everything), anything else as strings. -/
def sortCompareNumeric (caseInsensitive : Bool) (a b : Value) : Ordering :=
  match a, b with
  | .number a, .number b => (a.partialCmp b).getD defaultOrdering
  | a, b => if caseInsensitive then sortCompareStringIgnoreCase coerce a b else sortCompareString coerce a b

/-- `sort_compare_custom`: the sign of the result; a failure, a non-number or NaN give `DEFAULT_ORDERING`. -/
def sortCompareCustom (call : Value → Value → Value → Except Error Value) (compareFn a b : Value) :
    Ordering :=
  match call compareFn a b with
  | .ok (.number n) => (n.partialCmp (.finite 0)).getD defaultOrdering
  | _ => defaultOrdering

def flagsCompareFn (flags : SortFlags) : Value → Value → Ordering :=
  if flags.numeric then sortCompareNumeric coerce flags.caseInsensitive
  else if flags.caseInsensitive then sortCompareStringIgnoreCase coerce
  else sortCompareString coerce

end Comparators

def SortFlags.adjust (flags : SortFlags) (ret : Ordering) : Ordering :=
  if flags.descending then ret.swap else ret

/-- The loop of `sort_compare_fields`: the first field that does not tie decides; `none` is the panic. -/
def compareFields (get : Value → String → Except Error Value) (a b : Value) :
    List (String × (Value → Value → Ordering)) → Option Ordering
  | [] => some .eq
  | (fieldName, compareFn) :: rest =>
    match get a fieldName, get b fieldName with
    | .ok aProp, .ok bProp =>
      let result := compareFn aProp bProp
      if result ≠ .eq then some result else compareFields get a b rest
    | _, _ => none

def sortCompareFields (get : Value → String → Except Error Value) (fieldNames : List String)
    (compareFns : List (Value → Value → Ordering)) (a b : Value) : Option Ordering :=
  compareFields get a b (fieldNames.zip compareFns)

def fieldOf (get : Value → String → Except Error Value) (name : String) (v : Value) : Value :=
  match get v name with
  | .ok value => value
  | .error _ => .undefined

/-! Where the coercions succeed, each comparator compares by a key. -/

section Keys

variable {coerce : Value → Except Error String}

def coerced (coerce : Value → Except Error String) (v : Value) : String :=
  match coerce v with
  | .ok s => s
  | .error _ => ""

theorem sortCompareString_of_ok {a b : Value} (ha : ∃ s, coerce a = .ok s) (hb : ∃ s, coerce b = .ok s) :
    sortCompareString coerce a b = compare (coerced coerce a) (coerced coerce b) := by
  obtain ⟨s, hs⟩ := ha
  obtain ⟨t, ht⟩ := hb
  simp [sortCompareString, coerced, hs, ht]

theorem sortCompareStringIgnoreCase_of_ok {a b : Value} (ha : ∃ s, coerce a = .ok s)
    (hb : ∃ s, coerce b = .ok s) :
    sortCompareStringIgnoreCase coerce a b =
      compare (foldCase (coerced coerce a)) (foldCase (coerced coerce b)) := by
  obtain ⟨s, hs⟩ := ha
  obtain ⟨t, ht⟩ := hb
  simp [sortCompareStringIgnoreCase, coerced, hs, ht]

def numericKey : Value → WithBot (WithTop ℚ)
  | .number n => n.extended
  | _ => ⊥

theorem sortCompareNumeric_numbers {caseInsensitive : Bool} {x y : Number} (hx : x ≠ .nan) (hy : y ≠ .nan) :
    sortCompareNumeric coerce caseInsensitive (.number x) (.number y) =
      compare (numericKey (.number x)) (numericKey (.number y)) := by
  simp [sortCompareNumeric, numericKey, Number.partialCmp_of_ne_nan hx hy]

theorem sortCompareNumeric_of_not_number {caseInsensitive : Bool} {a b : Value} (ha : a.isNumber = false) :
    sortCompareNumeric coerce caseInsensitive a b =
      if caseInsensitive then sortCompareStringIgnoreCase coerce a b else sortCompareString coerce a b := by
  cases a <;> simp_all [sortCompareNumeric, Value.isNumber]

end Keys

theorem compareFields_of_ok {get : Value → String → Except Error Value} {a b : Value}
    (pairs : List (String × (Value → Value → Ordering)))
    (found : ∀ p ∈ pairs, ∀ v ∈ [a, b], ∃ value, get v p.1 = .ok value) :
    compareFields get a b pairs =
      some (pairs.foldr (fun p rest => (p.2 (fieldOf get p.1 a) (fieldOf get p.1 b)).then rest) .eq) := by
  induction pairs with
  | nil => rfl
  | cons p rest ih =>
    obtain ⟨fieldName, compareFn⟩ := p
    obtain ⟨aProp, ha⟩ := found _ (List.mem_cons_self _ _) a (by simp)
    obtain ⟨bProp, hb⟩ := found _ (List.mem_cons_self _ _) b (by simp)
    rw [compareFields, ha, hb, ih fun p member => found p (List.mem_cons_of_mem _ member)]
    simp only [fieldOf, ha, hb, List.foldr_cons]
    cases compareFn aProp bProp <;> rfl

theorem sortCompareFields_total {get : Value → String → Except Error Value} {fieldNames : List String}
    {compareFns : List (Value → Value → Ordering)} {values : List Value}
    (found : ∀ v ∈ values, ∀ name ∈ fieldNames, ∃ value, get v name = .ok value) :
    ∀ a ∈ values, ∀ b ∈ values, sortCompareFields get fieldNames compareFns a b =
      some ((sortCompareFields get fieldNames compareFns a b).getD .eq) := fun a ha b hb => by
  rw [sortCompareFields, compareFields_of_ok _ fun p member v hv => ?_, Option.getD_some]
  rcases List.mem_pair.mp hv with rfl | rfl
  · exact found _ ha _ (List.of_mem_zip member).1
  · exact found _ hb _ (List.of_mem_zip member).1

/-! When the comparators are total preorders. -/

/-- The lists the comparator orders: strings coerce, and under `NUMERIC` all numbers (none NaN) or none. -/
def Comparable (coerce : Value → Except Error String) (flags : SortFlags) (values : List Value) : Prop :=
  (∀ v ∈ values, ∃ s, coerce v = .ok s) ∧
    (flags.numeric = true →
      .number .nan ∉ values ∧ ((∀ v ∈ values, v.isNumber = true) ∨ ∀ v ∈ values, v.isNumber = false))

theorem TotalPreorder.adjust {c : Value → Value → Ordering} {values : List Value} (flags : SortFlags)
    (preorder : TotalPreorder c values) : TotalPreorder (fun a b => flags.adjust (c a b)) values := by
  unfold SortFlags.adjust
  cases flags.descending
  · exact preorder
  · exact preorder.swap

section Preorders

variable {coerce : Value → Except Error String} {values : List Value}
  (coerces : ∀ v ∈ values, ∃ s, coerce v = .ok s)
include coerces

theorem sortCompareString_preorder : TotalPreorder (sortCompareString coerce) values :=
  (TotalPreorder.ofKey (coerced coerce)).congr fun a ha b hb =>
    (sortCompareString_of_ok (coerces a ha) (coerces b hb)).symm

theorem sortCompareStringIgnoreCase_preorder : TotalPreorder (sortCompareStringIgnoreCase coerce) values :=
  (TotalPreorder.ofKey fun v => foldCase (coerced coerce v)).congr fun a ha b hb =>
    (sortCompareStringIgnoreCase_of_ok (coerces a ha) (coerces b hb)).symm

theorem sortCompareNumeric_preorder_of_strings (caseInsensitive : Bool)
    (strings : ∀ v ∈ values, v.isNumber = false) :
    TotalPreorder (sortCompareNumeric coerce caseInsensitive) values := by
  have fallback : TotalPreorder (fun a b => if caseInsensitive then sortCompareStringIgnoreCase coerce a b
      else sortCompareString coerce a b) values := by
    cases caseInsensitive
    · exact sortCompareString_preorder coerces
    · exact sortCompareStringIgnoreCase_preorder coerces
  exact fallback.congr fun a ha b _ => (sortCompareNumeric_of_not_number (strings a ha)).symm

end Preorders

theorem sortCompareNumeric_preorder_of_numbers {coerce : Value → Except Error String} {values : List Value}
    (caseInsensitive : Bool) (noNan : .number .nan ∉ values) (numbers : ∀ v ∈ values, v.isNumber = true) :
    TotalPreorder (sortCompareNumeric coerce caseInsensitive) values := by
  refine (TotalPreorder.ofKey numericKey).congr fun a ha b hb => ?_
  cases a <;> cases b <;> simp only [Value.isNumber] at numbers <;>
    first | exact absurd (numbers _ ha) Bool.false_ne_true | exact absurd (numbers _ hb) Bool.false_ne_true | skip
  rename_i x y
  exact (sortCompareNumeric_numbers (fun nan => noNan (nan ▸ ha)) fun nan => noNan (nan ▸ hb)).symm

theorem flagsCompareFn_preorder {coerce : Value → Except Error String} {flags : SortFlags}
    {values : List Value} (comparable : Comparable coerce flags values) :
    TotalPreorder (flagsCompareFn coerce flags) values := by
  obtain ⟨coerces, numeric⟩ := comparable
  unfold flagsCompareFn
  split
  · next isNumeric =>
    obtain ⟨noNan, numbers | strings⟩ := numeric isNumeric
    · exact sortCompareNumeric_preorder_of_numbers _ noNan numbers
    · exact sortCompareNumeric_preorder_of_strings coerces _ strings
  · split
    · exact sortCompareStringIgnoreCase_preorder coerces
    · exact sortCompareString_preorder coerces

theorem foldr_then_preorder (get : Value → String → Except Error Value) {values : List Value} :
    ∀ pairs : List (String × (Value → Value → Ordering)),
      (∀ p ∈ pairs, TotalPreorder p.2 (values.map (fieldOf get p.1))) →
      TotalPreorder (fun a b => pairs.foldr
        (fun p rest => (p.2 (fieldOf get p.1 a) (fieldOf get p.1 b)).then rest) .eq) values
  | [], _ => (TotalPreorder.ofKey fun _ => (0 : Nat)).congr fun _ _ _ _ => rfl
  | p :: rest, fields =>
    ((fields p (List.mem_cons_self _ _)).comap (fieldOf get p.1)).andThen
      (foldr_then_preorder get rest fun q member => fields q (List.mem_cons_of_mem _ member))

theorem sortCompareFields_preorder {get : Value → String → Except Error Value} {fieldNames : List String}
    {compareFns : List (Value → Value → Ordering)} {values : List Value}
    (found : ∀ v ∈ values, ∀ name ∈ fieldNames, ∃ value, get v name = .ok value)
    (fields : ∀ p ∈ fieldNames.zip compareFns, TotalPreorder p.2 (values.map (fieldOf get p.1))) :
    TotalPreorder (fun a b => (sortCompareFields get fieldNames compareFns a b).getD .eq) values :=
  (foldr_then_preorder get _ fields).congr fun a ha b hb => by
    rw [sortCompareFields, compareFields_of_ok _ fun p member v hv => ?_, Option.getD_some]
    rcases List.mem_pair.mp hv with rfl | rfl
    · exact found _ ha _ (List.of_mem_zip member).1
    · exact found _ hb _ (List.of_mem_zip member).1

/-- The comparators `sort` and `sortOn` build are total preorders on the lists `Comparable` admits. -/
theorem sort_comparators_are_total_preorders :
    (∀ (coerce : Value → Except Error String) (flags : SortFlags) (values : List Value),
      Comparable coerce flags values →
        TotalPreorder (fun a b => flags.adjust (flagsCompareFn coerce flags a b)) values) ∧
    (∀ (coerce : Value → Except Error String) (get : Value → String → Except Error Value)
      (fieldNames : List String) (flags : List SortFlags) (mainFlags : SortFlags) (values : List Value),
      (∀ v ∈ values, ∀ name ∈ fieldNames, ∃ value, get v name = .ok value) →
      (∀ p ∈ fieldNames.zip flags, Comparable coerce p.2 (values.map (fieldOf get p.1))) →
        TotalPreorder (fun a b => mainFlags.adjust
          ((sortCompareFields get fieldNames (flags.map (flagsCompareFn coerce)) a b).getD .eq)) values) :=
  ⟨fun _ flags _ comparable => (flagsCompareFn_preorder comparable).adjust flags,
    fun _ _ fieldNames flags mainFlags _ found comparable => (sortCompareFields_preorder found
      fun p member => by
        rw [List.zip_map_right, List.mem_map] at member
        obtain ⟨q, member, rfl⟩ := member
        exact flagsCompareFn_preorder (comparable q member)).adjust mainFlags⟩

def decimalCoercion : Value → Except Error String
  | .string s => .ok s
  | .number (.finite q) => .ok (toString q.num)
  | _ => .error .other

/-- Under `NUMERIC` a list mixing numbers and strings has a cycle: 9 < 10 < "5" < 9. -/
theorem numeric_compare_cycles :
    (∀ v ∈ [Value.number (.finite 9), .number (.finite 10), .string "5"], ∃ s, decimalCoercion v = .ok s) ∧
    Value.number .nan ∉ [Value.number (.finite 9), .number (.finite 10), .string "5"] ∧
    flagsCompareFn decimalCoercion (SortFlags.fromBitsTruncate 16)
      (.number (.finite 9)) (.number (.finite 10)) = .lt ∧
    flagsCompareFn decimalCoercion (SortFlags.fromBitsTruncate 16) (.number (.finite 10)) (.string "5") = .lt ∧
    flagsCompareFn decimalCoercion (SortFlags.fromBitsTruncate 16) (.string "5") (.number (.finite 9)) = .lt ∧
    ¬ TotalPreorder (flagsCompareFn decimalCoercion (SortFlags.fromBitsTruncate 16))
      [.number (.finite 9), .number (.finite 10), .string "5"] := by
  refine ⟨fun v member => ?_, by decide, by decide, by decide, by decide, fun preorder => ?_⟩
  · simp only [List.mem_cons, List.mem_singleton, List.not_mem_nil, or_false] at member
    rcases member with rfl | rfl | rfl <;> exact ⟨_, rfl⟩
  · exact preorder.trans (.number (.finite 9)) (by decide) (.number (.finite 10)) (by decide) (.string "5")
      (by decide) (by decide) (by decide) (by decide)

end Avm1
