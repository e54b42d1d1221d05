import RuffleAvm1.Globals.Array
import RuffleAvm1.Globals.SortCompare
import RuffleAvm1.Object.Prototype
import RuffleAvm1.Sort.StdSort

/-! `Array.sort` and `Array.sortOn`: read the arguments, build the comparator, and run the std sort
over the (index, value) pairs in `sort_with_function`. The std sort is any `SortStrategy`. -/

namespace Avm1

inductive Returned where
  | value (value : Value)
  | this
  | array (array : ScriptObjectData)

/-- `f64_to_wrapping_i32`: toward zero, then the low 32 bits; NaN and the infinities give 0. -/
def Number.toWrappingI32 : Number → Int
  | .finite value => wrapI32 (value.num.tdiv value.den)
  | _ => 0

namespace ScriptObjectData

/-- `sort_with_function` over the snapshot `array()`; `none` is the panic of an `unwrap` in the comparator. -/
def sortWithFunction (strategy : SortStrategy) (arrayProto : Option ObjectRef) (this : ScriptObjectData)
    (compareFn : Value → Value → Option Ordering) (flags : SortFlags) :
    Option (ScriptObjectData × Returned) :=
  let length := this.length
  let values := this.arrayValues
  let answer i j := (compareFn (values.getD i .undefined) (values.getD j .undefined)).map flags.adjust
  ((strategy.tree values.length).run answer).map fun (order, asked) =>
    let isUnique := asked.all fun question => question.2.2 != .eq
    if flags.uniqueSort && !isUnique then (this, .value (.ofNat 0))
    else if flags.returnIndexedArray then
      (this, .array (((ScriptObject.array arrayProto).setLength length).setArrayElements 0
        (order.map Value.ofNat)))
    else (this.setArrayElements 0 (order.map fun i => values.getD i .undefined), .this)

def sortArgs : List Value → Option (Option Value × Int)
  | .number _ :: .number n :: _ => some (none, n.toWrappingI32)
  | .number n :: _ => some (none, n.toWrappingI32)
  | .object f :: .number n :: _ => some (some (.object f), n.toWrappingI32)
  | .object f :: _ => some (some (.object f), 0)
  | [] => some (none, 0)
  | _ => none

def sortCompareFn (coerce : Value → Except Error String) (call : Value → Value → Value → Except Error Value)
    (compareFn : Option Value) (flags : SortFlags) : Value → Value → Ordering :=
  match compareFn with
  | some f => sortCompareCustom call f
  | none => flagsCompareFn coerce flags

def sort (strategy : SortStrategy) (arrayProto : Option ObjectRef) (coerce : Value → Except Error String)
    (call : Value → Value → Value → Except Error Value) (this : ScriptObjectData) (args : List Value) :
    Option (ScriptObjectData × Returned) :=
  match sortArgs args with
  | none => some (this, .value .undefined)
  | some (compareFn, bits) =>
    let flags := SortFlags.fromBitsTruncate bits
    sortWithFunction strategy arrayProto this (fun a b => some (sortCompareFn coerce call compareFn flags a b)) flags

def sortOnFields (heap : Heap) (coerce : Value → Except Error String) (args : List Value) :
    Option (Except Error (List String)) :=
  match args.head? with
  | some (.object array) => some ((heap array).arrayValues.mapM coerce)
  | some fieldName => some ((coerce fieldName).map fun name => [name])
  | none => none

def sortOnFlags (heap : Heap) (toI32 : Value → Except Error Int) (args : List Value) (fieldCount : Nat) :
    Except Error (List SortFlags) :=
  match args.get? 1 with
  | some (.object array) =>
    if (heap array).length = fieldCount then
      (heap array).arrayValues.mapM fun flag => (toI32 flag).map SortFlags.fromBitsTruncate
    else .ok (List.replicate fieldCount .empty)
  | some flags => (toI32 flags).map fun bits => List.replicate fieldCount (.fromBitsTruncate bits)
  | none => .ok (List.replicate fieldCount .empty)

/-- `sortOn`: `CASE_INSENSITIVE` and `NUMERIC` per field, the other bits from the first set of flags. -/
def sortOn (strategy : SortStrategy) (arrayProto : Option ObjectRef) (heap : Heap)
    (coerce : Value → Except Error String) (toI32 : Value → Except Error Int)
    (get : Value → String → Except Error Value) (this : ScriptObjectData) (args : List Value) :
    Except Error (Option (ScriptObjectData × Returned)) :=
  match sortOnFields heap coerce args with
  | none => .ok (some (this, .value .undefined))
  | some (.error error) => .error error
  | some (.ok fields) =>
    if fields.isEmpty then .ok (some (this, .this))
    else (sortOnFlags heap toI32 args fields.length).map fun flags =>
      sortWithFunction strategy arrayProto this
        (sortCompareFields get fields (flags.map (flagsCompareFn coerce))) (flags.headD .empty)

end ScriptObjectData

/-! What a run of the sort does when the comparator answers on every pair of elements. -/

theorem length_storeElements {vector : List Value} {start : Nat} (values : List Value)
    (inside : start ≤ vector.length) :
    (storeElements vector start values).length = max vector.length (start + values.length) := by
  induction values generalizing vector start with
  | nil => simp only [storeElements, List.length_nil]; omega
  | cons value rest ih =>
    rw [storeElements, ih (by simp), length_storeElement, List.length_cons]
    omega

theorem storeElements_of_length {vector values : List Value} (same : values.length = vector.length) :
    storeElements vector 0 values = values :=
  list_eq_of_getD (by rw [length_storeElements _ (Nat.zero_le _)]; omega) fun j inside => by
    rw [getD_storeElements, if_pos ⟨Nat.zero_le j, by
      rw [length_storeElements _ (Nat.zero_le _)] at inside; omega⟩, Nat.sub_zero]

theorem map_getD_range (values : List Value) :
    (List.range values.length).map (values.getD · .undefined) = values :=
  List.ext_getElem (by simp) fun i _ inside => by simp [List.getElem?_eq_getElem inside]

theorem SortStrategy.all_asked_iff (strategy : SortStrategy) {c : Value → Value → Ordering}
    {values : List Value} (preorder : TotalPreorder c values) :
    ((strategy.tree values.length).asked (answerAt c values)).all (fun question => question.2.2 != .eq) ↔
      ¬ Tied c values := by
  simp only [List.all_eq_true, ← strategy.asks_tie_iff preorder, not_exists, not_and]
  exact forall₂_congr fun question _ => by cases question.2.2 <;> decide

theorem ScriptObjectData.setArrayElements_replaces {this : ScriptObjectData} {vector values : List Value}
    {length : Nat} (stored : this.array = .vector vector) (fits : vector.length = length)
    (same : values.length = length) :
    (this.setArrayElements 0 values).array = .vector values ∧ (this.setArrayElements 0 values).length = length := by
  have written := ScriptObjectData.setArrayElements_array stored 0 values
  rw [storeElements_of_length (same.trans fits.symm)] at written
  exact ⟨written, (ScriptObjectData.length_vector written).trans same⟩

/-- `order` sorts the positions of `elements` under `c`, reversed when `descending`. -/
def SortedOrder (elements : List Value) (c : Value → Value → Ordering) (descending : Bool)
    (order : List Nat) : Prop :=
  order.Perm (List.range elements.length) ∧ (order.map (elements.getD · .undefined)).Perm elements ∧
    (order.map (elements.getD · .undefined)).Pairwise fun x y =>
      if descending then c x y ≠ .lt else c x y ≠ .gt

/-- A sort that ended in `order`: the elements written back, or with `returnIndexed` the positions. -/
def SortResult (this : ScriptObjectData) (elements : List Value) (order : List Nat) (returnIndexed : Bool)
    (result : Option (ScriptObjectData × Returned)) : Prop :=
  if returnIndexed then
    ∃ indexed, result = some (this, .array indexed) ∧ indexed.array = .vector (order.map Value.ofNat) ∧
      indexed.length = elements.length
  else
    ∃ sorted, result = some (sorted, .this) ∧
      sorted.array = .vector (order.map (elements.getD · .undefined)) ∧ sorted.length = elements.length

theorem SortFlags.adjust_ne_gt (flags : SortFlags) (ordering : Ordering) :
    flags.adjust ordering ≠ .gt ↔ if flags.descending then ordering ≠ .lt else ordering ≠ .gt := by
  unfold SortFlags.adjust
  cases flags.descending <;> cases ordering <;> decide

@[simp] theorem adjust_with_uniqueSort (flags : SortFlags) (unique : Bool) :
    ({ flags with uniqueSort := unique } : SortFlags).adjust = flags.adjust := rfl

theorem tied_adjust (flags : SortFlags) (c : Value → Value → Ordering) (values : List Value) :
    Tied (fun a b => flags.adjust (c a b)) values ↔ Tied c values := by
  have same : ∀ ordering : Ordering, flags.adjust ordering = .eq ↔ ordering = .eq := fun ordering => by
    unfold SortFlags.adjust; cases flags.descending <;> cases ordering <;> decide
  simp only [Tied, same]

namespace ScriptObjectData

section Total

variable (strategy : SortStrategy) (arrayProto : Option ObjectRef) {this : ScriptObjectData}
  {compareFn : Value → Value → Option Ordering} {c : Value → Value → Ordering} (flags : SortFlags)
  (total : ∀ a ∈ this.arrayValues, ∀ b ∈ this.arrayValues, compareFn a b = some (c a b))
include total

theorem sortWithFunction_of_total :
    sortWithFunction strategy arrayProto this compareFn flags =
      let answer := answerAt (fun a b => flags.adjust (c a b)) this.arrayValues
      let order := (strategy.tree this.arrayValues.length).result answer
      some (if flags.uniqueSort && !((strategy.tree this.arrayValues.length).asked answer).all
          (fun question => question.2.2 != .eq) then (this, .value (.ofNat 0))
        else if flags.returnIndexedArray then
          (this, .array (((ScriptObject.array arrayProto).setLength this.length).setArrayElements 0
            (order.map Value.ofNat)))
        else (this.setArrayElements 0 (order.map fun i => this.arrayValues.getD i .undefined), .this)) := by
  have agree : ∀ i j, (i ≠ j ∧ i < this.arrayValues.length ∧ j < this.arrayValues.length) →
      (compareFn (this.arrayValues.getD i .undefined) (this.arrayValues.getD j .undefined)).map flags.adjust =
        some (answerAt (fun a b => flags.adjust (c a b)) this.arrayValues i j) :=
    fun i j ⟨_, left, right⟩ => by rw [total _ (getD_mem left) _ (getD_mem right)]; rfl
  unfold sortWithFunction
  dsimp only
  rw [Decision.run_of_agree agree _ (strategy.valid _)]
  rfl

theorem sortWithFunction_result {elements : List Value} (stored : this.array = .vector elements)
    (preorder : TotalPreorder c elements) (noAbort : flags.uniqueSort = true → ¬ Tied c elements) :
    SortResult this elements ((strategy.tree elements.length).result
        (answerAt (fun a b => flags.adjust (c a b)) elements)) flags.returnIndexedArray
      (sortWithFunction strategy arrayProto this compareFn flags) := by
  have values : this.arrayValues = elements := arrayValues_vector stored
  rw [sortWithFunction_of_total strategy arrayProto flags total]
  simp only [values, length_vector stored]
  have adjusted := preorder.adjust flags
  have notAborted : (flags.uniqueSort && !((strategy.tree elements.length).asked
      (answerAt (fun a b => flags.adjust (c a b)) elements)).all fun question => question.2.2 != .eq) = false := by
    cases unique : flags.uniqueSort
    · rfl
    · simp [(strategy.all_asked_iff adjusted).mpr ((tied_adjust flags c elements).not.mpr (noAbort unique))]
  have length : ((strategy.tree elements.length).result
      (answerAt (fun a b => flags.adjust (c a b)) elements)).length = elements.length := by
    simpa using (strategy.result_sorted adjusted).1.length_eq
  have resized : ((ScriptObject.array arrayProto).setLength elements.length).array =
      .vector (resize [] elements.length) := setLength_array rfl _
  unfold SortResult
  rw [notAborted, if_neg Bool.false_ne_true]
  cases flags.returnIndexedArray
  · exact ⟨_, rfl, setArrayElements_replaces stored rfl (by simpa using length)⟩
  · exact ⟨_, rfl, setArrayElements_replaces resized (length_resize _ _) (by simpa using length)⟩

theorem sortWithFunction_unique (preorder : TotalPreorder c this.arrayValues) (unique : flags.uniqueSort = true) :
    (sortWithFunction strategy arrayProto this compareFn flags = some (this, .value (.ofNat 0)) ↔
      Tied c this.arrayValues) ∧
    (¬ Tied c this.arrayValues →
      sortWithFunction strategy arrayProto this compareFn flags =
        sortWithFunction strategy arrayProto this compareFn { flags with uniqueSort := false }) := by
  have isUnique := strategy.all_asked_iff (preorder.adjust flags)
  rw [← tied_adjust flags c, sortWithFunction_of_total strategy arrayProto flags total,
    sortWithFunction_of_total strategy arrayProto { flags with uniqueSort := false } total]
  by_cases tie : Tied (fun a b => flags.adjust (c a b)) this.arrayValues
  · have notUnique := Bool.eq_false_iff.mpr fun all => isUnique.mp all tie
    simp [unique, notUnique, tie]
  · simp only [adjust_with_uniqueSort, isUnique.mpr tie, unique, Bool.not_true, Bool.and_false,
      Bool.false_eq_true, if_false, Option.some_inj, tie, iff_false]
    exact ⟨by split <;> simp, fun _ => trivial⟩

end Total

theorem sortedOrder_result (strategy : SortStrategy) {elements : List Value} {c : Value → Value → Ordering}
    (flags : SortFlags) (preorder : TotalPreorder c elements) :
    SortedOrder elements c flags.descending
      ((strategy.tree elements.length).result (answerAt (fun a b => flags.adjust (c a b)) elements)) := by
  obtain ⟨perm, sorted⟩ := strategy.result_sorted (preorder.adjust flags)
  refine ⟨perm, (perm.map _).trans (List.Perm.of_eq (map_getD_range elements)), List.pairwise_map.mpr ?_⟩
  exact sorted.imp fun ne => (SortFlags.adjust_ne_gt flags _).mp ne

theorem sort_of_args {args : List Value} {compareFn : Option Value} {bits : Int}
    (parsed : sortArgs args = some (compareFn, bits)) (strategy : SortStrategy) (arrayProto : Option ObjectRef)
    (coerce : Value → Except Error String) (call : Value → Value → Value → Except Error Value)
    (this : ScriptObjectData) :
    sort strategy arrayProto coerce call this args =
      sortWithFunction strategy arrayProto this
        (fun a b => some (sortCompareFn coerce call compareFn (.fromBitsTruncate bits) a b))
        (.fromBitsTruncate bits) := by
  rw [sort, parsed]

theorem sortOn_of_fields {heap : Heap} {coerce : Value → Except Error String} {toI32 : Value → Except Error Int}
    {args : List Value} {fields : List String} {flags : List SortFlags}
    (named : sortOnFields heap coerce args = some (.ok fields)) (nonempty : fields ≠ [])
    (flagged : sortOnFlags heap toI32 args fields.length = .ok flags) (strategy : SortStrategy)
    (arrayProto : Option ObjectRef) (get : Value → String → Except Error Value) (this : ScriptObjectData) :
    sortOn strategy arrayProto heap coerce toI32 get this args =
      .ok (sortWithFunction strategy arrayProto this
        (sortCompareFields get fields (flags.map (flagsCompareFn coerce))) (flags.headD .empty)) := by
  rw [sortOn, named]
  cases fields with
  | nil => exact absurd rfl nonempty
  | cons => simp only [List.isEmpty_cons, Bool.false_eq_true, if_false, flagged]; rfl

theorem sortCompareFn_congr {flags flags' : SortFlags} (numeric : flags'.numeric = flags.numeric)
    (caseInsensitive : flags'.caseInsensitive = flags.caseInsensitive) (coerce : Value → Except Error String)
    (call : Value → Value → Value → Except Error Value) (compareFn : Option Value) :
    sortCompareFn coerce call compareFn flags' = sortCompareFn coerce call compareFn flags := by
  simp only [sortCompareFn, flagsCompareFn, numeric, caseInsensitive]

theorem adjust_congr {flags flags' : SortFlags} (descending : flags'.descending = flags.descending) :
    flags'.adjust = flags.adjust := by
  funext ordering; simp only [SortFlags.adjust, descending]

/-- Under `UNIQUE_SORT` the sorts answer 0 and change nothing exactly when two elements tie. -/
theorem unique_sort_aborts_exactly_on_ties (strategy : SortStrategy) (arrayProto : Option ObjectRef)
    (this : ScriptObjectData) :
    (∀ (coerce : Value → Except Error String) (call : Value → Value → Value → Except Error Value)
        (args args' : List Value) (compareFn : Option Value) (bits bits' : Int),
      sortArgs args = some (compareFn, bits) → sortArgs args' = some (compareFn, bits') →
      let flags := SortFlags.fromBitsTruncate bits
      let c := sortCompareFn coerce call compareFn flags
      flags.uniqueSort = true → SortFlags.fromBitsTruncate bits' = { flags with uniqueSort := false } →
      TotalPreorder c this.arrayValues →
      (sort strategy arrayProto coerce call this args = some (this, .value (.ofNat 0)) ↔
        Tied c this.arrayValues) ∧
      (¬ Tied c this.arrayValues →
        sort strategy arrayProto coerce call this args = sort strategy arrayProto coerce call this args')) ∧
    (∀ (heap : Heap) (coerce : Value → Except Error String) (toI32 : Value → Except Error Int)
        (get : Value → String → Except Error Value) (args args' : List Value) (fields : List String)
        (flagList flagList' : List SortFlags),
      sortOnFields heap coerce args = some (.ok fields) → sortOnFields heap coerce args' = some (.ok fields) →
      fields ≠ [] → sortOnFlags heap toI32 args fields.length = .ok flagList →
      sortOnFlags heap toI32 args' fields.length = .ok flagList' →
      (∀ v ∈ this.arrayValues, ∀ name ∈ fields, ∃ value, get v name = .ok value) →
      let flags := flagList.headD .empty
      let c a b := (sortCompareFields get fields (flagList.map (flagsCompareFn coerce)) a b).getD .eq
      flags.uniqueSort = true → flagList'.headD .empty = { flags with uniqueSort := false } →
      flagList'.map (flagsCompareFn coerce) = flagList.map (flagsCompareFn coerce) →
      TotalPreorder c this.arrayValues →
      (sortOn strategy arrayProto heap coerce toI32 get this args = .ok (some (this, .value (.ofNat 0))) ↔
        Tied c this.arrayValues) ∧
      (¬ Tied c this.arrayValues →
        sortOn strategy arrayProto heap coerce toI32 get this args =
          sortOn strategy arrayProto heap coerce toI32 get this args')) := by
  refine ⟨fun coerce call args args' compareFn bits bits' parsed parsed' unique cleared preorder => ?_,
    fun heap coerce toI32 get args args' fields flagList flagList' named named' nonempty flagged flagged'
      found unique cleared same preorder => ?_⟩
  · have run := sortWithFunction_unique strategy arrayProto (.fromBitsTruncate bits) (fun _ _ _ _ => rfl)
      preorder unique
    rw [sort_of_args parsed, sort_of_args parsed', cleared]
    exact run
  · have run := sortWithFunction_unique strategy arrayProto (flagList.headD .empty)
      (sortCompareFields_total found) preorder unique
    rw [sortOn_of_fields named nonempty flagged, sortOn_of_fields named' nonempty flagged', cleared, same]
    simpa using run

def repeatArray : ScriptObjectData :=
  (ScriptObject.array none).setArrayElements 0 [.string "a", .string "a"]

theorem unique_sort_aborts_on_repeated_string :
    sort insertionStrategy none decimalCoercion (fun _ _ _ => .ok .undefined) repeatArray [.number (.finite 4)] =
      some (repeatArray, .value (.ofNat 0)) := by
  have values : repeatArray.arrayValues = [.string "a", .string "a"] := rfl
  have coerces : ∀ v ∈ repeatArray.arrayValues, ∃ s, decimalCoercion v = .ok s := by
    rw [values]
    intro v member
    rcases List.mem_pair.mp member with rfl | rfl <;> exact ⟨_, rfl⟩
  exact (((unique_sort_aborts_exactly_on_ties insertionStrategy none repeatArray).1 decimalCoercion _
    [.number (.finite 4)] [.number (.finite 0)] none 4 0 (by with_unfolding_all rfl) (by with_unfolding_all rfl)
    (by decide) (by decide)
    (sortCompareString_preorder coerces)).1.mpr ⟨0, 1, by decide, by decide, by decide, by decide⟩)

/-- `sort` and `sortOn` end in an order that sorts the elements under the comparator the flags build. -/
theorem sort_orders_elements {this : ScriptObjectData} {elements : List Value}
    (stored : this.array = .vector elements) (strategy : SortStrategy) (arrayProto : Option ObjectRef) :
    (∀ (coerce : Value → Except Error String) (call : Value → Value → Value → Except Error Value)
        (args args' : List Value) (compareFn : Option Value) (bits bits' : Int),
      sortArgs args = some (compareFn, bits) → sortArgs args' = some (compareFn, bits') →
      let flags := SortFlags.fromBitsTruncate bits
      let flags' := SortFlags.fromBitsTruncate bits'
      let c := sortCompareFn coerce call compareFn flags
      { flags' with returnIndexedArray := flags.returnIndexedArray } = flags →
      TotalPreorder c elements → (flags.uniqueSort = true → ¬ Tied c elements) →
      ∃ order, SortedOrder elements c flags.descending order ∧
        SortResult this elements order flags.returnIndexedArray (sort strategy arrayProto coerce call this args) ∧
        SortResult this elements order flags'.returnIndexedArray (sort strategy arrayProto coerce call this args')) ∧
    (∀ (heap : Heap) (coerce : Value → Except Error String) (toI32 : Value → Except Error Int)
        (get : Value → String → Except Error Value) (args args' : List Value) (fields : List String)
        (flagList flagList' : List SortFlags),
      sortOnFields heap coerce args = some (.ok fields) → sortOnFields heap coerce args' = some (.ok fields) →
      fields ≠ [] → sortOnFlags heap toI32 args fields.length = .ok flagList →
      sortOnFlags heap toI32 args' fields.length = .ok flagList' →
      (∀ v ∈ elements, ∀ name ∈ fields, ∃ value, get v name = .ok value) →
      let flags := flagList.headD .empty
      let flags' := flagList'.headD .empty
      let c a b := (sortCompareFields get fields (flagList.map (flagsCompareFn coerce)) a b).getD .eq
      { flags' with returnIndexedArray := flags.returnIndexedArray } = flags →
      flagList'.map (flagsCompareFn coerce) = flagList.map (flagsCompareFn coerce) →
      TotalPreorder c elements → (flags.uniqueSort = true → ¬ Tied c elements) →
      ∃ order, SortedOrder elements c flags.descending order ∧
        SortResult this elements order flags.returnIndexedArray
          ((sortOn strategy arrayProto heap coerce toI32 get this args).toOption.join) ∧
        SortResult this elements order flags'.returnIndexedArray
          ((sortOn strategy arrayProto heap coerce toI32 get this args').toOption.join)) := by
  have values : this.arrayValues = elements := arrayValues_vector stored
  refine ⟨fun coerce call args args' compareFn bits bits' parsed parsed' toggled preorder noAbort => ?_,
    fun heap coerce toI32 get args args' fields flagList flagList' named named' nonempty flagged flagged' found
      toggled same preorder noAbort => ?_⟩
  · have descending : (SortFlags.fromBitsTruncate bits').descending = (SortFlags.fromBitsTruncate bits).descending := by
      rw [← toggled]
    have unique : (SortFlags.fromBitsTruncate bits').uniqueSort = (SortFlags.fromBitsTruncate bits).uniqueSort := by
      rw [← toggled]
    have comparator := sortCompareFn_congr
      (show (SortFlags.fromBitsTruncate bits').numeric = (SortFlags.fromBitsTruncate bits).numeric by
        rw [← toggled])
      (show (SortFlags.fromBitsTruncate bits').caseInsensitive = (SortFlags.fromBitsTruncate bits).caseInsensitive by
        rw [← toggled]) coerce call compareFn
    refine ⟨_, sortedOrder_result strategy _ preorder, ?_, ?_⟩
    · rw [sort_of_args parsed]
      exact sortWithFunction_result strategy arrayProto _ (fun _ _ _ _ => rfl) stored preorder noAbort
    · rw [sort_of_args parsed', comparator, ← adjust_congr descending]
      exact sortWithFunction_result strategy arrayProto _ (fun _ _ _ _ => rfl) stored preorder
        (unique ▸ noAbort)
  · have total : ∀ a ∈ this.arrayValues, ∀ b ∈ this.arrayValues,
        sortCompareFields get fields (flagList.map (flagsCompareFn coerce)) a b =
          some ((sortCompareFields get fields (flagList.map (flagsCompareFn coerce)) a b).getD .eq) :=
      sortCompareFields_total (values ▸ found)
    have descending : (flagList'.headD .empty).descending = (flagList.headD .empty).descending := by
      rw [← toggled]
    have unique : (flagList'.headD .empty).uniqueSort = (flagList.headD .empty).uniqueSort := by
      rw [← toggled]
    refine ⟨_, sortedOrder_result strategy _ preorder, ?_, ?_⟩
    · rw [sortOn_of_fields named nonempty flagged]
      exact sortWithFunction_result strategy arrayProto _ total stored preorder noAbort
    · rw [sortOn_of_fields named' nonempty flagged', same, ← adjust_congr descending]
      exact sortWithFunction_result strategy arrayProto _ total stored preorder (unique ▸ noAbort)

def pairArray : ScriptObjectData :=
  (ScriptObject.array none).setArrayElements 0 [.string "b", .string "a"]

theorem sort_orders_two_strings :
    ∃ order, SortedOrder [.string "b", .string "a"]
        (sortCompareFn decimalCoercion (fun _ _ _ => .ok .undefined) none (.fromBitsTruncate 0)) false order ∧
      SortResult pairArray [.string "b", .string "a"] order false
        (sort insertionStrategy none decimalCoercion (fun _ _ _ => .ok .undefined) pairArray []) ∧
      SortResult pairArray [.string "b", .string "a"] order true
        (sort insertionStrategy none decimalCoercion (fun _ _ _ => .ok .undefined) pairArray [.number (.finite 8)]) := by
  have stored : pairArray.array = .vector [.string "b", .string "a"] := rfl
  have coerces : ∀ v ∈ [Value.string "b", .string "a"], ∃ s, decimalCoercion v = .ok s := by
    intro v member
    rcases List.mem_pair.mp member with rfl | rfl <;> exact ⟨_, rfl⟩
  exact (sort_orders_elements stored insertionStrategy none).1 decimalCoercion _ [] [.number (.finite 8)] none 0 8
    rfl (by with_unfolding_all rfl) (by decide) (sortCompareString_preorder coerces) fun unique => absurd unique (by decide)

def descendingStrings : List Value :=
  .string "149" :: (List.range 49).map fun k => .string (toString (149 - k))

def descendingArray : ScriptObjectData :=
  ((ScriptObject.array none).setLength 50).setArrayElements 0 descendingStrings

end ScriptObjectData

/-! The sort writes through `set_array_element` only, and builds its indexed array the same way. -/

namespace ArrayMirror

open ScriptObjectData

variable {this : ScriptObjectData} (mirror : ArrayMirror this) {sorted : ScriptObjectData} {returned : Returned}
include mirror

theorem sortWithFunction {strategy : SortStrategy} {arrayProto : Option ObjectRef}
    {compareFn : Value → Value → Option Ordering} {flags : SortFlags}
    (found : this.sortWithFunction strategy arrayProto compareFn flags = some (sorted, returned)) :
    ArrayMirror sorted ∧ ∀ array, returned = .array array → ArrayMirror array := by
  unfold ScriptObjectData.sortWithFunction at found
  obtain ⟨⟨order, asked⟩, _, result⟩ := Option.map_eq_some'.mp found
  dsimp only at result
  split_ifs at result <;> cases result
  · exact ⟨mirror, fun _ returned => nomatch returned⟩
  · exact ⟨mirror, fun _ returned => by
      cases returned; exact ((ScriptObject.array_mirror _).setLength _).setArrayElements _ _⟩
  · exact ⟨mirror.setArrayElements _ _, fun _ returned => nomatch returned⟩

theorem sort {strategy : SortStrategy} {arrayProto : Option ObjectRef} {coerce : Value → Except Error String}
    {call : Value → Value → Value → Except Error Value} {args : List Value}
    (found : this.sort strategy arrayProto coerce call args = some (sorted, returned)) :
    ArrayMirror sorted ∧ ∀ array, returned = .array array → ArrayMirror array := by
  unfold ScriptObjectData.sort at found
  split at found
  · cases found; exact ⟨mirror, fun _ returned => nomatch returned⟩
  · exact mirror.sortWithFunction found

theorem sortOn {strategy : SortStrategy} {arrayProto : Option ObjectRef} {heap : Heap}
    {coerce : Value → Except Error String} {toI32 : Value → Except Error Int}
    {get : Value → String → Except Error Value} {args : List Value}
    (found : this.sortOn strategy arrayProto heap coerce toI32 get args = .ok (some (sorted, returned))) :
    ArrayMirror sorted ∧ ∀ array, returned = .array array → ArrayMirror array := by
  unfold ScriptObjectData.sortOn at found
  split at found
  · cases found; exact ⟨mirror, fun _ returned => nomatch returned⟩
  · cases found
  · split at found
    · cases found; exact ⟨mirror, fun _ returned => nomatch returned⟩
    · cases flags : sortOnFlags heap toI32 args _ with
      | error => rw [flags] at found; cases found
      | ok flagList => rw [flags] at found; exact mirror.sortWithFunction (Except.ok.inj found)

end ArrayMirror

/-! `sortOn` on two records. -/

def record (a b : ℚ) : ScriptObjectData :=
  ((ScriptObject.object none).defineValue "a" (.number (.finite a)) .empty).defineValue "b"
    (.number (.finite b)) .empty

def recordHeap : Heap
  | 1 => record 1 1
  | 2 => record 1 2
  | 3 => (ScriptObject.array none).setArrayElements 0 [.string "a", .string "b"]
  | _ => (ScriptObject.array none).setArrayElements 0 [.number (.finite 16), .number (.finite 18)]

def storedGet (heap : Heap) : Value → String → Except Error Value
  | .object o, name => .ok (((heap o).values.storedValue name).getD .undefined)
  | _, _ => .ok .undefined

def numberI32 : Value → Except Error Int
  | .number n => .ok n.toWrappingI32
  | _ => .ok 0

def recordArray : ScriptObjectData :=
  (ScriptObject.array none).setArrayElements 0 [.object 1, .object 2]

open ScriptObjectData in
/-- Only the first set of flags reverses the comparison: the `DESCENDING` of field `b` is ignored. -/
theorem sortOn_ignores_field_descending (strategy : SortStrategy) :
    ∃ sorted, sortOn strategy none recordHeap decimalCoercion numberI32 (storedGet recordHeap) recordArray
        [.object 3, .object 4] = .ok (some (sorted, .this)) ∧ sorted.arrayValues = [.object 1, .object 2] := by
  have values : recordArray.arrayValues = [.object 1, .object 2] := rfl
  have two : [Value.object 1, .object 2].length = 2 := rfl
  have found : ∀ v ∈ recordArray.arrayValues, ∀ name ∈ ["a", "b"], ∃ value, storedGet recordHeap v name = .ok value :=
    fun v _ _ _ => by cases v <;> exact ⟨_, rfl⟩
  have named : sortOnFields recordHeap decimalCoercion [.object 3, .object 4] = some (.ok ["a", "b"]) := rfl
  have flagged : sortOnFlags recordHeap numberI32 [.object 3, .object 4] 2 =
      .ok [.fromBitsTruncate 16, .fromBitsTruncate 18] := by with_unfolding_all rfl
  rw [sortOn_of_fields named (by decide) flagged, sortWithFunction_of_total strategy none _ (sortCompareFields_total found)]
  simp only [values, two]
  rw [strategy.result_two (by decide) (by decide)]
  exact ⟨_, rfl, rfl⟩

def throwingGet : Value → String → Except Error Value :=
  fun _ _ => .error (.thrownValue (.string "getter"))

open ScriptObjectData in
/-- A throwing getter makes `sortOn` panic (`none`) instead of returning. -/
theorem sortOn_panics_on_throwing_getter (strategy : SortStrategy) :
    sortOn strategy none recordHeap decimalCoercion numberI32 throwingGet recordArray [.string "a"] = .ok none := by
  have values : recordArray.arrayValues = [.object 1, .object 2] := rfl
  have two : [Value.object 1, .object 2].length = 2 := rfl
  obtain ⟨i, j, next, tree⟩ := strategy.asks_on_two
  have named : sortOnFields recordHeap decimalCoercion [.string "a"] = some (.ok ["a"]) := rfl
  have flagged : sortOnFlags recordHeap numberI32 [.string "a"] 1 = .ok [.empty] := rfl
  rw [sortOn_of_fields named (by decide) flagged]
  unfold sortWithFunction
  simp only [values, two, tree, Decision.run]
  rfl

end Avm1
