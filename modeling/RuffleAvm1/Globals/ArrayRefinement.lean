import RuffleAvm1.Globals.ArraySort

/-! The `Array` methods against the list functions they stand for. On every object the snapshot
`array()` and the reads `array_element(i)` agree; on an array-natured object `push`, `unshift`,
`pop`, `shift` and `reverse` leave the element list the list function leaves; `slice` copies a
clamped index range and `concat` flattens its array arguments one level. -/

namespace Avm1

namespace ScriptObjectData

section Snapshot

variable (this : ScriptObjectData)

theorem length_arrayValues : this.arrayValues.length = this.length := by
  unfold arrayValues length; split <;> simp

theorem arrayElement_of_length_le {index : Nat} (past : this.length ≤ index) :
    this.arrayElement index = .undefined := by
  unfold length at past
  unfold arrayElement
  cases stored : this.array with
  | vector vector => rw [stored] at past; exact getD_of_length_le past
  | properties length => simp only [stored] at past; exact if_neg (by omega)

theorem getD_arrayValues (index : Nat) : this.arrayValues.getD index .undefined = this.arrayElement index := by
  cases stored : this.array with
  | vector vector => rw [arrayValues_vector stored, arrayElement_vector stored]
  | properties length =>
    have snapshot : this.arrayValues = (List.range length).map this.arrayElement := by simp [arrayValues, stored]
    by_cases inside : index < length
    · simp [snapshot, List.getD_eq_getElem?_getD, List.getElem?_range inside]
    · rw [getD_of_length_le (by simp [snapshot]; omega),
        arrayElement_of_length_le this (by simp [ScriptObjectData.length, stored]; omega)]

theorem arrayValues_eq_map : this.arrayValues = (List.range this.length).map this.arrayElement :=
  list_eq_of_getD (by simp [length_arrayValues]) fun j inside => by
    rw [length_arrayValues] at inside
    rw [getD_arrayValues]
    simp [List.getD_eq_getElem?_getD, List.getElem?_range inside]

theorem map_arrayElement_range {start n : Nat} (inside : start + n ≤ this.length) :
    (List.range n).map (fun i => this.arrayElement (start + i)) = (this.arrayValues.drop start).take n :=
  list_eq_of_getD (by simp [length_arrayValues]; omega) fun j below => by
    simp only [List.length_map, List.length_range] at below
    simp only [List.getD_eq_getElem?_getD, List.getElem?_map, List.getElem?_range below, Option.map_some',
      Option.getD_some]
    rw [← getD_arrayValues]
    simp [List.getD_eq_getElem?_getD, List.getElem?_take, List.getElem?_drop, below]

end Snapshot

theorem popElements_range' (this : ScriptObjectData) (values : List Value) (start k : Nat)
    (enough : k ≤ values.length) :
    this.popElements values (List.range' start k) = some (this.setArrayElements start (values.reverse.take k)) := by
  induction k generalizing this values start with
  | zero => rfl
  | succ k ih =>
    have nonempty : values ≠ [] := List.ne_nil_of_length_pos (by omega)
    have popped : values.reverse = values.getLast nonempty :: values.dropLast.reverse := by
      conv_lhs => rw [← List.dropLast_append_getLast nonempty]
      simp
    rw [List.range'_succ, popElements, List.getLast?_eq_getLast values nonempty]
    dsimp only
    rw [popped, List.take_succ_cons, setArrayElements, ih _ _ _ (by rw [List.length_dropLast]; omega)]

theorem reverseLoop_eq (this : ScriptObjectData) : this.reverseLoop = some this.reverse := by
  rw [reverseLoop, List.range_eq_range', popElements_range' _ _ _ _ (length_arrayValues this).ge,
    List.take_of_length_le (by simp [length_arrayValues])]
  rfl

end ScriptObjectData

open ScriptObjectData

theorem length_of_mapM_ok {α β : Type} (f : α → Except Error β) :
    ∀ (l : List α) {r : List β}, l.mapM f = .ok r → r.length = l.length
  | [], r, ok => by
    rw [List.mapM_nil] at ok
    cases ok
    rfl
  | a :: l, r, ok => by
    rw [List.mapM_cons] at ok
    cases first : f a with
    | error => rw [first] at ok; cases ok
    | ok b =>
      cases rest : l.mapM f with
      | error => rw [first] at ok; simp only [rest] at ok; cases ok
      | ok bs =>
        rw [first] at ok
        simp only [rest] at ok
        cases ok
        simp [length_of_mapM_ok f l rest]

theorem length_of_sortOnFlags {heap : Heap} {toI32 : Value → Except Error Int} {args : List Value}
    {fieldCount : Nat} {flags : List SortFlags} (flagged : sortOnFlags heap toI32 args fieldCount = .ok flags) :
    flags.length = fieldCount := by
  unfold sortOnFlags at flagged
  split at flagged
  · split at flagged
    · rw [length_of_mapM_ok _ _ flagged, ScriptObjectData.length_arrayValues]
      assumption
    · cases flagged; simp
  · cases bits : toI32 _ <;> rw [bits] at flagged <;> cases flagged
    simp
  · cases flagged; simp

/-- The snapshot `array()` and the reads `array_element(i)` agree on every object. -/
theorem array_snapshot_agrees_with_element_reads (this : ScriptObjectData) :
    this.arrayValues.length = this.length ∧
    (∀ i < this.length, this.arrayValues.getD i .undefined = this.arrayElement i) ∧
    (∀ i, this.length ≤ i → this.arrayElement i = .undefined) ∧
    this.reverseLoop = some this.reverse ∧
    ∀ (heap : Heap) (coerce : Value → Except Error String) (toI32 : Value → Except Error Int)
      (args : List Value) (fields : List String) (flags : List SortFlags),
      sortOnFlags heap toI32 args fields.length = .ok flags →
      flags.length = fields.length ∧ (fields ≠ [] → flags ≠ []) ∧
        (fields.zip (flags.map (flagsCompareFn coerce))).map Prod.fst = fields := by
  refine ⟨this.length_arrayValues, fun i _ => this.getD_arrayValues i, fun _ past => this.arrayElement_of_length_le past,
    this.reverseLoop_eq, fun heap coerce toI32 args fields flags flagged => ?_⟩
  have perField := length_of_sortOnFlags flagged
  refine ⟨perField, fun nonempty empty => nonempty (List.length_eq_zero.mp (by simp [← perField, empty])),
    List.map_fst_zip _ _ (by simp [perField])⟩

/-! `push`, `unshift`, `pop`, `shift` and `reverse` against `++`, `dropLast`, `tail` and `reverse`. -/

theorem getD_append_eq (l l' : List Value) (j : Nat) :
    (l ++ l').getD j .undefined = if j < l.length then l.getD j .undefined else l'.getD (j - l.length) .undefined := by
  simp only [List.getD_eq_getElem?_getD]
  split
  · rw [List.getElem?_append_left ‹_›]
  · rw [List.getElem?_append_right (by omega)]

theorem storeElements_after (v w values : List Value) (within : w.length ≤ values.length) :
    storeElements (v ++ w) v.length values = v ++ values := by
  have length : (storeElements (v ++ w) v.length values).length = v.length + values.length := by
    rw [length_storeElements _ (by simp)]; simp; omega
  refine list_eq_of_getD (by simp [length]) fun j below => ?_
  rw [length] at below
  rw [getD_storeElements, getD_append_eq, getD_append_eq]
  by_cases written : v.length ≤ j
  · rw [if_pos ⟨written, below⟩, if_neg (by omega)]
  · rw [if_neg (by omega), if_pos (by omega), if_pos (by omega)]

theorem storeElements_nil (values : List Value) : storeElements [] 0 values = values :=
  storeElements_after [] [] values (Nat.zero_le _)

theorem ArrayMirror.stored {this : ScriptObjectData} (mirror : ArrayMirror this) :
    this.array = .vector this.arrayValues := by
  unfold ArrayMirror at mirror
  split at mirror
  · next elements stored => rw [arrayValues_vector stored]; exact stored
  · exact mirror.elim

theorem ScriptObjectData.unshift_fst (this : ScriptObjectData) (args : List Value) :
    (this.unshift args).1 = ((this.moveElements (List.range' args.length this.length).reverse
      fun i => i - args.length).setArrayElements 0 args).setLength (this.length + args.length) := by
  unfold unshift
  dsimp only
  split
  · rw [Nat.add_sub_cancel]
  · rw [show this.length = 0 by omega]
    rfl

namespace ScriptObjectData

theorem dropLast_arrayValues {this : ScriptObjectData} {v kept : List Value} (stored : this.array = .vector v)
    (caseSensitive : Bool) (n : Nat) (length : kept.length = n - 1)
    (places : ∀ j < n - 1, v.getD j .undefined = kept.getD j .undefined) :
    ((((this.deleteArrayElement (n - 1)).delete caseSensitive (toString (n - 1))).1).setLength (n - 1)).arrayValues =
      kept := by
  rw [arrayValues_vector (setLength_array (by rw [delete_array, deleteArrayElement_array stored]) _)]
  refine list_eq_of_getD (by simp [length]) fun j below => ?_
  simp only [length_resize] at below
  rw [getD_resize, if_pos below, getD_clearElement, if_neg (by omega), places j below]

section Methods

variable {this : ScriptObjectData} {a : List Value} (stored : this.array = .vector a)
include stored

theorem push_arrayValues (args : List Value) : (this.push args).1.arrayValues = a ++ args := by
  have grown : resize a (a.length + args.length) = a ++ List.replicate args.length .undefined := by
    simp [resize]
  unfold push
  dsimp only
  rw [arrayValues_vector (setArrayElements_array (setLength_array stored _) _ _), length_vector stored, grown,
    storeElements_after _ _ _ (by simp)]

theorem unshift_arrayValues (args : List Value) : (this.unshift args).1.arrayValues = args ++ a := by
  have unread : (List.range' args.length a.length).reverse.Pairwise fun i k => k - args.length ≠ i :=
    List.pairwise_reverse.mpr ((List.pairwise_lt_range' _ _).imp_of_mem fun member _ before => by
      have := (List.mem_range'_1.mp member).1
      omega)
  rw [unshift_fst, length_vector stored,
    arrayValues_vector (setLength_array (setArrayElements_array (moveElements_array stored _ _) _ _) _)]
  refine list_eq_of_getD (by simp; omega) fun j below => ?_
  simp only [length_resize] at below
  rw [getD_resize, if_pos below, getD_storeElements, getD_moveWithin _ unread, getD_append_eq]
  simp only [List.mem_reverse, List.mem_range'_1]
  by_cases front : j < args.length
  · rw [if_pos ⟨Nat.zero_le j, by omega⟩, if_pos front, Nat.sub_zero]
  · rw [if_neg (by omega), if_pos ⟨by omega, by omega⟩, if_neg front]

theorem pop_of_nonempty (nonempty : a ≠ []) (caseSensitive : Bool) :
    (this.pop caseSensitive).1.arrayValues = a.dropLast ∧ (this.pop caseSensitive).2 = a.getLast nonempty := by
  have positive : 0 < a.length := List.length_pos.mpr nonempty
  unfold pop
  dsimp only
  rw [if_neg (by rw [length_vector stored]; omega), length_vector stored]
  refine ⟨dropLast_arrayValues stored caseSensitive _ (by simp) fun j below => ?_, ?_⟩
  · simp [List.getD_eq_getElem?_getD, List.getElem?_dropLast, below, List.getElem?_eq_getElem (by omega : j < a.length)]
  · simp [arrayElement_vector stored, List.getLast_eq_getElem, List.getD_eq_getElem?_getD,
      List.getElem?_eq_getElem (by omega : a.length - 1 < a.length)]

theorem shift_of_nonempty (nonempty : a ≠ []) (caseSensitive : Bool) :
    (this.shift caseSensitive).1.arrayValues = a.tail ∧ (this.shift caseSensitive).2 = a.head nonempty := by
  have positive : 0 < a.length := List.length_pos.mpr nonempty
  have unread : (List.range (a.length - 1)).Pairwise fun i k => k + 1 ≠ i :=
    (List.pairwise_lt_range _).imp fun before => by omega
  unfold shift
  dsimp only
  rw [if_neg (by rw [length_vector stored]; omega), length_vector stored]
  refine ⟨dropLast_arrayValues (moveElements_array stored _ _) caseSensitive _ (by simp) fun j below => ?_, ?_⟩
  · rw [getD_moveWithin _ unread, if_pos (List.mem_range.mpr below)]
    simp [List.getD_eq_getElem?_getD, List.getElem?_tail]
  · cases a with
    | nil => exact absurd rfl nonempty
    | cons first rest => rw [arrayElement_vector stored]; rfl

theorem reverse_arrayValues : this.reverse.arrayValues = a.reverse := by
  rw [reverse, arrayValues_vector stored]
  exact arrayValues_vector (setArrayElements_replaces stored rfl (List.length_reverse _)).1

end Methods

end ScriptObjectData

def NoIndexSlotPast (this : ScriptObjectData) : Prop :=
  ∀ i, this.length ≤ i → this.values.storedValue (toString i) = none

namespace ScriptObjectData

theorem indexArgument_getD_eq (toNumber : Value → Option Number) (args : List Value) (position length default : Nat) :
    ((indexArgument toNumber args position length).getD default : Int) =
      (((args.get? position).bind toNumber).map fun v =>
        if v.asI32 < 0 then max ((length : Int) - |v.asI32|) 0 else min v.asI32 (length : Int)).getD (default : Int) := by
  unfold indexArgument
  cases (args.get? position).bind toNumber <;> simp [makeIndexAbsolute_eq]

theorem slice_arrayValues (this : ScriptObjectData) (arrayProto : Option ObjectRef)
    (toNumber : Value → Option Number) (args : List Value) :
    (this.slice arrayProto toNumber args).arrayValues =
      let start := (indexArgument toNumber args 0 this.length).getD 0
      let stop := (indexArgument toNumber args 1 this.length).getD this.length
      if start < stop then (this.arrayValues.drop start).take (stop - start) else [] := by
  have stopLe := indexArgument_getD_le toNumber args 1 (le_refl this.length)
  unfold slice
  dsimp only
  split_ifs
  · rw [arrayValues_vector (setArrayElements_replaces (setLength_array rfl _) (length_resize _ _) (by simp)).1,
      map_arrayElement_range _ (by omega)]
  · rfl

end ScriptObjectData

/-- `slice` answers a new array of `a[start .. stop]`, each bound clamped as `make_index_absolute` does. -/
theorem slice_copies_clamped_range (this : ScriptObjectData) (arrayProto : Option ObjectRef)
    (toNumber : Value → Option Number) (args : List Value) :
    let length : Int := this.length
    let absolute (index : Int) : Int := if index < 0 then max (length - |index|) 0 else min index length
    let start := (((args.get? 0).bind toNumber).map fun v => absolute v.asI32).getD 0
    let stop := (((args.get? 1).bind toNumber).map fun v => absolute v.asI32).getD length
    let result := this.slice arrayProto toNumber args
    ArrayMirror result ∧
      result.arrayValues = if start < stop then (this.arrayValues.drop start.toNat).take (stop - start).toNat else [] := by
  refine ⟨this.slice_mirror arrayProto toNumber args, ?_⟩
  rw [slice_arrayValues]
  dsimp only
  have start := indexArgument_getD_eq toNumber args 0 this.length 0
  rw [Nat.cast_zero] at start
  rw [← start, ← indexArgument_getD_eq, Int.toNat_natCast]
  simp only [Nat.cast_lt]
  split_ifs
  · congr 1
    omega
  · rfl

theorem foldl_appends (f : Value → List Value) :
    ∀ (args : List Value) (state : ScriptObjectData) (written : List Value), state.array = .vector written →
      (args.foldl (fun (state : ScriptObjectData × Nat) arg =>
        (state.1.setArrayElements state.2 (f arg), state.2 + (f arg).length)) (state, written.length)).1.array =
        .vector (written ++ args.flatMap f)
  | [], _, _, stored => by simpa using stored
  | arg :: rest, state, written, stored => by
    have grown : (state.setArrayElements written.length (f arg)).array = .vector (written ++ f arg) := by
      rw [setArrayElements_array stored]
      simpa using congrArg ArrayStorage.vector (storeElements_after written [] (f arg) (by simp))
    rw [List.foldl_cons, List.flatMap_cons, ← List.append_assoc]
    dsimp only
    rw [← List.length_append]
    exact foldl_appends f rest _ _ grown

/-- A script callback that throws never reaches the caller of `sort` or `concat`. -/
theorem thrown_values_are_swallowed (thrown : Value) (strategy : SortStrategy) (arrayProto : Option ObjectRef)
    (this : ScriptObjectData) :
    (∀ (coerce : Value → Except Error String) (args : List Value),
      this.sort strategy arrayProto coerce (fun _ _ _ => .error (.thrownValue thrown)) args =
        this.sort strategy arrayProto coerce (fun _ _ _ => .ok .undefined) args) ∧
    (∀ call : Value → Value → Value → Except Error Value,
      this.sort strategy arrayProto (fun _ => .error (.thrownValue thrown)) call [] =
          sortWithFunction strategy arrayProto this (fun _ _ => some defaultOrdering) .empty ∧
        ∃ sorted, this.sort strategy arrayProto (fun _ => .error (.thrownValue thrown)) call [] = some (sorted, .this)) ∧
    ∀ (lengthOf : ObjectRef → Nat) (isArray : ObjectRef → Bool) (receiver : ObjectRef),
      (concat arrayProto lengthOf (getOrUndefined fun _ _ => .error (.thrownValue thrown)) isArray receiver []).arrayValues =
        List.replicate (lengthOf receiver) .undefined := by
  refine ⟨fun coerce args => ?_, fun call => ?_, fun lengthOf isArray receiver => ?_⟩
  · have same : sortCompareFn coerce (fun _ _ _ => .error (.thrownValue thrown)) =
        sortCompareFn coerce fun _ _ _ => .ok .undefined := by
      funext compareFn flags a b
      cases compareFn <;> rfl
    unfold sort
    rw [same]
  · have flags : SortFlags.fromBitsTruncate 0 = .empty := by decide
    have defaulted : this.sort strategy arrayProto (fun _ => .error (.thrownValue thrown)) call [] =
        sortWithFunction strategy arrayProto this (fun _ _ => some defaultOrdering) .empty := by
      rw [sort_of_args (show sortArgs [] = some (none, 0) from rfl), flags]
      rfl
    rw [defaulted, sortWithFunction_of_total strategy arrayProto (c := fun _ _ => defaultOrdering) _
      fun _ _ _ _ => rfl]
    exact ⟨rfl, _, rfl⟩
  · have constant : (List.range (lengthOf receiver)).map (getOrUndefined (fun _ _ => .error (.thrownValue thrown))
        receiver) = List.replicate (lengthOf receiver) .undefined := by
      rw [show getOrUndefined (fun _ _ => .error (.thrownValue thrown)) receiver = fun _ => .undefined from rfl,
        List.map_const', List.length_range]
    exact arrayValues_vector ((setArrayElements_array rfl 0 _).trans (by dsimp only; rw [constant, storeElements_nil]))

end Avm1
