import RuffleAvm1.Object.Elements

/-! The `Array` methods of array.rs that move elements: `push`, `unshift`, `shift`, `pop`,
`reverse`, `slice`, `splice` and `concat`. Each is a sequence of `set_array_element`,
`delete_array_element`, `delete` and `set_length` calls on one object. -/

namespace Avm1

def i32Half : Int := 2147483648

@[irreducible] def wrapI32 (n : Int) : Int :=
  (n + i32Half) % (2 * i32Half) - i32Half

def usizeOfI32 (n : Int) : Nat :=
  if n < 0 then (n + 18446744073709551616).toNat else n.toNat

def Number.asI32 : Number → Int
  | .nan => 0
  | .negativeInfinity => -i32Half
  | .infinity => i32Half - 1
  | .finite value => max (-i32Half) (min (i32Half - 1) (value.num.tdiv value.den))

def makeIndexAbsolute (index : Int) (length : Nat) : Nat :=
  if index < 0 then length - (-index).toNat else min index.toNat length

theorem makeIndexAbsolute_le (index : Int) (length : Nat) : makeIndexAbsolute index length ≤ length := by
  unfold makeIndexAbsolute; split <;> omega

theorem makeIndexAbsolute_eq (index : Int) (length : Nat) :
    (makeIndexAbsolute index length : Int) =
      if index < 0 then max (length - |index|) 0 else min index length := by
  unfold makeIndexAbsolute
  split
  · rw [abs_of_neg ‹_›]; omega
  · omega

/-- `make_index_absolute` with overflow checks, `isize` of `width` bits: `none` when `-offset` overflows. -/
def makeIndexAbsoluteChecked (width : Nat) (index : Int) (length : Nat) : Option Nat :=
  if index < 0 then
    let offset := index
    if -offset < (2 : Int) ^ (width - 1) then some (length - (-offset).toNat) else none
  else some (min index.toNat length)

theorem makeIndexAbsoluteChecked_of_fits {width : Nat} {index : Int} (fits : -index < (2 : Int) ^ (width - 1))
    (length : Nat) : makeIndexAbsoluteChecked width index length = some (makeIndexAbsolute index length) := by
  unfold makeIndexAbsoluteChecked makeIndexAbsolute
  split <;> simp [fits]

theorem makeIndexAbsoluteChecked_64 {index : Int} (low : -i32Half ≤ index) (length : Nat) :
    makeIndexAbsoluteChecked 64 index length = some (makeIndexAbsolute index length) :=
  makeIndexAbsoluteChecked_of_fits (by rw [show (2 : Int) ^ (64 - 1) = 9223372036854775808 from rfl]; unfold i32Half at low; omega)
    length

theorem makeIndexAbsoluteChecked_32_eq_none_iff {index : Int} (low : -i32Half ≤ index) (length : Nat) :
    makeIndexAbsoluteChecked 32 index length = none ↔ index = -i32Half := by
  have half : (2 : Int) ^ (32 - 1) = i32Half := rfl
  unfold makeIndexAbsoluteChecked
  dsimp only
  rw [half]
  split_ifs <;> simp only [reduceCtorEq, false_iff, true_iff] <;> omega

theorem negative_infinity_index_overflows_isize32 :
    Number.negativeInfinity.asI32 = -i32Half ∧
      ∀ length, makeIndexAbsoluteChecked 32 Number.negativeInfinity.asI32 length = none :=
  ⟨rfl, fun length => (makeIndexAbsoluteChecked_32_eq_none_iff le_rfl length).mpr rfl⟩

/-! The vector a run of writes leaves. -/

def storeElements (vector : List Value) (start : Nat) : List Value → List Value
  | [] => vector
  | value :: rest => storeElements (storeElement vector start value) (start + 1) rest

def moveWithin (vector : List Value) (indices : List Nat) (source : Nat → Nat) : List Value :=
  indices.foldl (fun vector i => storeElement vector i (vector.getD (source i) .undefined)) vector

def shiftOrder (descending : Prop) [Decidable descending] (low high : Nat) : List Nat :=
  if descending then (List.range' low (high - low)).reverse else List.range' low (high - low)

theorem getD_storeElements (vector : List Value) (start : Nat) (values : List Value) (j : Nat) :
    (storeElements vector start values).getD j .undefined =
      if start ≤ j ∧ j < start + values.length then values.getD (j - start) .undefined
      else vector.getD j .undefined := by
  induction values generalizing vector start with
  | nil => simp only [storeElements, List.length_nil]; split <;> first | omega | rfl
  | cons value rest ih =>
    rw [storeElements, ih, getD_storeElement]
    by_cases here : j = start
    · subst here; simp
    · by_cases later : start + 1 ≤ j ∧ j < start + 1 + rest.length
      · have shifted : j - start = (j - (start + 1)) + 1 := by omega
        simp only [later, and_self, ite_true, List.length_cons, shifted, List.getD_cons_succ]
        rw [if_pos (by omega)]
      · simp only [later, ite_false, here, List.length_cons]
        rw [if_neg (by omega)]

theorem getD_moveWithin (vector : List Value) {indices : List Nat} {source : Nat → Nat}
    (unread : indices.Pairwise fun i k => source k ≠ i) (j : Nat) :
    (moveWithin vector indices source).getD j .undefined =
      if j ∈ indices then vector.getD (source j) .undefined else vector.getD j .undefined := by
  induction indices generalizing vector with
  | nil => simp [moveWithin]
  | cons i rest ih =>
    obtain ⟨notWritten, unread⟩ := List.pairwise_cons.mp unread
    rw [moveWithin, List.foldl_cons, ← moveWithin, ih _ unread]
    by_cases later : j ∈ rest
    · simp only [later, ite_true, List.mem_cons, or_true, getD_storeElement,
        if_neg (notWritten j later)]
    · by_cases here : j = i
      · subst here
        simp only [later, ite_false, List.mem_cons, true_or, ite_true, getD_storeElement]
      · simp only [later, here, ite_false, List.mem_cons, false_or, getD_storeElement]

theorem list_eq_of_getD {l l' : List Value} (length : l.length = l'.length)
    (places : ∀ j < l.length, l.getD j .undefined = l'.getD j .undefined) : l = l' :=
  List.ext_getElem length fun j inside inside' => by
    simpa [List.getElem?_eq_getElem inside, List.getElem?_eq_getElem inside'] using places j inside

namespace ScriptObjectData

def setArrayElements (this : ScriptObjectData) (start : Nat) : List Value → ScriptObjectData
  | [] => this
  | value :: rest => setArrayElements (this.setArrayElement start value).1 (start + 1) rest

def moveElements (this : ScriptObjectData) (indices : List Nat) (source : Nat → Nat) :
    ScriptObjectData :=
  indices.foldl (fun this i => (this.setArrayElement i (this.arrayElement (source i))).1) this

def deleteElements (this : ScriptObjectData) (caseSensitive : Bool) (low high : Nat) :
    ScriptObjectData :=
  (List.range' low (high - low)).foldl
    (fun this i => (this.deleteArrayElement i).delete caseSensitive (toString i) |>.1) this

def push (this : ScriptObjectData) (args : List Value) : ScriptObjectData × Value :=
  let oldLength := this.length
  let newLength := oldLength + args.length
  ((this.setLength newLength).setArrayElements oldLength args, .ofNat newLength)

def unshift (this : ScriptObjectData) (args : List Value) : ScriptObjectData × Value :=
  let oldLength := this.length
  let newLength := oldLength + args.length
  let offset := args.length
  let this :=
    if oldLength > 0 then
      this.moveElements (List.range' offset (newLength - offset)).reverse fun i => i - offset
    else this
  ((this.setArrayElements 0 args).setLength newLength, .ofNat newLength)

def shift (this : ScriptObjectData) (caseSensitive : Bool) : ScriptObjectData × Value :=
  let oldLength := this.length
  if oldLength = 0 then (this, .undefined)
  else
    let newLength := oldLength - 1
    let removed := this.arrayElement 0
    let this := this.moveElements (List.range newLength) fun i => i + 1
    let this := ((this.deleteArrayElement newLength).delete caseSensitive (toString newLength)).1
    (this.setLength newLength, removed)

def pop (this : ScriptObjectData) (caseSensitive : Bool) : ScriptObjectData × Value :=
  let oldLength := this.length
  if oldLength = 0 then (this, .undefined)
  else
    let newLength := oldLength - 1
    let removed := this.arrayElement newLength
    let this := ((this.deleteArrayElement newLength).delete caseSensitive (toString newLength)).1
    (this.setLength newLength, removed)

def reverse (this : ScriptObjectData) : ScriptObjectData :=
  this.setArrayElements 0 this.arrayValues.reverse

/-- `set_array_element(i, values.pop().unwrap())` for each `i`; `none` is the panic of the `unwrap`. -/
def popElements (this : ScriptObjectData) : List Value → List Nat → Option ScriptObjectData
  | _, [] => some this
  | values, i :: rest =>
    match values.getLast? with
    | some value => (this.setArrayElement i value).1.popElements values.dropLast rest
    | none => none

def reverseLoop (this : ScriptObjectData) : Option ScriptObjectData :=
  this.popElements this.arrayValues (List.range this.length)

/-- The index argument at `position`: coerced to `f64`, cast to `i32` and made absolute. -/
def indexArgument (toNumber : Value → Option Number) (args : List Value) (position length : Nat) :
    Option Nat :=
  ((args.get? position).bind toNumber).map fun v => makeIndexAbsolute v.asI32 length

def slice (this : ScriptObjectData) (arrayProto : Option ObjectRef)
    (toNumber : Value → Option Number) (args : List Value) : ScriptObjectData :=
  let start := (indexArgument toNumber args 0 this.length).getD 0
  let stop := (indexArgument toNumber args 1 this.length).getD this.length
  let array := ScriptObject.array arrayProto
  if start < stop then
    let length := stop - start
    (array.setLength length).setArrayElements 0 ((List.range length).map fun i => this.arrayElement (start + i))
  else array

def removeCount (count : Int) (oldLength start : Nat) : Nat :=
  (max (min count (wrapI32 (wrapI32 oldLength - wrapI32 start))) 0).toNat

/-- The work of `splice` once its arguments are read: copy out, shift the tail, write, clear, set the length. -/
def spliceAt (this : ScriptObjectData) (caseSensitive : Bool) (arrayProto : Option ObjectRef)
    (start toRemove : Nat) (toAdd : List Value) : ScriptObjectData × ScriptObjectData :=
  let oldLength := this.length
  let offset := wrapI32 (wrapI32 toRemove - wrapI32 toAdd.length)
  let newLength := oldLength + toAdd.length - toRemove
  let removed := ((ScriptObject.array arrayProto).setArrayElements 0
    ((List.range' start toRemove).map this.arrayElement)).setLength toRemove
  let this := this.moveElements (shiftOrder (offset < 0) (start + toAdd.length) newLength)
    fun i => usizeOfI32 (wrapI32 (wrapI32 i + offset))
  let this := (this.setArrayElements start toAdd).deleteElements caseSensitive newLength oldLength
  (this.setLength newLength, removed)

/-- `splice`: `none` (answering `Undefined`) for no arguments or a negative count. -/
def splice (this : ScriptObjectData) (caseSensitive : Bool) (arrayProto : Option ObjectRef)
    (toNumber : Value → Option Number) (args : List Value) :
    ScriptObjectData × Option ScriptObjectData :=
  if args.isEmpty then (this, none)
  else
    let oldLength := this.length
    let start := (indexArgument toNumber args 0 oldLength).getD 0
    let count := (((args.get? 1).bind toNumber).map Number.asI32).getD (wrapI32 oldLength)
    if count < 0 then (this, none)
    else
      (this.spliceAt caseSensitive arrayProto start (removeCount count oldLength start) (args.drop 2)).map
        id some

def getOrUndefined (get : ObjectRef → String → Except Error Value) (object : ObjectRef) (index : Nat) :
    Value :=
  match get object (toString index) with
  | .ok value => value
  | .error _ => .undefined

/-- `concat`: a new array of the elements of `this`, then of each argument, arrays flattened one level. -/
def concat (arrayProto : Option ObjectRef) (lengthOf : ObjectRef → Nat) (getIndex : ObjectRef → Nat → Value)
    (isArray : ObjectRef → Bool) (this : ObjectRef) (args : List Value) : ScriptObjectData :=
  let elements (object : ObjectRef) := (List.range (lengthOf object)).map (getIndex object)
  let array := (ScriptObject.array arrayProto).setArrayElements 0 (elements this)
  (args.foldl (fun (state : ScriptObjectData × Nat) arg =>
    let added := match arg with
      | .object object => if isArray object then some (elements object) else none
      | _ => none
    let values := added.getD [arg]
    (state.1.setArrayElements state.2 values, state.2 + values.length))
    (array, (elements this).length)).1

end ScriptObjectData

/-! What the element helpers do to vector storage. -/

namespace ScriptObjectData

theorem deleteArrayElement_array {this : ScriptObjectData} {vector : List Value}
    (stored : this.array = .vector vector) (index : Nat) :
    (this.deleteArrayElement index).array = .vector (clearElement vector index) := by
  unfold deleteArrayElement clearElement
  simp only [stored]
  split <;> simp [stored]

theorem setArrayElements_array {this : ScriptObjectData} {vector : List Value}
    (stored : this.array = .vector vector) (start : Nat) (values : List Value) :
    (this.setArrayElements start values).array = .vector (storeElements vector start values) := by
  induction values generalizing this vector start with
  | nil => exact stored
  | cons value rest ih => exact ih (setArrayElement_array stored start value) (start + 1)

theorem moveElements_array {this : ScriptObjectData} {vector : List Value}
    (stored : this.array = .vector vector) (indices : List Nat) (source : Nat → Nat) :
    (this.moveElements indices source).array = .vector (moveWithin vector indices source) := by
  induction indices generalizing this vector with
  | nil => exact stored
  | cons i rest ih =>
    apply ih
    rw [setArrayElement_array stored, arrayElement_vector stored]

theorem deleteElements_array {this : ScriptObjectData} {vector : List Value}
    (stored : this.array = .vector vector) (caseSensitive : Bool) (low high : Nat) :
    (this.deleteElements caseSensitive low high).array =
      .vector ((List.range' low (high - low)).foldl clearElement vector) := by
  unfold deleteElements
  generalize List.range' low (high - low) = indices
  induction indices generalizing this vector with
  | nil => exact stored
  | cons i rest ih =>
    apply ih
    rw [delete_array, deleteArrayElement_array stored]

end ScriptObjectData

theorem getD_foldl_clearElement (vector : List Value) (indices : List Nat) (j : Nat) :
    (indices.foldl clearElement vector).getD j .undefined =
      if j ∈ indices then .undefined else vector.getD j .undefined := by
  induction indices generalizing vector with
  | nil => simp
  | cons i rest ih =>
    rw [List.foldl_cons, ih, getD_clearElement]
    by_cases here : j = i <;> by_cases later : j ∈ rest <;> simp [here, later]

/-! Every method keeps the mirror of an array it runs on, and the arrays it makes mirror theirs. -/

namespace ArrayMirror

open ScriptObjectData

theorem setArrayElements {this : ScriptObjectData} (mirror : ArrayMirror this) (start : Nat)
    (values : List Value) : ArrayMirror (this.setArrayElements start values) := by
  induction values generalizing this start with
  | nil => exact mirror
  | cons value rest ih => exact ih (mirror.setArrayElement start value) (start + 1)

theorem moveElements {this : ScriptObjectData} (mirror : ArrayMirror this) (indices : List Nat)
    (source : Nat → Nat) : ArrayMirror (this.moveElements indices source) := by
  induction indices generalizing this with
  | nil => exact mirror
  | cons i rest ih => exact ih (mirror.setArrayElement i _)

end ArrayMirror

theorem ArrayMirrorBelow.deleteElements {this : ScriptObjectData} {bound low : Nat}
    (mirror : ArrayMirrorBelow this bound) (past : bound ≤ low) (caseSensitive : Bool) (high : Nat) :
    ArrayMirrorBelow (this.deleteElements caseSensitive low high) bound := by
  unfold ScriptObjectData.deleteElements
  have above : ∀ i ∈ List.range' low (high - low), bound ≤ i := fun i member => by
    simp only [List.mem_range'_1] at member; omega
  generalize List.range' low (high - low) = indices at above
  induction indices generalizing this with
  | nil => exact mirror
  | cons i rest ih =>
    have here := above i (List.mem_cons_self _ _)
    exact ih ((mirror.deleteArrayElement here).deleteIndex here caseSensitive)
      fun k member => above k (List.mem_cons_of_mem _ member)

namespace ArrayMirror

open ScriptObjectData

variable {this : ScriptObjectData} (mirror : ArrayMirror this)
include mirror

theorem push (args : List Value) : ArrayMirror (this.push args).1 :=
  (mirror.setLength _).setArrayElements _ _

theorem unshift (args : List Value) : ArrayMirror (this.unshift args).1 := by
  unfold ScriptObjectData.unshift
  dsimp only
  split
  · exact ((mirror.moveElements _ _).setArrayElements _ _).setLength _
  · exact (mirror.setArrayElements _ _).setLength _

theorem dropLast (caseSensitive : Bool) (newLength : Nat) :
    ArrayMirror ((((this.deleteArrayElement newLength).delete caseSensitive (toString newLength)).1).setLength
      newLength) :=
  (((mirror.below newLength).deleteArrayElement le_rfl).deleteIndex le_rfl caseSensitive).setLength

theorem shift (caseSensitive : Bool) : ArrayMirror (this.shift caseSensitive).1 := by
  unfold ScriptObjectData.shift
  dsimp only
  split
  · exact mirror
  · exact (mirror.moveElements _ _).dropLast caseSensitive _

theorem pop (caseSensitive : Bool) : ArrayMirror (this.pop caseSensitive).1 := by
  unfold ScriptObjectData.pop
  dsimp only
  split
  · exact mirror
  · exact mirror.dropLast caseSensitive _

theorem reverse : ArrayMirror this.reverse :=
  mirror.setArrayElements _ _

theorem spliceAt (caseSensitive : Bool) (arrayProto : Option ObjectRef) (start toRemove : Nat)
    (toAdd : List Value) : ArrayMirror (this.spliceAt caseSensitive arrayProto start toRemove toAdd).1 :=
  ((((mirror.moveElements _ _).setArrayElements _ _).below _).deleteElements le_rfl _ _).setLength

theorem splice (caseSensitive : Bool) (arrayProto : Option ObjectRef)
    (toNumber : Value → Option Number) (args : List Value) :
    ArrayMirror (this.splice caseSensitive arrayProto toNumber args).1 := by
  unfold ScriptObjectData.splice
  split
  · exact mirror
  · dsimp only
    split
    · exact mirror
    · rw [Prod.map_fst, id_eq]
      exact mirror.spliceAt caseSensitive arrayProto _ _ _

end ArrayMirror

theorem ScriptObjectData.slice_mirror (this : ScriptObjectData) (arrayProto : Option ObjectRef)
    (toNumber : Value → Option Number) (args : List Value) :
    ArrayMirror (this.slice arrayProto toNumber args) := by
  unfold ScriptObjectData.slice
  dsimp only
  split
  · exact ((ScriptObject.array_mirror _).setLength _).setArrayElements _ _
  · exact ScriptObject.array_mirror _

theorem ScriptObjectData.spliceAt_removed_mirror (this : ScriptObjectData) (caseSensitive : Bool)
    (arrayProto : Option ObjectRef) (start toRemove : Nat) (toAdd : List Value) :
    ArrayMirror (this.spliceAt caseSensitive arrayProto start toRemove toAdd).2 :=
  ((ScriptObject.array_mirror _).setArrayElements _ _).setLength _

theorem ScriptObjectData.splice_removed_mirror (this : ScriptObjectData) (caseSensitive : Bool)
    (arrayProto : Option ObjectRef) (toNumber : Value → Option Number) (args : List Value)
    {removed : ScriptObjectData} (answered : (this.splice caseSensitive arrayProto toNumber args).2 = some removed) :
    ArrayMirror removed := by
  unfold ScriptObjectData.splice at answered
  split at answered
  · cases answered
  · dsimp only at answered
    split at answered
    · cases answered
    · rw [Prod.map_snd, Option.some_inj] at answered
      subst answered
      exact this.spliceAt_removed_mirror caseSensitive arrayProto _ _ _

theorem foldl_mirror {α : Type} {f : ScriptObjectData × Nat → α → ScriptObjectData × Nat}
    (step : ∀ state arg, ArrayMirror state.1 → ArrayMirror (f state arg).1) (args : List α)
    (state : ScriptObjectData × Nat) (mirror : ArrayMirror state.1) : ArrayMirror (args.foldl f state).1 := by
  induction args generalizing state with
  | nil => exact mirror
  | cons arg rest ih => exact ih _ (step state arg mirror)

theorem ScriptObjectData.concat_mirror (arrayProto : Option ObjectRef) (lengthOf : ObjectRef → Nat)
    (getIndex : ObjectRef → Nat → Value) (isArray : ObjectRef → Bool) (this : ObjectRef)
    (args : List Value) : ArrayMirror (concat arrayProto lengthOf getIndex isArray this args) :=
  foldl_mirror (fun _ _ mirror => mirror.setArrayElements _ _) args _
    ((ScriptObject.array_mirror arrayProto).setArrayElements _ _)

/-! `splice` inside the `i32` range: what it leaves and what it answers. -/

theorem wrapI32_of_small {n : Int} (low : -i32Half ≤ n) (high : n < i32Half) : wrapI32 n = n := by
  unfold wrapI32 i32Half at *; omega

theorem usizeOfI32_of_nonneg {n : Int} (nonneg : 0 ≤ n) : usizeOfI32 n = n.toNat := by
  simp [usizeOfI32, not_lt.mpr nonneg]

theorem splice_source {toRemove added i : Nat} (index : i < i32Half) (removing : toRemove < i32Half)
    (adding : added < i32Half) (fits : i + toRemove - added < i32Half) (above : added ≤ i) :
    usizeOfI32 (wrapI32 (wrapI32 i + wrapI32 (wrapI32 toRemove - wrapI32 added))) = i + toRemove - added := by
  rw [wrapI32_of_small (n := toRemove) (by omega) (by omega), wrapI32_of_small (n := added) (by omega) (by omega),
    wrapI32_of_small (n := i) (by omega) (by omega),
    wrapI32_of_small (n := (toRemove : Int) - added) (by omega) (by omega),
    wrapI32_of_small (by omega) (by omega), usizeOfI32_of_nonneg (by omega)]
  omega

theorem moveWithin_congr (vector : List Value) {indices : List Nat} {source source' : Nat → Nat}
    (agree : ∀ i ∈ indices, source i = source' i) :
    moveWithin vector indices source = moveWithin vector indices source' := by
  induction indices generalizing vector with
  | nil => rfl
  | cons i rest ih =>
    simp only [moveWithin, List.foldl_cons]
    rw [agree i (List.mem_cons_self _ _)]
    exact ih _ fun k member => agree k (List.mem_cons_of_mem _ member)

theorem mem_shiftOrder (descending : Prop) [Decidable descending] (low high i : Nat) :
    i ∈ shiftOrder descending low high ↔ low ≤ i ∧ i < high := by
  unfold shiftOrder; split <;> simp only [List.mem_reverse, List.mem_range'_1] <;> omega

theorem shiftOrder_unread {descending : Prop} [Decidable descending] {toRemove added : Nat}
    (direction : descending ↔ toRemove < added) (low high : Nat) (above : added ≤ low) :
    (shiftOrder descending low high).Pairwise fun i k => k + toRemove - added ≠ i := by
  have increasing := List.pairwise_lt_range' low (high - low)
  unfold shiftOrder
  split
  · refine List.pairwise_reverse.mpr (increasing.imp_of_mem fun member _ before => ?_)
    have := (List.mem_range'_1.mp member).1
    have := direction.mp ‹_›
    omega
  · have := mt direction.mpr ‹_›
    exact increasing.imp_of_mem fun _ _ before => by omega

theorem getD_splice (a xs : List Value) (start toRemove j : Nat) (inside : start + toRemove ≤ a.length) :
    (a.take start ++ xs ++ a.drop (start + toRemove)).getD j .undefined =
      if j < start then a.getD j .undefined
      else if j < start + xs.length then xs.getD (j - start) .undefined
      else a.getD (j - xs.length + toRemove) .undefined := by
  simp only [List.getD_eq_getElem?_getD, List.getElem?_append, List.getElem?_take, List.getElem?_drop,
    List.length_append, List.length_take]
  split_ifs <;> first | rfl | omega | (congr 2; omega)

namespace ScriptObjectData

variable {this : ScriptObjectData} {elements : List Value} (stored : this.array = .vector elements)
  (caseSensitive : Bool) (arrayProto : Option ObjectRef) {start toRemove : Nat} (toAdd : List Value)
  (inside : start + toRemove ≤ elements.length)
include stored inside

theorem spliceAt_array (small : elements.length + toAdd.length < i32Half) :
    (this.spliceAt caseSensitive arrayProto start toRemove toAdd).1.array =
      .vector (elements.take start ++ toAdd ++ elements.drop (start + toRemove)) := by
  have half : (0 : Int) < i32Half := by decide
  have direction : wrapI32 (wrapI32 toRemove - wrapI32 toAdd.length) < 0 ↔ toRemove < toAdd.length := by
    rw [wrapI32_of_small (n := toRemove) (by omega) (by omega),
      wrapI32_of_small (n := toAdd.length) (by omega) (by omega), wrapI32_of_small (by omega) (by omega)]
    omega
  have agree : ∀ i ∈ shiftOrder (wrapI32 (wrapI32 toRemove - wrapI32 toAdd.length) < 0)
      (start + toAdd.length) (elements.length + toAdd.length - toRemove),
      usizeOfI32 (wrapI32 (wrapI32 i + wrapI32 (wrapI32 toRemove - wrapI32 toAdd.length))) =
        i + toRemove - toAdd.length := fun i member => by
    have range := (mem_shiftOrder _ _ _ _).mp member
    exact splice_source (by omega) (by omega) (by omega) (by omega) (by omega)
  unfold spliceAt
  simp only [length_vector stored]
  rw [setLength_array (deleteElements_array (setArrayElements_array (moveElements_array stored _ _) _ _) _ _ _),
    moveWithin_congr _ agree]
  congr 1
  apply list_eq_of_getD (by simp; omega)
  intro j below
  simp only [length_resize] at below
  rw [getD_resize, if_pos below, getD_foldl_clearElement, if_neg (by simp [List.mem_range'_1]; omega),
    getD_storeElements, getD_moveWithin _ (shiftOrder_unread direction _ _ (by omega)),
    getD_splice _ _ _ _ _ inside]
  simp only [mem_shiftOrder]
  split_ifs <;> first | rfl | omega | (congr 1; omega)

theorem spliceAt_removed_array :
    (this.spliceAt caseSensitive arrayProto start toRemove toAdd).2.array =
      .vector ((elements.drop start).take toRemove) := by
  have empty : (ScriptObject.array arrayProto).array = .vector [] := rfl
  unfold spliceAt
  rw [setLength_array (setArrayElements_array empty _ _)]
  congr 1
  apply list_eq_of_getD (by simp; omega)
  intro j below
  simp only [length_resize] at below
  rw [getD_resize, if_pos below, getD_storeElements]
  simp [List.getD_eq_getElem?_getD, List.getElem?_take, List.getElem?_drop, below, arrayElement_vector stored]

end ScriptObjectData

namespace ScriptObjectData

theorem removeCount_of_small (count : Int) {length start : Nat} (small : length < i32Half)
    (inside : start ≤ length) :
    removeCount count length start = (max (min count (length - start)) 0).toNat := by
  have half : (0 : Int) < i32Half := by decide
  unfold removeCount
  rw [wrapI32_of_small (n := length) (by omega) small, wrapI32_of_small (n := start) (by omega) (by omega),
    wrapI32_of_small (by omega) (by omega)]

theorem indexArgument_getD_le (toNumber : Value → Option Number) (args : List Value) (position : Nat)
    {length default : Nat} (fallback : default ≤ length) :
    (indexArgument toNumber args position length).getD default ≤ length := by
  unfold indexArgument
  cases (args.get? position).bind toNumber <;> simp [makeIndexAbsolute_le, fallback]

theorem splice_cons (this : ScriptObjectData) (caseSensitive : Bool) (arrayProto : Option ObjectRef)
    (toNumber : Value → Option Number) (first : Value) (rest : List Value) :
    this.splice caseSensitive arrayProto toNumber (first :: rest) =
      let count := (((first :: rest).get? 1).bind toNumber |>.map Number.asI32).getD (wrapI32 this.length)
      let start := (indexArgument toNumber (first :: rest) 0 this.length).getD 0
      if count < 0 then (this, none)
      else (this.spliceAt caseSensitive arrayProto start (removeCount count this.length start) (rest.drop 1)).map
        id some := by
  simp only [ScriptObjectData.splice, List.isEmpty_cons, Bool.false_eq_true, if_false, List.drop_succ_cons]

end ScriptObjectData

theorem ArrayMirror.storedValue_past {this : ScriptObjectData} (mirror : ArrayMirror this) {i : Nat}
    (past : this.length ≤ i) : this.values.storedValue (toString i) = none := by
  unfold ArrayMirror at mirror
  unfold ScriptObjectData.length at past
  split at mirror
  next elements vector =>
    simp only [vector] at past
    cases stored : this.values.storedValue (toString i) with
    | none => rfl
    | some value => exact absurd (mirror.indexSlot i value stored).1 (by omega)
  next => exact mirror.elim

def letterArray : ScriptObjectData :=
  ((ScriptObject.array none).push [.string "a", .string "b", .string "c", .string "d"]).1

def numberArgument : Value → Option Number
  | .number n => some n
  | _ => none

def staleSlotArray : ScriptObjectData :=
  (ScriptObject.array none).defineValue "3" (.bool true) .empty

end Avm1
