import RuffleAvm1.Globals.ArraySort

/-! The array objects scripts can build, and the element mirror over every one of them: each state
from `ScriptObject::array` through any sequence of storage operations, `Array` methods and writes
to ordinary names, and each array the methods create. -/

namespace Avm1

open ScriptObjectData

/-- The array objects scripts build, step by step, from a new array. -/
inductive Reachable : ScriptObjectData → Prop where
  | array (proto : Option ObjectRef) : Reachable (ScriptObject.array proto)
  | setLength {this : ScriptObjectData} (reach : Reachable this) (newLength : Nat) :
      Reachable (this.setLength newLength)
  | setArrayElement {this : ScriptObjectData} (reach : Reachable this) (index : Nat) (value : Value) :
      Reachable (this.setArrayElement index value).1
  | push {this : ScriptObjectData} (reach : Reachable this) (args : List Value) : Reachable (this.push args).1
  | pop {this : ScriptObjectData} (reach : Reachable this) (caseSensitive : Bool) :
      Reachable (this.pop caseSensitive).1
  | shift {this : ScriptObjectData} (reach : Reachable this) (caseSensitive : Bool) :
      Reachable (this.shift caseSensitive).1
  | unshift {this : ScriptObjectData} (reach : Reachable this) (args : List Value) :
      Reachable (this.unshift args).1
  | splice {this : ScriptObjectData} (reach : Reachable this) (caseSensitive : Bool)
      (arrayProto : Option ObjectRef) (toNumber : Value → Option Number) (args : List Value) :
      Reachable (this.splice caseSensitive arrayProto toNumber args).1
  | reverse {this : ScriptObjectData} (reach : Reachable this) : Reachable this.reverse
  | sort {this sorted : ScriptObjectData} (reach : Reachable this) {strategy : SortStrategy}
      {arrayProto : Option ObjectRef} {coerce : Value → Except Error String}
      {call : Value → Value → Value → Except Error Value} {args : List Value} {returned : Returned}
      (found : this.sort strategy arrayProto coerce call args = some (sorted, returned)) : Reachable sorted
  | sortOn {this sorted : ScriptObjectData} (reach : Reachable this) {strategy : SortStrategy}
      {arrayProto : Option ObjectRef} {heap : Heap} {coerce : Value → Except Error String}
      {toI32 : Value → Except Error Int} {get : Value → String → Except Error Value} {args : List Value}
      {returned : Returned}
      (found : this.sortOn strategy arrayProto heap coerce toI32 get args = .ok (some (sorted, returned))) :
      Reachable sorted
  | upsertValue {this : ScriptObjectData} (reach : Reachable this) {name : String} (ordinary : OrdinaryName name)
      (caseSensitive : Bool) (value : Value) : Reachable (this.upsertValue caseSensitive name value).1
  | defineValue {this : ScriptObjectData} (reach : Reachable this) {name : String} (ordinary : OrdinaryName name)
      (value : Value) (attributes : Attribute) : Reachable (this.defineValue name value attributes)
  | addProperty {this : ScriptObjectData} (reach : Reachable this) {name : String} (ordinary : OrdinaryName name)
      (get : ObjectRef) (set : Option ObjectRef) (attributes : Attribute) :
      Reachable (this.addProperty name get set attributes)
  | addPropertyWithCase {this : ScriptObjectData} (reach : Reachable this) {name : String}
      (ordinary : OrdinaryName name) (caseSensitive : Bool) (get : ObjectRef) (set : Option ObjectRef)
      (attributes : Attribute) : Reachable (this.addPropertyWithCase caseSensitive name get set attributes)
  | delete {this : ScriptObjectData} (reach : Reachable this) {name : String} (ordinary : OrdinaryName name)
      (caseSensitive : Bool) : Reachable (this.delete caseSensitive name).1
  | setAttributes {this : ScriptObjectData} (reach : Reachable this) (name : Option String) (set clear : Attribute) :
      Reachable (this.setAttributes name set clear)
  | setWatcher {this : ScriptObjectData} (reach : Reachable this) (caseSensitive : Bool) (name : String)
      (callback : ObjectRef) (userData : Value) :
      Reachable (this.setWatcher caseSensitive name callback userData)
  | removeWatcher {this : ScriptObjectData} (reach : Reachable this) (caseSensitive : Bool) (name : String) :
      Reachable (this.removeWatcher caseSensitive name).1
  | setProto {this : ScriptObjectData} (reach : Reachable this) (prototype : Value) :
      Reachable (this.setProto prototype)
  | slice (this : ScriptObjectData) (arrayProto : Option ObjectRef) (toNumber : Value → Option Number)
      (args : List Value) : Reachable (this.slice arrayProto toNumber args)
  | concat (arrayProto : Option ObjectRef) (lengthOf : ObjectRef → Nat) (getIndex : ObjectRef → Nat → Value)
      (isArray : ObjectRef → Bool) (this : ObjectRef) (args : List Value) :
      Reachable (concat arrayProto lengthOf getIndex isArray this args)
  | spliceRemoved {this removed : ScriptObjectData} {caseSensitive : Bool} {arrayProto : Option ObjectRef}
      {toNumber : Value → Option Number} {args : List Value}
      (answered : (this.splice caseSensitive arrayProto toNumber args).2 = some removed) : Reachable removed
  | sortIndexed {this sorted indexed : ScriptObjectData} (reach : Reachable this) {strategy : SortStrategy}
      {arrayProto : Option ObjectRef} {coerce : Value → Except Error String}
      {call : Value → Value → Value → Except Error Value} {args : List Value}
      (found : this.sort strategy arrayProto coerce call args = some (sorted, .array indexed)) : Reachable indexed
  | sortOnIndexed {this sorted indexed : ScriptObjectData} (reach : Reachable this) {strategy : SortStrategy}
      {arrayProto : Option ObjectRef} {heap : Heap} {coerce : Value → Except Error String}
      {toI32 : Value → Except Error Int} {get : Value → String → Except Error Value} {args : List Value}
      (found : this.sortOn strategy arrayProto heap coerce toI32 get args = .ok (some (sorted, .array indexed))) :
      Reachable indexed

theorem Reachable.mirror {this : ScriptObjectData} (reach : Reachable this) : ArrayMirror this := by
  induction reach with
  | array proto => exact ScriptObject.array_mirror proto
  | setLength _ newLength ih => exact ih.setLength newLength
  | setArrayElement _ index value ih => exact ih.setArrayElement index value
  | push _ args ih => exact ih.push args
  | pop _ caseSensitive ih => exact ih.pop caseSensitive
  | shift _ caseSensitive ih => exact ih.shift caseSensitive
  | unshift _ args ih => exact ih.unshift args
  | splice _ caseSensitive arrayProto toNumber args ih => exact ih.splice caseSensitive arrayProto toNumber args
  | reverse _ ih => exact ih.reverse
  | sort _ found ih => exact (ih.sort found).1
  | sortOn _ found ih => exact (ih.sortOn found).1
  | upsertValue _ ordinary caseSensitive value ih => exact ih.upsertValue ordinary caseSensitive value
  | defineValue _ ordinary value attributes ih => exact ih.defineValue ordinary value attributes
  | addProperty _ ordinary get set attributes ih => exact ih.addProperty ordinary get set attributes
  | addPropertyWithCase _ ordinary caseSensitive get set attributes ih =>
    exact ih.addPropertyWithCase ordinary caseSensitive get set attributes
  | delete _ ordinary caseSensitive ih => exact ih.delete ordinary caseSensitive
  | setAttributes _ name set clear ih => exact ih.setAttributes name set clear
  | setWatcher _ caseSensitive name callback userData ih => exact ih.setWatcher caseSensitive name callback userData
  | removeWatcher _ caseSensitive name ih => exact ih.removeWatcher caseSensitive name
  | setProto _ prototype ih => exact ih.setProto prototype
  | slice this arrayProto toNumber args => exact this.slice_mirror arrayProto toNumber args
  | concat arrayProto lengthOf getIndex isArray this args =>
    exact concat_mirror arrayProto lengthOf getIndex isArray this args
  | spliceRemoved answered => exact splice_removed_mirror _ _ _ _ _ answered
  | sortIndexed _ found ih => exact (ih.sort found).2 _ rfl
  | sortOnIndexed _ found ih => exact (ih.sortOn found).2 _ rfl

/-- Every array a script can build keeps its vector and its property map in step. -/
theorem reachable_arrays_mirror_their_vector {this : ScriptObjectData} (reach : Reachable this) :
    ∃ elements, this.array = .vector elements ∧
      this.values.storedValue "length" = some (.ofNat elements.length) ∧
      (∀ (i : Nat) value, this.values.storedValue (toString i) = some value →
        i < elements.length ∧ elements.getD i .undefined = value) ∧
      (∀ i < elements.length, elements.getD i .undefined ≠ .undefined →
        this.values.storedValue (toString i) = some (elements.getD i .undefined)) := by
  have mirror := reach.mirror
  unfold ArrayMirror at mirror
  split at mirror
  · next elements stored => exact ⟨elements, stored, mirror.lengthSlot, mirror.indexSlot, mirror.elementSlot⟩
  · exact mirror.elim

theorem pushed_array_mirrors_its_vector :
    ∃ elements, ((ScriptObject.array none).push [.bool true]).1.array = .vector elements ∧
      ((ScriptObject.array none).push [.bool true]).1.values.storedValue "length" =
        some (.ofNat elements.length) := by
  obtain ⟨elements, stored, length, _⟩ :=
    reachable_arrays_mirror_their_vector ((Reachable.array none).push [.bool true])
  exact ⟨elements, stored, length⟩

end Avm1
