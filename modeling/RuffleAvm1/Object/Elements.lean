import RuffleAvm1.Object.ArrayMirror

/-! The element operations of script_object.rs on both kinds of storage: what `array_element`
reads after `set_array_element` and after `set_length`. On vector storage they act on the vector;
on property storage (an object that is not array-natured, used as an array) the elements are the
stored index slots below a counter, which `set_length` moves without touching a slot. -/

namespace Avm1

theorem PropertyMap.get_of_alone {V : Type} {map : PropertyMap V} {name : String}
    (alone : ∀ key ∈ map.keys, namesMatch false key name = true → key = name) :
    map.get name false = map.slot name := by
  unfold get
  cases found : map.find? name false with
  | none =>
    cases slot : map.slot name with
    | none => rfl
    | some value =>
      have := find?_eq_none.mp found _ (slot_eq_some.mp slot)
      simp [namesMatch_self] at this
  | some entry =>
    obtain ⟨slot, answers⟩ := find?_slot found
    have same := alone entry.1 (slot_isSome.mp (by simp [slot])) answers
    simp [← same, slot]

namespace ScriptObjectData

/-! What the element helpers do to vector storage. -/

section Vector

variable {this : ScriptObjectData} {vector : List Value} (stored : this.array = .vector vector)
include stored

theorem arrayElement_vector (index : Nat) : this.arrayElement index = vector.getD index .undefined := by
  simp [arrayElement, stored]

theorem length_vector : this.length = vector.length := by
  simp [length, stored]

theorem arrayValues_vector : this.arrayValues = vector := by
  simp [arrayValues, stored]

theorem setArrayElement_array (index : Nat) (value : Value) :
    (this.setArrayElement index value).1.array = .vector (storeElement vector index value) := by
  simp [setArrayElement_vector this stored]

theorem setLength_array (newLength : Nat) :
    (this.setLength newLength).array = .vector (resize vector newLength) := by
  simp [setLength_vector this stored]

end Vector

variable (this : ScriptObjectData)

theorem slot_syncNativeProperty_away {name key : String} (nativeValue : Option Value)
    (isEnumerable : Bool) (away : namesMatch false key name = false) :
    (this.syncNativeProperty name nativeValue isEnumerable).values.slot key = this.values.slot key := by
  have other : ∀ {found property}, this.values.find? name false = some (found, property) → key ≠ found :=
    fun found same => by subst same; simp [(PropertyMap.find?_slot found).2] at away
  unfold syncNativeProperty
  split
  next h => cases nativeValue <;> simp [other h]
  next => rfl
  next =>
    have : key ≠ name := fun same => by simp [same, namesMatch_self] at away
    cases nativeValue <;> simp [this]

theorem namesMatch_toString_length (i : Nat) : namesMatch false (toString i) "length" = false := by
  simpa [namesMatch] using foldCase_toString_ne_length i

theorem arrayElement_properties {length : Nat} (stored : this.array = .properties length) (index : Nat) :
    this.arrayElement index =
      if index < length then (this.values.storedValue (toString index)).getD .undefined else .undefined := by
  unfold arrayElement
  rw [stored]
  dsimp only
  split
  · rw [PropertyMap.get_of_alone (this.alone_toString index), PropertyMap.storedValue]
    rcases this.values.slot (toString index) with _ | ⟨_, _⟩ | ⟨_, _, _⟩ <;> rfl
  · rfl

theorem setLength_properties {length : Nat} (stored : this.array = .properties length) (newLength : Nat) :
    (this.setLength newLength).array = .properties newLength ∧
      ∀ i : Nat, (this.setLength newLength).values.storedValue (toString i) =
        this.values.storedValue (toString i) := by
  have unfolded : this.setLength newLength =
      ({ this with array := .properties newLength } : ScriptObjectData).syncNativeProperty "length"
        (some (.ofNat newLength)) false := by
    simp [setLength, stored]
  rw [unfolded]
  refine ⟨by simp, fun i => ?_⟩
  rw [PropertyMap.storedValue, PropertyMap.storedValue,
    slot_syncNativeProperty_away _ _ _ (namesMatch_toString_length i)]

theorem arrayElement_setLength (newLength j : Nat) :
    (this.setLength newLength).arrayElement j =
      if j < newLength then
        match this.array with
        | .vector vector => vector.getD j .undefined
        | .properties _ => (this.values.storedValue (toString j)).getD .undefined
      else .undefined := by
  cases stored : this.array with
  | vector vector =>
    rw [arrayElement_vector (setLength_array stored newLength), getD_resize]
  | properties length =>
    obtain ⟨moved, kept⟩ := setLength_properties this stored newLength
    rw [arrayElement_properties _ moved, kept]

end ScriptObjectData

/-- `set_length` twice: vector storage forgets cut elements, property storage shows them again. -/
theorem set_length_twice_reveals_hidden_property_elements (this : ScriptObjectData)
    (first second j : Nat) :
    ((this.setLength first).setLength second).arrayElement j =
      if j < second then
        match this.array with
        | .vector vector => if j < first then vector.getD j .undefined else .undefined
        | .properties _ => (this.values.storedValue (toString j)).getD .undefined
      else .undefined := by
  rw [ScriptObjectData.arrayElement_setLength]
  cases stored : this.array with
  | vector vector =>
    rw [ScriptObjectData.setLength_array stored first]
    simp only [getD_resize]
  | properties length =>
    obtain ⟨moved, kept⟩ := ScriptObjectData.setLength_properties this stored first
    rw [moved, kept]

namespace ScriptObjectData

variable (this : ScriptObjectData)

theorem setArrayElement_properties {length : Nat} (stored : this.array = .properties length)
    (index : Nat) (value : Value) :
    this.setArrayElement index value = (this.syncNativeProperty (toString index) (some value) true, length) := by
  simp [setArrayElement, stored]

end ScriptObjectData

/-- `set_array_element(index, value)` changes the element at `index` alone, on either storage. -/
theorem set_array_element_writes_one_element (this : ScriptObjectData) (index : Nat) (value : Value) :
    (this.setArrayElement index value).2 = (this.setArrayElement index value).1.length ∧
      (this.setArrayElement index value).1.length =
        (match this.array with
          | .vector vector => max vector.length (index + 1)
          | .properties length => length) ∧
      ∀ j, (this.setArrayElement index value).1.arrayElement j =
        if j = index then
          match this.array with
          | .vector _ => value
          | .properties length =>
            if index < length ∧ this.values.hasVirtual (toString index) = false then value else .undefined
        else this.arrayElement j := by
  cases stored : this.array with
  | vector vector =>
    have written : (this.setArrayElement index value).1.array = .vector (storeElement vector index value) := by
      simp [this.setArrayElement_vector stored]
    refine ⟨by simp [this.setArrayElement_vector stored, ScriptObjectData.length],
      by simp [ScriptObjectData.length, written], fun j => ?_⟩
    rw [ScriptObjectData.arrayElement_vector written, getD_storeElement,
      ScriptObjectData.arrayElement_vector stored]
  | properties length =>
    rw [this.setArrayElement_properties stored]
    have kept : (this.syncNativeProperty (toString index) (some value) true).array = .properties length := by
      simp [stored]
    refine ⟨by simp [ScriptObjectData.length, stored], by simp [ScriptObjectData.length, stored], fun j => ?_⟩
    rw [ScriptObjectData.arrayElement_properties _ kept, ScriptObjectData.arrayElement_properties _ stored,
      ScriptObjectData.storedValue_syncNativeProperty (this.alone_toString index)]
    by_cases same : j = index
    · subst same
      by_cases below : j < length <;> by_cases virtual : slotVirtual (this.values.slot (toString j)) <;>
        simp [below, virtual, PropertyMap.hasVirtual]
    · have named : toString j ≠ toString index := fun equal => same (toString_injective equal)
      simp [same, named]

end Avm1
