import RuffleAvm1.Core.Value
import RuffleAvm1.Core.PropertyMap

/-! `ScriptObject` (script_object.rs): one object's data and the operations that read and write
only that object. The operations that run script code or walk the prototype chain are in the
modules above this one. -/

namespace Avm1

inductive ArrayStorage where
  | vector (elements : List Value)
  | properties (length : Nat)
  deriving DecidableEq, Repr

/-- The data behind a `ScriptObject` handle, but for `interfaces` and `type_of`, which nothing here reads. -/
structure ScriptObjectData where
  prototype : Value
  values : PropertyMap Property
  array : ArrayStorage
  watchers : PropertyMap Watcher

def resize (elements : List Value) (newLength : Nat) : List Value :=
  elements.take newLength ++ List.replicate (newLength - elements.length) .undefined

@[simp] theorem length_resize (elements : List Value) (newLength : Nat) :
    (resize elements newLength).length = newLength := by
  simp only [resize, List.length_append, List.length_take, List.length_replicate]
  omega

theorem getD_of_length_le {elements : List Value} {index : Nat} (past : elements.length ≤ index) :
    elements.getD index .undefined = .undefined := by
  simp [List.getD_eq_getElem?_getD, List.getElem?_eq_none past]

theorem getD_resize (elements : List Value) (newLength index : Nat) :
    (resize elements newLength).getD index .undefined =
      if index < newLength then elements.getD index .undefined else .undefined := by
  by_cases kept : index < newLength
  · by_cases inside : index < elements.length
    · simp only [resize, List.getD_eq_getElem?_getD, kept, ite_true]
      rw [List.getElem?_append_left (by simp; omega), List.getElem?_take]
      simp [kept]
    · rw [if_pos kept, getD_of_length_le (show elements.length ≤ index by omega)]
      simp only [resize, List.getD_eq_getElem?_getD]
      rw [List.getElem?_append_right (by simp; omega), List.getElem?_replicate]
      split <;> rfl
  · rw [if_neg kept, getD_of_length_le (by simp only [length_resize]; omega)]

theorem getD_set (elements : List Value) (index other : Nat) (value : Value) :
    (elements.set index value).getD other .undefined =
      if other = index ∧ index < elements.length then value else elements.getD other .undefined := by
  simp only [List.getD_eq_getElem?_getD, List.getElem?_set]
  by_cases same : other = index
  · subst same
    by_cases inside : other < elements.length
    · simp [inside]
    · simp [inside, List.getElem?_eq_none (Nat.le_of_not_lt inside)]
  · simp [same, Ne.symm same]

def storeElement (vector : List Value) (index : Nat) (value : Value) : List Value :=
  (if index ≥ vector.length then resize vector (index + 1) else vector).set index value

@[simp] theorem length_storeElement (vector : List Value) (index : Nat) (value : Value) :
    (storeElement vector index value).length = max vector.length (index + 1) := by
  unfold storeElement; split <;> simp <;> omega

theorem getD_storeElement (vector : List Value) (index other : Nat) (value : Value) :
    (storeElement vector index value).getD other .undefined =
      if other = index then value else vector.getD other .undefined := by
  unfold storeElement
  split
  · rw [getD_set, getD_resize]
    by_cases same : other = index
    · simp [same]
    · simp only [same, false_and, ite_false]
      split
      · rfl
      · exact (getD_of_length_le (by omega)).symm
  · rw [getD_set]
    by_cases same : other = index
    · simp [same]; omega
    · simp [same]

def clearElement (vector : List Value) (index : Nat) : List Value :=
  if index < vector.length then vector.set index .undefined else vector

theorem getD_clearElement (vector : List Value) (index j : Nat) :
    (clearElement vector index).getD j .undefined =
      if j = index then .undefined else vector.getD j .undefined := by
  unfold clearElement
  split
  · rw [getD_set]
    by_cases same : j = index <;> simp_all
  · split
    · subst j; exact getD_of_length_le (by omega)
    · rfl

namespace ScriptObject

def protoValue (proto : Option ObjectRef) : Value :=
  match proto with
  | some proto => .object proto
  | none => .undefined

def object (proto : Option ObjectRef) : ScriptObjectData :=
  ⟨protoValue proto, .empty, .properties 0, .empty⟩

def objectCell (proto : Option ObjectRef) : ScriptObjectData :=
  object proto

def bareObject : ScriptObjectData :=
  ⟨.undefined, .empty, .properties 0, .empty⟩

end ScriptObject

namespace ScriptObjectData

/-- `sync_native_property`: a stored slot the probe finds takes the value, or goes for `None`. -/
def syncNativeProperty (this : ScriptObjectData) (name : String) (nativeValue : Option Value)
    (isEnumerable : Bool) : ScriptObjectData :=
  match h : this.values.find? name false with
  | some (key, .stored _ attributes) =>
    match nativeValue with
    | none => { this with values := this.values.erase key }
    | some value => { this with values := this.values.modify key fun _ => .stored value attributes }
  | some (_, .virtual ..) => this
  | none =>
    match nativeValue with
    | some value =>
      { this with
        values := this.values.append name
          (.stored value (if isEnumerable then .empty else .hidden))
          (PropertyMap.not_mem_keys_of_find?_eq_none h) }
    | none => this

def length (this : ScriptObjectData) : Nat :=
  match this.array with
  | .vector vector => vector.length
  | .properties length => length

/-- `set_length`: resize the vector or move the counter, then resync `"length"`. -/
def setLength (this : ScriptObjectData) (newLength : Nat) : ScriptObjectData :=
  let (this, toRemove) : ScriptObjectData × Option (Nat × Nat) :=
    match this.array with
    | .vector vector =>
      ({ this with array := .vector (resize vector newLength) },
        if newLength < vector.length then some (newLength, vector.length) else none)
    | .properties _ => ({ this with array := .properties newLength }, none)
  let this :=
    match toRemove with
    | some (low, high) =>
      (List.range' low (high - low)).foldl
        (fun (this : ScriptObjectData) i => this.syncNativeProperty (toString i) none true) this
    | none => this
  this.syncNativeProperty "length" (some (.ofNat newLength)) false

def arrayElement (this : ScriptObjectData) (index : Nat) : Value :=
  match this.array with
  | .vector vector => vector.getD index .undefined
  | .properties length =>
    if index < length then
      match this.values.get (toString index) false with
      | some (.stored value _) => value
      | _ => .undefined
    else .undefined

def arrayValues (this : ScriptObjectData) : List Value :=
  match this.array with
  | .vector vector => vector
  | .properties length => (List.range length).map this.arrayElement

def setArrayElement (this : ScriptObjectData) (index : Nat) (value : Value) :
    ScriptObjectData × Nat :=
  let this := this.syncNativeProperty (toString index) (some value) true
  match this.array with
  | .vector vector =>
    let vector := storeElement vector index value
    ({ this with array := .vector vector }.syncNativeProperty "length"
      (some (.ofNat vector.length)) false, vector.length)
  | .properties length => (this, length)

def deleteArrayElement (this : ScriptObjectData) (index : Nat) : ScriptObjectData :=
  match this.array with
  | .vector vector =>
    if index < vector.length then { this with array := .vector (vector.set index .undefined) }
    else this
  | .properties _ => this

def delete (this : ScriptObjectData) (caseSensitive : Bool) (name : String) :
    ScriptObjectData × Bool :=
  match this.values.get name caseSensitive with
  | some property =>
    if property.canDelete then ({ this with values := (this.values.remove name caseSensitive).1 }, true)
    else (this, false)
  | none => (this, false)

def addProperty (this : ScriptObjectData) (name : String) (get : ObjectRef)
    (set : Option ObjectRef) (attributes : Attribute) : ScriptObjectData :=
  { this with values := this.values.insert name (.virtual get set attributes) false }

def addPropertyWithCase (this : ScriptObjectData) (caseSensitive : Bool) (name : String)
    (get : ObjectRef) (set : Option ObjectRef) (attributes : Attribute) : ScriptObjectData :=
  { this with values := this.values.insert name (.virtual get set attributes) caseSensitive }

def setWatcher (this : ScriptObjectData) (caseSensitive : Bool) (name : String)
    (callback : ObjectRef) (userData : Value) : ScriptObjectData :=
  { this with watchers := this.watchers.insert name ⟨callback, userData⟩ caseSensitive }

def removeWatcher (this : ScriptObjectData) (caseSensitive : Bool) (name : String) :
    ScriptObjectData × Bool :=
  let (watchers, old) := this.watchers.remove name caseSensitive
  ({ this with watchers := watchers }, old.isSome)

def defineValue (this : ScriptObjectData) (name : String) (value : Value)
    (attributes : Attribute) : ScriptObjectData :=
  { this with values := this.values.insert name (.stored value attributes) true }

def setAttributes (this : ScriptObjectData) (name : Option String) (set clear : Attribute) :
    ScriptObjectData :=
  match name with
  | none =>
    { this with values := this.values.mapValues fun property =>
        property.setAttributes (property.attributes.update set clear) }
  | some name =>
    match this.values.find? name false with
    | some (key, _) =>
      { this with values := this.values.modify key fun property =>
          property.setAttributes (property.attributes.update set clear) }
    | none => this

def proto (this : ScriptObjectData) : Value :=
  this.prototype

def setProto (this : ScriptObjectData) (prototype : Value) : ScriptObjectData :=
  { this with prototype := prototype }

def hasOwnProperty (this : ScriptObjectData) (caseSensitive : Bool) (name : String) : Bool :=
  name == "__proto__" || this.values.containsKey name caseSensitive

def hasOwnVirtual (this : ScriptObjectData) (caseSensitive : Bool) (name : String) : Bool :=
  match this.values.get name caseSensitive with
  | some slot => slot.isVirtual
  | none => false

def isPropertyEnumerable (this : ScriptObjectData) (caseSensitive : Bool) (name : String) : Bool :=
  match this.values.get name caseSensitive with
  | some property => property.isEnumerable
  | none => false

def ownEnumerableKeys (this : ScriptObjectData) : List String :=
  this.values.entries.filterMap fun entry => if entry.2.isEnumerable then some entry.1 else none

/-- The upsert of `set_local` through `values.entry`, handing back the setter `Property::set` returns. -/
def upsertValue (this : ScriptObjectData) (caseSensitive : Bool) (name : String) (value : Value) :
    ScriptObjectData × Option ObjectRef :=
  match h : this.values.find? name caseSensitive with
  | some (key, property) =>
    ({ this with values := this.values.modify key fun _ => (property.set value).1 },
      (property.set value).2)
  | none =>
    ({ this with
      values := this.values.append name (.stored value .empty)
        (PropertyMap.not_mem_keys_of_find?_eq_none h) }, none)

end ScriptObjectData

/-! What each operation does to the slots, the storage and the prototype. -/

def syncSlot (old : Option Property) (nativeValue : Option Value) (isEnumerable : Bool) :
    Option Property :=
  match old, nativeValue with
  | some (.stored _ attributes), some value => some (.stored value attributes)
  | some (.stored ..), none => none
  | some (.virtual get set attributes), _ => some (.virtual get set attributes)
  | none, some value => some (.stored value (if isEnumerable then .empty else .hidden))
  | none, none => none

namespace ScriptObjectData

variable (this : ScriptObjectData)

@[simp] theorem syncNativeProperty_array (name : String) (nativeValue : Option Value)
    (isEnumerable : Bool) : (this.syncNativeProperty name nativeValue isEnumerable).array = this.array := by
  unfold syncNativeProperty; split <;> (try split) <;> rfl

@[simp] theorem syncNativeProperty_prototype (name : String) (nativeValue : Option Value)
    (isEnumerable : Bool) :
    (this.syncNativeProperty name nativeValue isEnumerable).prototype = this.prototype := by
  unfold syncNativeProperty; split <;> (try split) <;> rfl

theorem slot_syncNativeProperty {name : String} (nativeValue : Option Value) (isEnumerable : Bool)
    (alone : ∀ key ∈ this.values.keys, namesMatch false key name = true → key = name) (key : String) :
    (this.syncNativeProperty name nativeValue isEnumerable).values.slot key =
      if key = name then syncSlot (this.values.slot name) nativeValue isEnumerable
      else this.values.slot key := by
  have owner : ∀ {found property}, this.values.find? name false = some (found, property) →
      found = name ∧ this.values.slot name = some property := by
    intro found property h
    obtain ⟨slot, answers⟩ := PropertyMap.find?_slot h
    have same := alone found (PropertyMap.slot_isSome.mp (by simp [slot])) answers
    exact ⟨same, same ▸ slot⟩
  unfold syncNativeProperty
  split
  next found value attributes h =>
    obtain ⟨rfl, slot⟩ := owner h
    cases nativeValue <;> by_cases asked : key = found <;> simp [asked, slot, syncSlot]
  next found get set attributes h =>
    obtain ⟨rfl, slot⟩ := owner h
    by_cases asked : key = found <;> simp [asked, slot, syncSlot]
  next h =>
    have absent : this.values.slot name = none := by
      cases found : this.values.slot name with
      | none => rfl
      | some property =>
        have := PropertyMap.find?_eq_none.mp h _ (PropertyMap.slot_eq_some.mp found)
        simp [namesMatch_self] at this
    cases nativeValue <;> by_cases asked : key = name <;> simp [asked, absent, syncSlot]

theorem keys_syncNativeProperty_none (name : String) (isEnumerable : Bool) {key : String}
    (member : key ∈ (this.syncNativeProperty name none isEnumerable).values.keys) :
    key ∈ this.values.keys := by
  unfold syncNativeProperty at member
  split at member <;> simp_all

theorem keys_syncNativeProperty (name : String) (nativeValue : Option Value) (isEnumerable : Bool)
    {key : String} (member : key ∈ (this.syncNativeProperty name nativeValue isEnumerable).values.keys) :
    key ∈ this.values.keys ∨ key = name := by
  unfold syncNativeProperty at member
  split at member <;> (try split at member) <;> simp_all

end ScriptObjectData

namespace ScriptObject

def array (proto : Option ObjectRef) : ScriptObjectData :=
  (⟨protoValue proto, .empty, .vector [], .empty⟩ : ScriptObjectData).syncNativeProperty "length"
    (some (.ofNat 0)) false

end ScriptObject

namespace ScriptObjectData

def createBareObject (this : ScriptObjectData) (proto : ObjectRef) : ScriptObjectData :=
  match this.array with
  | .vector _ => ScriptObject.array (some proto)
  | .properties _ => ScriptObject.object (some proto)

def callSetter (this : ScriptObjectData) (caseSensitive : Bool) (name : String) (value : Value) :
    Option ObjectRef :=
  match this.values.get name caseSensitive with
  | some property => if property.isVirtual then (property.set value).2 else none
  | none => none

end ScriptObjectData

end Avm1
