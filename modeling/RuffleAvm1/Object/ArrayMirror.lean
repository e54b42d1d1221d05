import RuffleAvm1.Object.ScriptObject

/-! The element mirror of array-natured objects (spec §3): every element write is mirrored as a
stored slot under the element's decimal name, and `"length"` is kept equal to the vector's size.
This module states the mirror and what each storage operation does to it. -/

namespace Avm1

def slotValue : Option Property → Option Value
  | some (.stored value _) => some value
  | _ => none

def slotVirtual : Option Property → Bool
  | some (.virtual ..) => true
  | _ => false

namespace PropertyMap

def storedValue (values : PropertyMap Property) (key : String) : Option Value :=
  slotValue (values.slot key)

def hasVirtual (values : PropertyMap Property) (key : String) : Bool :=
  slotVirtual (values.slot key)

end PropertyMap

@[simp] theorem slotValue_syncSlot_some (old : Option Property) (value : Value) (isEnumerable : Bool) :
    slotValue (syncSlot old (some value) isEnumerable) = if slotVirtual old then none else some value := by
  rcases old with _ | ⟨_, _⟩ | ⟨_, _, _⟩ <;> rfl

@[simp] theorem slotValue_syncSlot_none (old : Option Property) (isEnumerable : Bool) :
    slotValue (syncSlot old none isEnumerable) = none := by
  rcases old with _ | ⟨_, _⟩ | ⟨_, _, _⟩ <;> rfl

@[simp] theorem slotVirtual_syncSlot (old : Option Property) (nativeValue : Option Value)
    (isEnumerable : Bool) : slotVirtual (syncSlot old nativeValue isEnumerable) = slotVirtual old := by
  rcases old with _ | ⟨_, _⟩ | ⟨_, _, _⟩ <;> rcases nativeValue with _ | _ <;> rfl

@[simp] theorem slotValue_map_setAttributes (slot : Option Property) (update : Attribute → Attribute) :
    slotValue (slot.map fun property => property.setAttributes (update property.attributes)) =
      slotValue slot := by
  rcases slot with _ | ⟨_, _⟩ | ⟨_, _, _⟩ <;> rfl

@[simp] theorem slotVirtual_map_setAttributes (slot : Option Property) (update : Attribute → Attribute) :
    slotVirtual (slot.map fun property => property.setAttributes (update property.attributes)) =
      slotVirtual slot := by
  rcases slot with _ | ⟨_, _⟩ | ⟨_, _, _⟩ <;> rfl

def OrdinaryName (name : String) : Prop :=
  (∀ i : Nat, name ≠ toString i) ∧ foldCase name ≠ foldCase "length"

theorem OrdinaryName.of_namesMatch {caseSensitive : Bool} {key name : String}
    (ordinary : OrdinaryName name) (found : namesMatch caseSensitive key name = true) :
    OrdinaryName key := by
  refine ⟨fun i same => ordinary.1 i ?_, fun folded => ordinary.2 ((namesMatch_fold found).symm.trans folded)⟩
  subst same
  exact namesMatch_toString.mp (namesMatch_symm _ _ _ ▸ found)

theorem not_ordinary_toString (i : Nat) : ¬ OrdinaryName (toString i) :=
  fun ordinary => ordinary.1 i rfl

theorem not_ordinary_length : ¬ OrdinaryName "length" :=
  fun ordinary => ordinary.2 rfl

/-- The element mirror: the length slot, index slots inside the vector, one slot per defined element. -/
structure Mirrors (values : PropertyMap Property) (elements : List Value) : Prop where
  lengthSlot : values.storedValue "length" = some (.ofNat elements.length)
  indexSlot : ∀ (i : Nat) value, values.storedValue (toString i) = some value →
    i < elements.length ∧ elements.getD i .undefined = value
  elementSlot : ∀ i : Nat, i < elements.length → elements.getD i .undefined ≠ .undefined →
    values.storedValue (toString i) = some (elements.getD i .undefined)
  noVirtualIndex : ∀ i : Nat, values.hasVirtual (toString i) = false
  lengthKey : ∀ key ∈ values.keys, foldCase key = foldCase "length" → key = "length"

structure MirrorsBelow (values : PropertyMap Property) (elements : List Value) (bound : Nat) :
    Prop where
  lengthSlot : values.storedValue "length" = some (.ofNat elements.length)
  indexSlot : ∀ (i : Nat) value, values.storedValue (toString i) = some value →
    i < elements.length ∧ (i < bound → elements.getD i .undefined = value)
  elementSlot : ∀ i : Nat, i < bound → elements.getD i .undefined ≠ .undefined →
    values.storedValue (toString i) = some (elements.getD i .undefined)
  noVirtualIndex : ∀ i : Nat, values.hasVirtual (toString i) = false
  lengthKey : ∀ key ∈ values.keys, foldCase key = foldCase "length" → key = "length"

def ArrayMirror (this : ScriptObjectData) : Prop :=
  match this.array with
  | .vector elements => Mirrors this.values elements
  | .properties _ => False

def ArrayMirrorBelow (this : ScriptObjectData) (bound : Nat) : Prop :=
  match this.array with
  | .vector elements => MirrorsBelow this.values elements bound
  | .properties _ => False

theorem Mirrors.below {values : PropertyMap Property} {elements : List Value}
    (mirror : Mirrors values elements) (bound : Nat) : MirrorsBelow values elements bound where
  lengthSlot := mirror.lengthSlot
  indexSlot i value stored := ⟨(mirror.indexSlot i value stored).1,
    fun _ => (mirror.indexSlot i value stored).2⟩
  elementSlot i _ defined := mirror.elementSlot i (by
    by_contra past
    exact defined (getD_of_length_le (Nat.le_of_not_lt past))) defined
  noVirtualIndex := mirror.noVirtualIndex
  lengthKey := mirror.lengthKey

theorem MirrorsBelow.mirrors {values : PropertyMap Property} {elements : List Value} {bound : Nat}
    (mirror : MirrorsBelow values elements bound) (covers : elements.length ≤ bound) :
    Mirrors values elements where
  lengthSlot := mirror.lengthSlot
  indexSlot i value stored := ⟨(mirror.indexSlot i value stored).1,
    (mirror.indexSlot i value stored).2 (by have := (mirror.indexSlot i value stored).1; omega)⟩
  elementSlot i inside defined := mirror.elementSlot i (by omega) defined
  noVirtualIndex := mirror.noVirtualIndex
  lengthKey := mirror.lengthKey

structure KeepsMirrorKeys (values values' : PropertyMap Property) : Prop where
  storedValue : ∀ key, ¬ OrdinaryName key → values'.storedValue key = values.storedValue key
  hasVirtual : ∀ key, ¬ OrdinaryName key → values'.hasVirtual key = values.hasVirtual key
  keys : ∀ key ∈ values'.keys, ¬ OrdinaryName key → key ∈ values.keys

theorem MirrorsBelow.keep {values values' : PropertyMap Property} {elements : List Value}
    {bound : Nat} (mirror : MirrorsBelow values elements bound) (keeps : KeepsMirrorKeys values values') :
    MirrorsBelow values' elements bound where
  lengthSlot := (keeps.storedValue _ not_ordinary_length).trans mirror.lengthSlot
  indexSlot i value stored :=
    mirror.indexSlot i value ((keeps.storedValue _ (not_ordinary_toString i)).symm.trans stored)
  elementSlot i below defined :=
    (keeps.storedValue _ (not_ordinary_toString i)).trans (mirror.elementSlot i below defined)
  noVirtualIndex i := (keeps.hasVirtual _ (not_ordinary_toString i)).trans (mirror.noVirtualIndex i)
  lengthKey key member folded :=
    mirror.lengthKey key (keeps.keys key member fun ordinary => ordinary.2 folded) folded

theorem Mirrors.keep {values values' : PropertyMap Property} {elements : List Value}
    (mirror : Mirrors values elements) (keeps : KeepsMirrorKeys values values') :
    Mirrors values' elements :=
  ((mirror.below elements.length).keep keeps).mirrors le_rfl

namespace KeepsMirrorKeys

variable {values : PropertyMap Property}

theorem of_slots {values' : PropertyMap Property}
    (slots : ∀ key, ¬ OrdinaryName key → values'.slot key = values.slot key) :
    KeepsMirrorKeys values values' where
  storedValue key mirrored := by simp [PropertyMap.storedValue, slots key mirrored]
  hasVirtual key mirrored := by simp [PropertyMap.hasVirtual, slots key mirrored]
  keys key member mirrored := by
    rw [← PropertyMap.slot_isSome, ← slots key mirrored]
    exact PropertyMap.slot_isSome.mpr member

theorem modify {key : String} (ordinary : OrdinaryName key) (f : Property → Property) :
    KeepsMirrorKeys values (values.modify key f) :=
  of_slots fun name mirrored => by
    have other : name ≠ key := fun same => mirrored (same ▸ ordinary)
    simp [other]

theorem erase {key : String} (ordinary : OrdinaryName key) :
    KeepsMirrorKeys values (values.erase key) :=
  of_slots fun name mirrored => by
    have other : name ≠ key := fun same => mirrored (same ▸ ordinary)
    simp [other]

theorem append {key : String} (ordinary : OrdinaryName key) (value : Property)
    (fresh : key ∉ values.keys) : KeepsMirrorKeys values (values.append key value fresh) :=
  of_slots fun name mirrored => by
    have other : name ≠ key := fun same => mirrored (same ▸ ordinary)
    simp [other]

theorem insert {name : String} (ordinary : OrdinaryName name) (value : Property)
    (caseSensitive : Bool) : KeepsMirrorKeys values (values.insert name value caseSensitive) := by
  unfold PropertyMap.insert
  split
  next key _ found => exact modify (ordinary.of_namesMatch (PropertyMap.find?_mem found).2) _
  next => exact append ordinary _ _

theorem remove {name : String} (ordinary : OrdinaryName name) (caseSensitive : Bool) :
    KeepsMirrorKeys values (values.remove name caseSensitive).1 := by
  unfold PropertyMap.remove
  split
  next key _ found => exact erase (ordinary.of_namesMatch (PropertyMap.find?_mem found).2)
  next => exact of_slots fun _ _ => rfl

theorem modify_attributes (key : String) (update : Attribute → Attribute) :
    KeepsMirrorKeys values (values.modify key fun property =>
      property.setAttributes (update property.attributes)) where
  storedValue name _ := by
    simp only [PropertyMap.storedValue, PropertyMap.slot_modify]; split <;> simp
  hasVirtual name _ := by
    simp only [PropertyMap.hasVirtual, PropertyMap.slot_modify]; split <;> simp
  keys name member _ := by simpa using member

theorem mapValues_attributes (update : Attribute → Attribute) :
    KeepsMirrorKeys values (values.mapValues fun property =>
      property.setAttributes (update property.attributes)) where
  storedValue name _ := by simp [PropertyMap.storedValue]
  hasVirtual name _ := by simp [PropertyMap.hasVirtual]
  keys name member _ := by simpa using member

end KeepsMirrorKeys

namespace ScriptObjectData

variable (this : ScriptObjectData)

theorem alone_toString (i : Nat) :
    ∀ key ∈ this.values.keys, namesMatch false key (toString i) = true → key = toString i :=
  fun _ _ found => namesMatch_toString.mp found

theorem alone_length
    (lengthKey : ∀ key ∈ this.values.keys, foldCase key = foldCase "length" → key = "length") :
    ∀ key ∈ this.values.keys, namesMatch false key "length" = true → key = "length" :=
  fun key member found => lengthKey key member (namesMatch_fold found)

section Alone

variable {this} {name : String}
  (alone : ∀ key ∈ this.values.keys, namesMatch false key name = true → key = name)
  (nativeValue : Option Value) (isEnumerable : Bool)
include alone

theorem storedValue_syncNativeProperty (key : String) :
    (this.syncNativeProperty name nativeValue isEnumerable).values.storedValue key =
      if key = name then slotValue (syncSlot (this.values.slot name) nativeValue isEnumerable)
      else this.values.storedValue key := by
  rw [PropertyMap.storedValue, this.slot_syncNativeProperty nativeValue isEnumerable alone]
  split <;> rfl

theorem hasVirtual_syncNativeProperty (key : String) :
    (this.syncNativeProperty name nativeValue isEnumerable).values.hasVirtual key =
      this.values.hasVirtual key := by
  rw [PropertyMap.hasVirtual, this.slot_syncNativeProperty nativeValue isEnumerable alone]
  split <;> simp_all [PropertyMap.hasVirtual]

end Alone

theorem setArrayElement_vector {elements : List Value} (vector : this.array = .vector elements)
    (index : Nat) (value : Value) :
    this.setArrayElement index value =
      ({ this.syncNativeProperty (toString index) (some value) true with
          array := .vector (storeElement elements index value) }.syncNativeProperty "length"
        (some (.ofNat (storeElement elements index value).length)) false,
        (storeElement elements index value).length) := by
  simp [setArrayElement, vector]

end ScriptObjectData

open ScriptObjectData

theorem slotVirtual_eq_false_of_storedValue {values : PropertyMap Property} {key : String} {value : Value}
    (stored : values.storedValue key = some value) : slotVirtual (values.slot key) = false := by
  revert stored
  unfold PropertyMap.storedValue
  rcases values.slot key with _ | ⟨_, _⟩ | ⟨_, _, _⟩ <;> simp [slotValue, slotVirtual]

theorem Mirrors.syncLength {this : ScriptObjectData} {elements : List Value}
    (lengthKey : ∀ key ∈ this.values.keys, foldCase key = foldCase "length" → key = "length")
    (lengthStored : slotVirtual (this.values.slot "length") = false)
    (indexSlot : ∀ (i : Nat) value, this.values.storedValue (toString i) = some value →
      i < elements.length ∧ elements.getD i .undefined = value)
    (elementSlot : ∀ i : Nat, i < elements.length → elements.getD i .undefined ≠ .undefined →
      this.values.storedValue (toString i) = some (elements.getD i .undefined))
    (noVirtualIndex : ∀ i : Nat, this.values.hasVirtual (toString i) = false) :
    Mirrors (this.syncNativeProperty "length" (some (.ofNat elements.length)) false).values elements := by
  have alone := alone_length this lengthKey
  refine ⟨?_, fun i value found => indexSlot i value ?_, fun i inside defined => ?_, fun i => ?_,
    fun key member folded => ?_⟩
  · rw [storedValue_syncNativeProperty alone, if_pos rfl]
    simp [lengthStored]
  · rwa [storedValue_syncNativeProperty alone, if_neg (toString_ne_length i)] at found
  · rw [storedValue_syncNativeProperty alone, if_neg (toString_ne_length i)]
    exact elementSlot i inside defined
  · rw [hasVirtual_syncNativeProperty alone]
    exact noVirtualIndex i
  · rcases this.keys_syncNativeProperty _ _ _ member with member | rfl
    · exact lengthKey key member folded
    · rfl

theorem ArrayMirror.setArrayElement {this : ScriptObjectData} (mirror : ArrayMirror this)
    (index : Nat) (value : Value) : ArrayMirror (this.setArrayElement index value).1 := by
  unfold ArrayMirror at mirror ⊢
  split at mirror
  next elements vector =>
    rw [setArrayElement_vector this vector]
    simp only [syncNativeProperty_array]
    set this1 := this.syncNativeProperty (toString index) (some value) true
    have alone := this.alone_toString index
    have notVirtual : slotVirtual (this.values.slot (toString index)) = false := mirror.noVirtualIndex index
    have stored (j : Nat) : this1.values.storedValue (toString j) =
        if j = index then some value else this.values.storedValue (toString j) := by
      rw [storedValue_syncNativeProperty alone]
      by_cases same : j = index
      · simp [same, notVirtual]
      · have other : toString j ≠ toString index := fun h => same (toString_injective h)
        simp [same, other]
    refine Mirrors.syncLength (fun key member folded => ?_) ?_ (fun j found found_eq => ?_)
      (fun j inside defined => ?_) (fun j => ?_)
    · rcases this.keys_syncNativeProperty _ _ _ member with member | rfl
      · exact mirror.lengthKey key member folded
      · exact absurd folded (foldCase_toString_ne_length index)
    · show slotVirtual (this1.values.slot "length") = false
      rw [this.slot_syncNativeProperty _ _ alone, if_neg (toString_ne_length index).symm]
      exact slotVirtual_eq_false_of_storedValue mirror.lengthSlot
    · change this1.values.storedValue _ = _ at found_eq
      rw [stored] at found_eq
      split at found_eq
      · subst j; cases found_eq
        exact ⟨by simp only [length_storeElement]; omega, by simp only [getD_storeElement, ite_true]⟩
      · rename_i other
        obtain ⟨inside, element⟩ := mirror.indexSlot j found found_eq
        simp only [length_storeElement, getD_storeElement, other, ite_false]
        exact ⟨by omega, element⟩
    · show this1.values.storedValue _ = _
      rw [stored]
      simp only [getD_storeElement] at defined ⊢
      split
      · rfl
      · rename_i other
        simp only [other, ite_false] at defined ⊢
        refine mirror.elementSlot j ?_ defined
        by_contra past
        exact defined (getD_of_length_le (Nat.le_of_not_lt past))
    · show this1.values.hasVirtual _ = _
      rw [hasVirtual_syncNativeProperty alone]
      exact mirror.noVirtualIndex j
  next => exact mirror.elim

namespace ScriptObjectData

variable (this : ScriptObjectData)

@[simp] theorem foldl_syncNone_array (indices : List Nat) :
    (indices.foldl (fun (this : ScriptObjectData) i => this.syncNativeProperty (toString i) none true)
      this).array = this.array := by
  induction indices generalizing this with
  | nil => rfl
  | cons i rest ih => simp [ih]

theorem storedValue_foldl_syncNone (indices : List Nat) (key : String) :
    (indices.foldl (fun (this : ScriptObjectData) i => this.syncNativeProperty (toString i) none true)
      this).values.storedValue key =
      if ∃ i ∈ indices, key = toString i then none else this.values.storedValue key := by
  induction indices generalizing this with
  | nil => simp
  | cons i rest ih =>
    rw [List.foldl_cons, ih, storedValue_syncNativeProperty (this.alone_toString i)]
    by_cases here : key = toString i <;> simp [here]

theorem hasVirtual_foldl_syncNone (indices : List Nat) (key : String) :
    (indices.foldl (fun (this : ScriptObjectData) i => this.syncNativeProperty (toString i) none true)
      this).values.hasVirtual key = this.values.hasVirtual key := by
  induction indices generalizing this with
  | nil => rfl
  | cons i rest ih => rw [List.foldl_cons, ih, hasVirtual_syncNativeProperty (this.alone_toString i)]

theorem keys_foldl_syncNone (indices : List Nat) {key : String}
    (member : key ∈ (indices.foldl (fun (this : ScriptObjectData) i =>
      this.syncNativeProperty (toString i) none true) this).values.keys) :
    key ∈ this.values.keys := by
  induction indices generalizing this with
  | nil => exact member
  | cons i rest ih => exact this.keys_syncNativeProperty_none _ _ (ih _ member)

theorem setLength_vector {elements : List Value} (vector : this.array = .vector elements)
    (newLength : Nat) :
    this.setLength newLength =
      ((if newLength < elements.length then List.range' newLength (elements.length - newLength)
          else []).foldl (fun (this : ScriptObjectData) i => this.syncNativeProperty (toString i) none true)
        { this with array := .vector (resize elements newLength) }).syncNativeProperty "length"
        (some (.ofNat newLength)) false := by
  by_cases short : newLength < elements.length
  · simp only [setLength, vector, short, ite_true]
  · simp only [setLength, vector, short, ite_false, List.foldl_nil]

theorem delete_index_values (caseSensitive : Bool) (i : Nat) :
    (this.delete caseSensitive (toString i)).1.values = this.values ∨
      (this.delete caseSensitive (toString i)).1.values = this.values.erase (toString i) := by
  unfold delete
  split
  · split
    · right
      unfold PropertyMap.remove
      split
      next key _ found => rw [namesMatch_toString.mp (PropertyMap.find?_mem found).2]
      next => simp_all [PropertyMap.get]
    · left; rfl
  · left; rfl

@[simp] theorem delete_array (caseSensitive : Bool) (name : String) :
    (this.delete caseSensitive name).1.array = this.array := by
  unfold delete; split <;> (try split) <;> rfl

@[simp] theorem deleteArrayElement_values (index : Nat) :
    (this.deleteArrayElement index).values = this.values := by
  unfold deleteArrayElement; split <;> (try split) <;> rfl

end ScriptObjectData

theorem ArrayMirrorBelow.deleteArrayElement {this : ScriptObjectData} {bound index : Nat}
    (mirror : ArrayMirrorBelow this bound) (past : bound ≤ index) :
    ArrayMirrorBelow (this.deleteArrayElement index) bound := by
  unfold ArrayMirrorBelow at mirror ⊢
  split at mirror
  next elements vector =>
    set cleared := clearElement elements index
    have array : (this.deleteArrayElement index).array = .vector cleared := by
      simp only [ScriptObjectData.deleteArrayElement, vector, cleared, clearElement]
      split <;> simp [vector]
    have sameLength : cleared.length = elements.length := by simp only [cleared, clearElement]; split <;> simp
    rw [array, ScriptObjectData.deleteArrayElement_values]
    refine ⟨by rw [sameLength]; exact mirror.lengthSlot, fun j value stored => ?_,
      fun j below defined => ?_, mirror.noVirtualIndex, mirror.lengthKey⟩
    · obtain ⟨inside, element⟩ := mirror.indexSlot j value stored
      exact ⟨by rw [sameLength]; exact inside, fun below => by
        rw [getD_clearElement, if_neg (by omega)]; exact element below⟩
    · rw [getD_clearElement, if_neg (by omega)] at defined ⊢
      exact mirror.elementSlot j below defined
  next => exact mirror.elim

theorem MirrorsBelow.erase {values : PropertyMap Property} {elements : List Value} {bound i : Nat}
    (mirror : MirrorsBelow values elements bound) (past : bound ≤ i) :
    MirrorsBelow (values.erase (toString i)) elements bound := by
  have stored : ∀ key, (values.erase (toString i)).storedValue key =
      if key = toString i then none else values.storedValue key := by
    intro key; by_cases here : key = toString i <;> simp [PropertyMap.storedValue, here, slotValue]
  refine ⟨?_, fun j value found => ?_, fun j below defined => ?_, fun j => ?_,
    fun key member => mirror.lengthKey key (by simp at member; exact member.1)⟩
  · rw [stored, if_neg (toString_ne_length i).symm]; exact mirror.lengthSlot
  · rw [stored] at found
    split at found
    · cases found
    · exact mirror.indexSlot j value found
  · have other : toString j ≠ toString i := fun same => by
      have := toString_injective same; omega
    rw [stored, if_neg other]
    exact mirror.elementSlot j below defined
  · by_cases here : toString j = toString i
    · simp [PropertyMap.hasVirtual, here, slotVirtual]
    · simp only [PropertyMap.hasVirtual, PropertyMap.slot_erase, here, ite_false]
      exact mirror.noVirtualIndex j

theorem ArrayMirrorBelow.deleteIndex {this : ScriptObjectData} {bound i : Nat}
    (mirror : ArrayMirrorBelow this bound) (past : bound ≤ i) (caseSensitive : Bool) :
    ArrayMirrorBelow (this.delete caseSensitive (toString i)).1 bound := by
  unfold ArrayMirrorBelow at mirror ⊢
  rw [ScriptObjectData.delete_array]
  split at mirror
  next elements vector =>
    rcases this.delete_index_values caseSensitive i with same | erased
    · rwa [same]
    · rw [erased]; exact mirror.erase past
  next => exact mirror.elim

open ScriptObjectData in
theorem ArrayMirrorBelow.setLength {this : ScriptObjectData} {bound : Nat}
    (mirror : ArrayMirrorBelow this bound) : ArrayMirror (this.setLength bound) := by
  unfold ArrayMirrorBelow at mirror
  unfold ArrayMirror
  split at mirror
  next elements vector =>
    rw [setLength_vector this vector]
    simp only [syncNativeProperty_array, foldl_syncNone_array]
    set indices := if bound < elements.length then List.range' bound (elements.length - bound) else []
    set cleared := indices.foldl (fun (this : ScriptObjectData) i =>
      this.syncNativeProperty (toString i) none true) { this with array := .vector (resize elements bound) }
    have removed : ∀ j : Nat, (∃ i ∈ indices, toString j = toString i) ↔ bound ≤ j ∧ j < elements.length := by
      intro j
      have member : j ∈ indices ↔ bound ≤ j ∧ j < elements.length := by
        simp only [indices]; split <;> simp only [List.mem_range'_1, List.not_mem_nil, false_iff, not_and, not_lt] <;> omega
      exact ⟨fun ⟨_, inside, same⟩ => member.mp (toString_injective same ▸ inside), fun range => ⟨j, member.mpr range, rfl⟩⟩
    have clearedStored : ∀ j : Nat, cleared.values.storedValue (toString j) =
        if bound ≤ j ∧ j < elements.length then none else this.values.storedValue (toString j) := by
      intro j
      rw [storedValue_foldl_syncNone]
      by_cases here : bound ≤ j ∧ j < elements.length
      · rw [if_pos ((removed j).mpr here), if_pos here]
      · rw [if_neg (fun h => here ((removed j).mp h)), if_neg here]
    rw [show Value.ofNat bound = .ofNat (resize elements bound).length by rw [length_resize]]
    refine Mirrors.syncLength (fun key member => mirror.lengthKey key
        (keys_foldl_syncNone { this with array := .vector (resize elements bound) } indices member)) ?_
      (fun j value found => ?_) (fun j inside defined => ?_) (fun j => ?_)
    · have := hasVirtual_foldl_syncNone { this with array := .vector (resize elements bound) } indices "length"
      simp only [PropertyMap.hasVirtual] at this
      rw [this]
      exact slotVirtual_eq_false_of_storedValue mirror.lengthSlot
    · rw [clearedStored] at found
      split at found
      · cases found
      · obtain ⟨inside, element⟩ := mirror.indexSlot j value found
        have below : j < bound := by omega
        rw [length_resize, getD_resize, if_pos below]
        exact ⟨below, element below⟩
    · rw [length_resize] at inside
      rw [getD_resize, if_pos inside] at defined ⊢
      rw [clearedStored, if_neg (by omega)]
      exact mirror.elementSlot j inside defined
    · rw [hasVirtual_foldl_syncNone]
      exact mirror.noVirtualIndex j
  next => exact mirror.elim

theorem ArrayMirror.below {this : ScriptObjectData} (mirror : ArrayMirror this) (bound : Nat) :
    ArrayMirrorBelow this bound := by
  unfold ArrayMirror at mirror
  unfold ArrayMirrorBelow
  split at mirror
  next => exact mirror.below bound
  next => exact mirror.elim

theorem ArrayMirror.setLength {this : ScriptObjectData} (mirror : ArrayMirror this) (newLength : Nat) :
    ArrayMirror (this.setLength newLength) :=
  (mirror.below newLength).setLength

theorem ScriptObject.slot_array (proto : Option ObjectRef) (key : String) :
    (ScriptObject.array proto).values.slot key =
      if key = "length" then some (.stored (.ofNat 0) .hidden) else none := by
  have entries : (ScriptObject.array proto).values.entries = [("length", .stored (.ofNat 0) .hidden)] := rfl
  simp only [PropertyMap.slot, entries, PropertyMap.lookup_cons]
  rfl

theorem ScriptObject.array_mirror (proto : Option ObjectRef) : ArrayMirror (ScriptObject.array proto) := by
  have vector : (ScriptObject.array proto).array = .vector [] := rfl
  unfold ArrayMirror
  rw [vector]
  refine ⟨by simp [PropertyMap.storedValue, slot_array, slotValue], fun j value found => ?_,
    fun j inside => absurd inside (by simp), fun j => ?_, fun key member folded => ?_⟩
  · simp [PropertyMap.storedValue, slot_array, toString_ne_length, slotValue] at found
  · simp [PropertyMap.hasVirtual, slot_array, toString_ne_length, slotVirtual]
  · have present := PropertyMap.slot_isSome.mpr member
    rw [slot_array] at present
    split at present
    · assumption
    · cases present

theorem ArrayMirror.keep {this this' : ScriptObjectData} (mirror : ArrayMirror this)
    (array : this'.array = this.array) (keeps : KeepsMirrorKeys this.values this'.values) :
    ArrayMirror this' := by
  unfold ArrayMirror at mirror ⊢
  rw [array]
  split at mirror
  next => exact mirror.keep keeps
  next => exact mirror.elim

theorem KeepsMirrorKeys.refl (values : PropertyMap Property) : KeepsMirrorKeys values values :=
  KeepsMirrorKeys.of_slots fun _ _ => rfl

namespace ScriptObjectData

variable (this : ScriptObjectData) {name : String} (ordinary : OrdinaryName name)
include ordinary

theorem keeps_upsertValue (caseSensitive : Bool) (value : Value) :
    KeepsMirrorKeys this.values (this.upsertValue caseSensitive name value).1.values := by
  unfold upsertValue
  split
  next key _ found => dsimp only; exact .modify (ordinary.of_namesMatch (PropertyMap.find?_mem found).2) _
  next => dsimp only; exact .append ordinary _ _

theorem keeps_delete (caseSensitive : Bool) :
    KeepsMirrorKeys this.values (this.delete caseSensitive name).1.values := by
  unfold delete
  split
  · split
    · exact .remove ordinary caseSensitive
    · exact .refl _
  · exact .refl _

end ScriptObjectData

theorem ScriptObjectData.keeps_setAttributes (this : ScriptObjectData) (name : Option String)
    (set clear : Attribute) :
    KeepsMirrorKeys this.values (this.setAttributes name set clear).values := by
  unfold setAttributes
  split
  · exact .mapValues_attributes fun attributes => attributes.update set clear
  · split
    · exact .modify_attributes _ fun attributes => attributes.update set clear
    · exact .refl _

theorem OrdinaryName.of_nonDigit {name : String} (letter : ∃ c ∈ name.data, c.isDigit = false)
    (notLength : foldCase name ≠ foldCase "length") : OrdinaryName name := by
  refine ⟨fun i same => ?_, notLength⟩
  obtain ⟨c, member, letter⟩ := letter
  rw [same] at member
  simp [isDigit_of_mem_toString i c member] at letter

@[simp] theorem ScriptObjectData.setAttributes_array (this : ScriptObjectData) (name : Option String)
    (set clear : Attribute) : (this.setAttributes name set clear).array = this.array := by
  unfold ScriptObjectData.setAttributes; split <;> (try split) <;> rfl

@[simp] theorem ScriptObjectData.upsertValue_array (this : ScriptObjectData) (caseSensitive : Bool)
    (name : String) (value : Value) : (this.upsertValue caseSensitive name value).1.array = this.array := by
  unfold ScriptObjectData.upsertValue; split <;> rfl

/-! The operations on ordinary names touch nothing the mirror reads. -/

namespace ArrayMirror

variable {this : ScriptObjectData} (mirror : ArrayMirror this) {name : String}
  (ordinary : OrdinaryName name)
include mirror

theorem setAttributes (name : Option String) (set clear : Attribute) :
    ArrayMirror (this.setAttributes name set clear) :=
  mirror.keep (this.setAttributes_array name set clear) (this.keeps_setAttributes name set clear)

theorem setWatcher (caseSensitive : Bool) (name : String) (callback : ObjectRef) (userData : Value) :
    ArrayMirror (this.setWatcher caseSensitive name callback userData) :=
  mirror.keep rfl (.refl _)

theorem removeWatcher (caseSensitive : Bool) (name : String) :
    ArrayMirror (this.removeWatcher caseSensitive name).1 :=
  mirror.keep rfl (.refl _)

theorem setProto (prototype : Value) : ArrayMirror (this.setProto prototype) :=
  mirror.keep rfl (.refl _)

include ordinary

theorem upsertValue (caseSensitive : Bool) (value : Value) :
    ArrayMirror (this.upsertValue caseSensitive name value).1 :=
  mirror.keep (this.upsertValue_array caseSensitive name value)
    (this.keeps_upsertValue ordinary caseSensitive value)

theorem defineValue (value : Value) (attributes : Attribute) :
    ArrayMirror (this.defineValue name value attributes) :=
  mirror.keep rfl (.insert ordinary _ true)

theorem addProperty (get : ObjectRef) (set : Option ObjectRef) (attributes : Attribute) :
    ArrayMirror (this.addProperty name get set attributes) :=
  mirror.keep rfl (.insert ordinary _ false)

theorem addPropertyWithCase (caseSensitive : Bool) (get : ObjectRef) (set : Option ObjectRef)
    (attributes : Attribute) : ArrayMirror (this.addPropertyWithCase caseSensitive name get set attributes) :=
  mirror.keep rfl (.insert ordinary _ caseSensitive)

theorem delete (caseSensitive : Bool) : ArrayMirror (this.delete caseSensitive name).1 :=
  mirror.keep (this.delete_array caseSensitive name) (this.keeps_delete ordinary caseSensitive)

end ArrayMirror

def singletonArray : ScriptObjectData :=
  ((ScriptObject.array none).setArrayElement 0 (.bool true)).1

def taggedArray : ScriptObjectData :=
  singletonArray.defineValue "x" (.bool false) .empty

end Avm1
