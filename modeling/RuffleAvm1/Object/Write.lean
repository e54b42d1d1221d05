import RuffleAvm1.Object.ArrayMirror

/-! The reads and writes of one named slot that run script code: `get_local`, `set_local` with
its watcher and setter, and `set_attributes`. The script code `set_local` runs is a parameter that
takes the object and returns its outcome with the object as it leaves it. -/

namespace Avm1

namespace ScriptObjectData

def getLocal (this : ScriptObjectData) (caseSensitive : Bool) (name : String)
    (execGetter : ObjectRef → Option (Except Error Value)) : Option (Except Error Value) :=
  match this.values.get name caseSensitive with
  | some (.stored value _) => some (.ok value)
  | some (.virtual get _ _) => (execGetter get).map fun
    | .ok value => .ok value
    | .error (.thrownValue thrown) => .error (.thrownValue thrown)
    | .error .other => .ok .undefined
  | none => none

/-- The watcher step of `set_local`: the value to store, or the failure of reading the old value. -/
def watchedValue (this : ScriptObjectData) (caseSensitive : Bool) (name : String) (value : Value)
    (getOld : ScriptObjectData → Except Error Value × ScriptObjectData)
    (callWatcher : Watcher → Value → Value → ScriptObjectData → Except Error Value × ScriptObjectData) :
    Except Error (Value × Except Error Unit) × ScriptObjectData :=
  match this.watchers.get name caseSensitive with
  | none => (.ok (value, .ok ()), this)
  | some watcher =>
    match getOld this with
    | (.error error, read) => (.error error, read)
    | (.ok oldValue, read) =>
      match callWatcher watcher oldValue value read with
      | (.ok value, watched) => (.ok (value, .ok ()), watched)
      | (.error (.thrownValue thrown), watched) => (.ok (.undefined, .error (.thrownValue thrown)), watched)
      | (.error .other, watched) => (.ok (.undefined, .ok ()), watched)

def setterResult (outcome : Except Error Value) (tentative : Except Error Unit) : Except Error Unit :=
  match outcome with
  | .error (.thrownValue thrown) => .error (.thrownValue thrown)
  | _ => tentative

end ScriptObjectData

structure SetLocalOutcome where
  this : ScriptObjectData
  setterCall : Option (ObjectRef × Value)
  result : Except Error Unit

namespace ScriptObjectData

/-- `set_local`: the watcher step, the upsert on the object it left, then the setter it hands back. -/
def setLocal (this : ScriptObjectData) (caseSensitive : Bool) (name : String) (value : Value)
    (getOld : ScriptObjectData → Except Error Value × ScriptObjectData)
    (callWatcher : Watcher → Value → Value → ScriptObjectData → Except Error Value × ScriptObjectData)
    (execSetter : ObjectRef → Value → ScriptObjectData → Except Error Value × ScriptObjectData) :
    SetLocalOutcome :=
  match this.watchedValue caseSensitive name value getOld callWatcher with
  | (.error error, read) => ⟨read, none, .error error⟩
  | (.ok (value, tentative), watched) =>
    let upserted := watched.upsertValue caseSensitive name value
    match upserted.2 with
    | some setter =>
      let ran := execSetter setter value upserted.1
      ⟨ran.2, some (setter, value), setterResult ran.1 tentative⟩
    | none => ⟨upserted.1, none, tentative⟩

variable (this : ScriptObjectData) (caseSensitive : Bool) (name : String) (value : Value)

theorem slot_upsertValue (key : String) :
    (this.upsertValue caseSensitive name value).1.values.slot key =
      match this.values.find? name caseSensitive with
      | some (found, property) => if key = found then some (property.set value).1 else this.values.slot key
      | none => if key = name then some (.stored value .empty) else this.values.slot key := by
  unfold upsertValue
  split
  next found property probed =>
    rw [probed]
    by_cases same : key = found
    · simp [same, (PropertyMap.find?_slot probed).1]
    · simp [same]
  next probed => simp [probed]

theorem upsertValue_setter :
    (this.upsertValue caseSensitive name value).2 =
      match this.values.find? name caseSensitive with
      | some (_, property) => (property.set value).2
      | none => none := by
  unfold upsertValue
  split <;> simp [*]

theorem get_upsertValue :
    (this.upsertValue caseSensitive name value).1.values.get name caseSensitive =
      match this.values.find? name caseSensitive with
      | some (_, property) => some (property.set value).1
      | none => some (.stored value .empty) := by
  unfold upsertValue PropertyMap.get
  split
  next found property probed => simp [PropertyMap.find?_modify, probed]
  next probed => simp [PropertyMap.find?_append_self probed, probed]

@[simp] theorem upsertValue_watchers : (this.upsertValue caseSensitive name value).1.watchers = this.watchers := by
  unfold upsertValue; split <;> rfl

@[simp] theorem upsertValue_prototype :
    (this.upsertValue caseSensitive name value).1.prototype = this.prototype := by
  unfold upsertValue; split <;> rfl

end ScriptObjectData

/-- What writing `stored` into `before` must do: to the slot, through the setter, and as the result. -/
def WritesSlot (before : ScriptObjectData) (caseSensitive : Bool) (name : String) (stored : Value)
    (tentative : Except Error Unit)
    (execSetter : ObjectRef → Value → ScriptObjectData → Except Error Value × ScriptObjectData)
    (outcome : SetLocalOutcome) : Prop :=
  let found := before.values.find? name caseSensitive
  ∃ written : ScriptObjectData,
    (∀ key old attributes, found = some (key, .stored old attributes) →
      written.values.slot key = some (.stored (if attributes.readOnly then old else stored) attributes)) ∧
    (∀ key get set attributes, found = some (key, .virtual get set attributes) →
      written.values.slot key = some (.virtual get set attributes)) ∧
    (found = none → written.values.slot name = some (.stored stored .empty)) ∧
    (∀ key, key ≠ (found.map Prod.fst).getD name → written.values.slot key = before.values.slot key) ∧
    written.watchers = before.watchers ∧ written.prototype = before.prototype ∧
    written.array = before.array ∧
    outcome.setterCall = (match found with
      | some (_, .virtual _ (some setter) _) => some (setter, stored)
      | _ => none) ∧
    (outcome.setterCall = none → outcome.this = written ∧ outcome.result = tentative) ∧
    ∀ setter, outcome.setterCall = some (setter, stored) →
      outcome.this = (execSetter setter stored written).2 ∧
      (∀ thrown, (execSetter setter stored written).1 = .error (.thrownValue thrown) →
        outcome.result = .error (.thrownValue thrown)) ∧
      ((∀ thrown, (execSetter setter stored written).1 ≠ .error (.thrownValue thrown)) →
        outcome.result = tentative)

namespace ScriptObjectData

theorem setterResult_of_not_thrown {outcome : Except Error Value} (tentative : Except Error Unit)
    (notThrown : ∀ thrown, outcome ≠ .error (.thrownValue thrown)) : setterResult outcome tentative = tentative := by
  unfold setterResult
  split
  · exact absurd rfl (notThrown _)
  · rfl

section Callbacks

variable {getOld : ScriptObjectData → Except Error Value × ScriptObjectData}
  {callWatcher : Watcher → Value → Value → ScriptObjectData → Except Error Value × ScriptObjectData}
  (execSetter : ObjectRef → Value → ScriptObjectData → Except Error Value × ScriptObjectData)
  {this watched : ScriptObjectData} {caseSensitive : Bool} {name : String} {value stored : Value}
  {tentative : Except Error Unit}

theorem setLocal_of_watched
    (step : this.watchedValue caseSensitive name value getOld callWatcher = (.ok (stored, tentative), watched)) :
    this.setLocal caseSensitive name value getOld callWatcher execSetter =
      match (watched.upsertValue caseSensitive name stored).2 with
      | some setter =>
        ⟨(execSetter setter stored (watched.upsertValue caseSensitive name stored).1).2, some (setter, stored),
          setterResult (execSetter setter stored (watched.upsertValue caseSensitive name stored).1).1 tentative⟩
      | none => ⟨(watched.upsertValue caseSensitive name stored).1, none, tentative⟩ := by
  unfold setLocal; rw [step]

theorem runs_handed_setter (written : ScriptObjectData) (handed : Option ObjectRef) :
    let outcome : SetLocalOutcome := match handed with
      | some setter => ⟨(execSetter setter stored written).2, some (setter, stored),
          setterResult (execSetter setter stored written).1 tentative⟩
      | none => ⟨written, none, tentative⟩
    outcome.setterCall = handed.map (·, stored) ∧
    (outcome.setterCall = none → outcome.this = written ∧ outcome.result = tentative) ∧
    ∀ setter, outcome.setterCall = some (setter, stored) →
      outcome.this = (execSetter setter stored written).2 ∧
      (∀ thrown, (execSetter setter stored written).1 = .error (.thrownValue thrown) →
        outcome.result = .error (.thrownValue thrown)) ∧
      ((∀ thrown, (execSetter setter stored written).1 ≠ .error (.thrownValue thrown)) →
        outcome.result = tentative) := by
  cases handed with
  | none => simp
  | some setter =>
    refine ⟨rfl, fun called => (nomatch called), fun _ called => ?_⟩
    cases called
    exact ⟨rfl, fun thrown threw => by simp [setterResult, threw],
      fun notThrown => setterResult_of_not_thrown _ notThrown⟩

theorem setLocal_writes
    (step : this.watchedValue caseSensitive name value getOld callWatcher = (.ok (stored, tentative), watched)) :
    WritesSlot watched caseSensitive name stored tentative execSetter
      (this.setLocal caseSensitive name value getOld callWatcher execSetter) := by
  have slots := watched.slot_upsertValue caseSensitive name stored
  have handed := watched.upsertValue_setter caseSensitive name stored
  obtain ⟨called, ranNone, ranSome⟩ := @runs_handed_setter execSetter stored tentative
    (watched.upsertValue caseSensitive name stored).1 (watched.upsertValue caseSensitive name stored).2
  rw [setLocal_of_watched execSetter step]
  unfold WritesSlot
  refine ⟨(watched.upsertValue caseSensitive name stored).1, ?_⟩
  cases probed : watched.values.find? name caseSensitive with
  | none =>
    simp only [probed] at slots handed
    refine ⟨fun _ _ _ found => (nomatch found), fun _ _ _ _ found => (nomatch found), fun _ => by simp [slots],
      fun key other => ?_, by simp, by simp, by simp, by rw [called, handed]; rfl, ranNone, ranSome⟩
    simp only [Option.map_none', Option.getD_none] at other
    simp [slots, other]
  | some entry =>
    obtain ⟨found, property⟩ := entry
    simp only [probed] at slots handed
    refine ⟨fun _ _ attributes same => ?_, fun _ _ _ _ same => ?_, fun absent => (nomatch absent), fun key other => ?_,
      by simp, by simp, by simp, ?_, ranNone, ranSome⟩
    · cases same
      by_cases readOnly : attributes.readOnly <;> simp [slots, Property.set, readOnly]
    · cases same
      simp [slots, Property.set]
    · have moved : key ≠ found := by simpa using other
      simp [slots, moved]
    · rw [called, handed]
      rcases property with _ | ⟨_, _ | _, _⟩ <;> rfl

end Callbacks

end ScriptObjectData

/-- `set_local` writes the watcher's value through the slot and its setter, for every object and run. -/
theorem set_local_writes_through_watcher_and_setter (this : ScriptObjectData) (caseSensitive : Bool)
    (name : String) (value : Value) (getOld : ScriptObjectData → Except Error Value × ScriptObjectData)
    (callWatcher : Watcher → Value → Value → ScriptObjectData → Except Error Value × ScriptObjectData)
    (execSetter : ObjectRef → Value → ScriptObjectData → Except Error Value × ScriptObjectData) :
    let outcome := this.setLocal caseSensitive name value getOld callWatcher execSetter
    (this.watchers.get name caseSensitive = none →
      WritesSlot this caseSensitive name value (.ok ()) execSetter outcome) ∧
    ∀ watcher, this.watchers.get name caseSensitive = some watcher →
      match getOld this with
      | (.error error, read) => outcome = ⟨read, none, .error error⟩
      | (.ok oldValue, read) =>
        match callWatcher watcher oldValue value read with
        | (.ok returned, watched) => WritesSlot watched caseSensitive name returned (.ok ()) execSetter outcome
        | (.error (.thrownValue thrown), watched) =>
          WritesSlot watched caseSensitive name .undefined (.error (.thrownValue thrown)) execSetter outcome
        | (.error .other, watched) => WritesSlot watched caseSensitive name .undefined (.ok ()) execSetter outcome := by
  refine ⟨fun unwatched => ScriptObjectData.setLocal_writes execSetter ?_, fun watcher watchedBy => ?_⟩
  · simp [ScriptObjectData.watchedValue, unwatched]
  rcases reading : getOld this with ⟨_ | oldValue, read⟩
  · simp [ScriptObjectData.setLocal, ScriptObjectData.watchedValue, watchedBy, reading]
  · dsimp only
    rcases called : callWatcher watcher oldValue value read with ⟨_ | returned, watched⟩
    · rename_i error
      cases error <;> refine ScriptObjectData.setLocal_writes execSetter ?_ <;>
        simp [ScriptObjectData.watchedValue, watchedBy, reading, called]
    · refine ScriptObjectData.setLocal_writes execSetter ?_
      simp [ScriptObjectData.watchedValue, watchedBy, reading, called]

/-- A read after `set_local` of a slot that is not virtual sees the value the write stored. -/
theorem get_local_after_set_local (this : ScriptObjectData) (caseSensitive : Bool) (name : String)
    (value : Value) (getOld : ScriptObjectData → Except Error Value × ScriptObjectData)
    (callWatcher : Watcher → Value → Value → ScriptObjectData → Except Error Value × ScriptObjectData)
    (execSetter : ObjectRef → Value → ScriptObjectData → Except Error Value × ScriptObjectData)
    (execGetter : ObjectRef → Option (Except Error Value)) {watched : ScriptObjectData} {stored : Value}
    {tentative : Except Error Unit}
    (step : this.watchedValue caseSensitive name value getOld callWatcher = (.ok (stored, tentative), watched))
    (notVirtual : ∀ key get set attributes,
      watched.values.find? name caseSensitive ≠ some (key, .virtual get set attributes)) :
    (this.setLocal caseSensitive name value getOld callWatcher execSetter).this.getLocal caseSensitive
        name execGetter =
      some (.ok (match watched.values.find? name caseSensitive with
        | some (_, .stored old attributes) => if attributes.readOnly then old else stored
        | _ => stored)) := by
  rw [ScriptObjectData.setLocal_of_watched execSetter step, ScriptObjectData.upsertValue_setter]
  unfold ScriptObjectData.getLocal
  cases probed : watched.values.find? name caseSensitive with
  | none => simp [ScriptObjectData.get_upsertValue, probed]
  | some entry =>
    obtain ⟨found, property⟩ := entry
    cases property with
    | stored old attributes =>
      by_cases readOnly : attributes.readOnly <;>
        simp [ScriptObjectData.get_upsertValue, probed, Property.set, readOnly]
    | virtual get set attributes => exact absurd probed (notVirtual found get set attributes)

def watchedObject : ScriptObjectData :=
  (ScriptObject.object none).setWatcher true "x" 0 .undefined

theorem get_local_after_set_local_through_watcher :
    watchedObject.watchedValue true "x" (.bool true) (fun object => (.ok .undefined, object))
        (fun _ _ _ object => (.ok (.bool false), object)) = (.ok (.bool false, .ok ()), watchedObject) ∧
      (∀ key get set attributes,
        watchedObject.values.find? "x" true ≠ some (key, .virtual get set attributes)) ∧
      (watchedObject.setLocal true "x" (.bool true) (fun object => (.ok .undefined, object))
          (fun _ _ _ object => (.ok (.bool false), object)) (fun _ _ object => (.ok .undefined, object))).this.getLocal
          true "x" (fun _ => none) =
        some (.ok (match watchedObject.values.find? "x" true with
          | some (_, .stored old attributes) => if attributes.readOnly then old else .bool false
          | _ => .bool false)) :=
  have step : watchedObject.watchedValue true "x" (.bool true) (fun object => (.ok .undefined, object))
      (fun _ _ _ object => (.ok (.bool false), object)) = (.ok (.bool false, .ok ()), watchedObject) := rfl
  have vacant : ∀ key get set attributes,
      watchedObject.values.find? "x" true ≠ some (key, .virtual get set attributes) :=
    fun _ _ _ _ found => nomatch found
  ⟨step, vacant, get_local_after_set_local watchedObject true "x" (.bool true) _ _
    (fun _ _ object => (.ok .undefined, object)) (fun _ => none) step vacant⟩

/-- `call_setter` hands back the setter `set_local` runs, with the same value. -/
theorem call_setter_agrees_with_set_local (this : ScriptObjectData) (caseSensitive : Bool)
    (name : String) (value : Value) (getOld : ScriptObjectData → Except Error Value × ScriptObjectData)
    (callWatcher : Watcher → Value → Value → ScriptObjectData → Except Error Value × ScriptObjectData)
    (execSetter : ObjectRef → Value → ScriptObjectData → Except Error Value × ScriptObjectData) :
    (this.setLocal caseSensitive name value getOld callWatcher execSetter).setterCall =
      match this.watchedValue caseSensitive name value getOld callWatcher with
      | (.error _, _) => none
      | (.ok (stored, _), watched) => (watched.callSetter caseSensitive name stored).map (·, stored) := by
  rcases step : this.watchedValue caseSensitive name value getOld callWatcher with ⟨_ | ⟨stored, _⟩, watched⟩
  · simp [ScriptObjectData.setLocal, step]
  · rw [ScriptObjectData.setLocal_of_watched execSetter step]
    have handed := watched.upsertValue_setter caseSensitive name stored
    unfold ScriptObjectData.callSetter PropertyMap.get
    rcases probed : watched.values.find? name caseSensitive with _ | ⟨_, _ | ⟨_, _ | setter, _⟩⟩ <;>
      simp only [probed, Property.set] at handed <;> simp [handed, probed, Property.set, Property.isVirtual]

namespace ScriptObjectData

theorem getLocal_of_get {this that : ScriptObjectData} {caseSensitive : Bool} {name : String}
    (same : this.values.get name caseSensitive = that.values.get name caseSensitive)
    (execGetter : ObjectRef → Option (Except Error Value)) :
    this.getLocal caseSensitive name execGetter = that.getLocal caseSensitive name execGetter := by
  unfold getLocal; rw [same]

theorem getLocal_of_stored {this : ScriptObjectData} {caseSensitive : Bool} {name : String}
    {value : Value} {attributes : Attribute}
    (stored : this.values.get name caseSensitive = some (.stored value attributes))
    (execGetter : ObjectRef → Option (Except Error Value)) :
    this.getLocal caseSensitive name execGetter = some (.ok value) := by
  unfold getLocal; rw [stored]

theorem get_defineValue (this : ScriptObjectData) (name : String) (value : Value)
    (attributes : Attribute) :
    (this.defineValue name value attributes).values.get name true = some (.stored value attributes) ∧
      (this.defineValue name value attributes).values.get name false =
        match this.values.find? name false with
        | some (key, property) => if key = name then some (.stored value attributes) else some property
        | none => some (.stored value attributes) := by
  have exact : ∀ {key : String}, namesMatch true key name = true → key = name := by
    simp [namesMatch]
  unfold defineValue PropertyMap.insert
  split
  next key old found =>
    obtain rfl := exact (PropertyMap.find?_slot found).2
    refine ⟨by simp [PropertyMap.get, PropertyMap.find?_modify, found], ?_⟩
    cases probed : this.values.find? key false with
    | none =>
      have := PropertyMap.find?_eq_none.mp probed _ (PropertyMap.find?_mem found).1
      simp [namesMatch_self] at this
    | some entry =>
      obtain ⟨other, property⟩ := entry
      by_cases same : other = key <;> simp [PropertyMap.get, PropertyMap.find?_modify, probed, same]
  next vacant =>
    refine ⟨by simp [PropertyMap.get, PropertyMap.find?_append_self vacant], ?_⟩
    cases probed : this.values.find? name false with
    | none => simp [PropertyMap.get, PropertyMap.find?_append, probed, namesMatch_self]
    | some entry =>
      obtain ⟨other, property⟩ := entry
      have differs : other ≠ name := fun same => by
        have := PropertyMap.find?_eq_none.mp vacant _ (PropertyMap.find?_mem probed).1
        simp [same, namesMatch_self] at this
      simp [PropertyMap.get, PropertyMap.find?_append, probed, differs]

end ScriptObjectData

theorem get_local_after_define_value (this : ScriptObjectData) (name : String) (value : Value)
    (attributes : Attribute) (execGetter : ObjectRef → Option (Except Error Value)) :
    (this.defineValue name value attributes).getLocal true name execGetter = some (.ok value) ∧
      (this.defineValue name value attributes).getLocal false name execGetter =
        match this.values.find? name false with
        | some (key, _) => if key = name then some (.ok value) else this.getLocal false name execGetter
        | none => some (.ok value) := by
  obtain ⟨sensitive, insensitive⟩ := this.get_defineValue name value attributes
  refine ⟨ScriptObjectData.getLocal_of_stored sensitive execGetter, ?_⟩
  cases probed : this.values.find? name false with
  | none =>
    rw [probed] at insensitive
    exact ScriptObjectData.getLocal_of_stored insensitive execGetter
  | some entry =>
    obtain ⟨key, property⟩ := entry
    rw [probed] at insensitive
    dsimp only at insensitive ⊢
    by_cases same : key = name
    · rw [if_pos same] at insensitive ⊢
      exact ScriptObjectData.getLocal_of_stored insensitive execGetter
    · rw [if_neg same] at insensitive ⊢
      have before : this.values.get name false = some property := by simp [PropertyMap.get, probed]
      exact ScriptObjectData.getLocal_of_get (insensitive.trans before.symm) execGetter

/-! `set_attributes` on one name probes case-insensitively whatever the content's policy. -/

theorem ScriptObjectData.slot_setAttributes_some (this : ScriptObjectData) (name : String) (set clear : Attribute)
    (key : String) :
    (this.setAttributes (some name) set clear).values.slot key =
      match this.values.find? name false with
      | some (found, _) =>
        if key = found then (this.values.slot key).map fun property =>
          property.setAttributes (property.attributes.update set clear)
        else this.values.slot key
      | none => this.values.slot key := by
  simp only [ScriptObjectData.setAttributes]
  cases this.values.find? name false with
  | none => rfl
  | some entry => exact PropertyMap.slot_modify _ _ _ _

def capitalizedSlotObject : ScriptObjectData :=
  (ScriptObject.object none).defineValue "Foo" (.bool true) .empty

/-- In case-sensitive content `set_attributes` of `"foo"` hides the slot `"Foo"` no lookup finds. -/
theorem set_attributes_changes_case_variant :
    capitalizedSlotObject.hasOwnProperty true "foo" = false ∧
    capitalizedSlotObject.getLocal true "foo" (fun _ => none) = none ∧
    (capitalizedSlotObject.setAttributes (some "foo") .hidden .empty).values.slot "Foo" =
      some (.stored (.bool true) .hidden) :=
  ⟨by decide, rfl, by decide⟩

end Avm1
