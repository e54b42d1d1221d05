import RuffleAvm1.Object.ScriptObject

/-! The operations that follow `proto()`: `has_property` and `get_keys`. They recurse on the
prototype object, which `set_proto` may make any object, so the walk is given `fuel` calls and answers
`none` when they run out. -/

namespace Avm1

def Heap := ObjectRef → ScriptObjectData

namespace Heap

/-- `has_property`: the object's own slot (or `"__proto__"`), else its prototype's answer. -/
def hasProperty (heap : Heap) (caseSensitive : Bool) (name : String) : Nat → ObjectRef → Option Bool
  | 0, _ => none
  | fuel + 1, object =>
    if (heap object).hasOwnProperty caseSensitive name then some true
    else
      match (heap object).proto with
      | .object proto => hasProperty heap caseSensitive name fuel proto
      | _ => some false

/-- `get_keys`: the prototype's keys that no own slot matches, then the own enumerable keys. -/
def getKeys (heap : Heap) (caseSensitive : Bool) : Nat → ObjectRef → Option (List String)
  | 0, _ => none
  | fuel + 1, object =>
    let protoKeys :=
      match (heap object).proto with
      | .object proto => getKeys heap caseSensitive fuel proto
      | _ => some []
    protoKeys.map fun keys =>
      keys.filter (fun key => !(heap object).values.containsKey key caseSensitive) ++
        (heap object).ownEnumerableKeys

/-- `objects` is the prototype chain from `object`, nearest first, ending where a prototype is no object. -/
inductive Chain (heap : Heap) : ObjectRef → List ObjectRef → Prop
  | last {object : ObjectRef} : (∀ proto, (heap object).proto ≠ .object proto) → Chain heap object [object]
  | link {object proto : ObjectRef} {rest : List ObjectRef} : (heap object).proto = .object proto →
      Chain heap proto rest → Chain heap object (object :: rest)

end Heap

def ownsSlot (caseSensitive : Bool) (object : ScriptObjectData) (key : String) : Bool :=
  object.values.keys.any fun own => namesMatch caseSensitive own key

def enumerableKeys (object : ScriptObjectData) : List String :=
  (object.values.entries.filter fun entry => !entry.2.attributes.dontEnum).map Prod.fst

/-- The keys the chain shows: each object's enumerable keys that no nearer object owns a slot for. -/
def visibleKeys (caseSensitive : Bool) : List ScriptObjectData → List ScriptObjectData → List String
  | _, [] => []
  | nearer, object :: farther =>
    visibleKeys caseSensitive (nearer ++ [object]) farther ++
      (enumerableKeys object).filter fun key => nearer.all fun o => !ownsSlot caseSensitive o key

theorem containsKey_eq_ownsSlot (caseSensitive : Bool) (object : ScriptObjectData) (key : String) :
    object.values.containsKey key caseSensitive = ownsSlot caseSensitive object key := by
  rw [Bool.eq_iff_iff]
  simp [PropertyMap.containsKey, PropertyMap.find?, ownsSlot, PropertyMap.keys]

theorem ScriptObjectData.ownEnumerableKeys_eq (this : ScriptObjectData) :
    this.ownEnumerableKeys = enumerableKeys this := by
  show _ = (this.values.entries.filter fun entry => entry.2.isEnumerable).map Prod.fst
  unfold ScriptObjectData.ownEnumerableKeys
  induction this.values.entries with
  | nil => rfl
  | cons entry rest ih => by_cases shown : entry.2.isEnumerable <;> simp [shown, ih]

theorem ownsSlot_of_mem {object : ScriptObjectData} {key : String} (member : key ∈ object.values.keys)
    (caseSensitive : Bool) : ownsSlot caseSensitive object key = true :=
  List.any_eq_true.mpr ⟨key, member, namesMatch_self _ _⟩

theorem enumerableKeys_sublist (object : ScriptObjectData) : (enumerableKeys object).Sublist object.values.keys :=
  (List.filter_sublist _).map _

theorem filter_visibleKeys (caseSensitive : Bool) (extra nearer objects : List ScriptObjectData) :
    (visibleKeys caseSensitive nearer objects).filter
        (fun key => extra.all fun o => !ownsSlot caseSensitive o key) =
      visibleKeys caseSensitive (extra ++ nearer) objects := by
  induction objects generalizing nearer with
  | nil => rfl
  | cons object farther ih =>
    simp only [visibleKeys, List.filter_append, ih, List.filter_filter, List.all_append, List.append_assoc]

theorem visibleKeys_nodup (caseSensitive : Bool) (nearer objects : List ScriptObjectData) :
    (visibleKeys caseSensitive nearer objects).Nodup ∧
      ∀ key ∈ visibleKeys caseSensitive nearer objects, ∀ o ∈ nearer, ownsSlot caseSensitive o key = false := by
  induction objects generalizing nearer with
  | nil => simp [visibleKeys]
  | cons object farther ih =>
    obtain ⟨nodup, hidden⟩ := ih (nearer ++ [object])
    have own : ((enumerableKeys object).filter fun key =>
        nearer.all fun o => !ownsSlot caseSensitive o key).Sublist object.values.keys :=
      (List.filter_sublist _).trans (enumerableKeys_sublist object)
    refine ⟨List.nodup_append.mpr ⟨nodup, own.nodup object.values.keysNodup, ?_⟩, ?_⟩
    · intro key farKey nearKey
      have matched := ownsSlot_of_mem (own.subset nearKey) caseSensitive
      rw [hidden key farKey object (by simp)] at matched
      cases matched
    · intro key member o nearerObject
      rcases List.mem_append.mp member with farKey | nearKey
      · exact hidden key farKey o (List.mem_append_left _ nearerObject)
      · have := (List.mem_filter.mp nearKey).2
        simpa using List.all_eq_true.mp this o nearerObject

namespace Heap

theorem Chain.head {heap : Heap} {object : ObjectRef} {objects : List ObjectRef}
    (chain : Chain heap object objects) : ∃ rest, objects = object :: rest := by
  cases chain <;> exact ⟨_, rfl⟩

theorem getKeys_of_chain {heap : Heap} {object : ObjectRef} {objects : List ObjectRef}
    (chain : Chain heap object objects) (caseSensitive : Bool) :
    heap.getKeys caseSensitive objects.length object =
      some (visibleKeys caseSensitive [] (objects.map heap)) := by
  induction chain with
  | last ends =>
    cases proto : (heap _).proto with
    | object proto' => exact absurd proto (ends proto')
    | _ => simp [getKeys, proto, visibleKeys, ScriptObjectData.ownEnumerableKeys_eq]
  | @link object proto rest linked _ ih =>
    have hidden := filter_visibleKeys caseSensitive [heap object] [] (rest.map heap)
    simp only [List.append_nil, List.all_cons, List.all_nil, Bool.and_true] at hidden
    simp only [List.length_cons, getKeys, linked, ih, Option.map_some', List.map_cons, visibleKeys,
      List.nil_append, List.all_nil, List.filter_true, containsKey_eq_ownsSlot,
      ScriptObjectData.ownEnumerableKeys_eq, hidden]

theorem hasProperty_mono {heap : Heap} {caseSensitive : Bool} {name : String} {fuel fuel' : Nat}
    {object : ObjectRef} {answer : Bool} (answered : heap.hasProperty caseSensitive name fuel object = some answer)
    (more : fuel ≤ fuel') : heap.hasProperty caseSensitive name fuel' object = some answer := by
  induction fuel generalizing fuel' object with
  | zero => simp [hasProperty] at answered
  | succ fuel ih =>
    obtain ⟨fuel', rfl⟩ : ∃ k, fuel' = k + 1 := ⟨fuel' - 1, by omega⟩
    by_cases own : (heap object).hasOwnProperty caseSensitive name
    · simp_all [hasProperty]
    · simp only [hasProperty, own, Bool.false_eq_true, ite_false] at answered ⊢
      cases proto : (heap object).proto <;> simp only [proto] at answered ⊢ <;>
        first | exact answered | exact ih answered (by omega)

theorem getKeys_mono {heap : Heap} {caseSensitive : Bool} {fuel fuel' : Nat} {object : ObjectRef}
    {keys : List String} (answered : heap.getKeys caseSensitive fuel object = some keys) (more : fuel ≤ fuel') :
    heap.getKeys caseSensitive fuel' object = some keys := by
  induction fuel generalizing fuel' object keys with
  | zero => simp [getKeys] at answered
  | succ fuel ih =>
    obtain ⟨fuel', rfl⟩ : ∃ k, fuel' = k + 1 := ⟨fuel' - 1, by omega⟩
    simp only [getKeys] at answered ⊢
    cases proto : (heap object).proto <;> simp only [proto] at answered ⊢ <;> try exact answered
    obtain ⟨protoKeys, found, rfl⟩ := Option.map_eq_some'.mp answered
    rw [ih found (by omega)]
    rfl

theorem hasProperty_of_chain {heap : Heap} {object : ObjectRef} {objects : List ObjectRef}
    (chain : Chain heap object objects) (caseSensitive : Bool) (name : String) :
    (heap.hasProperty caseSensitive name objects.length object).isSome := by
  induction chain with
  | @last object ends =>
    by_cases own : (heap object).hasOwnProperty caseSensitive name
    · simp [hasProperty, own]
    · cases proto : (heap object).proto with
      | object proto' => exact absurd proto (ends proto')
      | _ => simp [hasProperty, own, proto]
  | @link object proto rest linked _ ih =>
    by_cases own : (heap object).hasOwnProperty caseSensitive name
    · simp [hasProperty, own]
    · simpa [hasProperty, own, linked] using ih

theorem chain_of_getKeys {heap : Heap} {caseSensitive : Bool} {fuel : Nat} {object : ObjectRef}
    {keys : List String} (answered : heap.getKeys caseSensitive fuel object = some keys) :
    ∃ objects, Chain heap object objects := by
  induction fuel generalizing object keys with
  | zero => simp [getKeys] at answered
  | succ fuel ih =>
    simp only [getKeys] at answered
    cases proto : (heap object).proto with
    | object proto' =>
      simp only [proto] at answered
      obtain ⟨protoKeys, found, -⟩ := Option.map_eq_some'.mp answered
      obtain ⟨rest, chain⟩ := ih found
      exact ⟨_, .link proto chain⟩
    | _ => exact ⟨_, .last fun _ => by simp [proto]⟩

end Heap

def selfLoopHeap : Heap :=
  fun _ => (ScriptObject.object none).setProto (.object 0)

theorem selfLoop_walks_run_out (fuel : Nat) :
    selfLoopHeap.hasProperty false "x" fuel 0 = none ∧ selfLoopHeap.getKeys false fuel 0 = none := by
  induction fuel with
  | zero => exact ⟨rfl, rfl⟩
  | succ fuel ih =>
    have own : (selfLoopHeap 0).hasOwnProperty false "x" = false := by decide
    have proto : (selfLoopHeap 0).proto = .object 0 := rfl
    simp [Heap.hasProperty, Heap.getKeys, own, proto, ih.1, ih.2]

/-- On a prototype cycle neither `has_property` nor `get_keys` ever returns. -/
theorem self_prototype_walks_never_end :
    ¬ ∃ fuel, (selfLoopHeap.hasProperty false "x" fuel 0).isSome ∨ (selfLoopHeap.getKeys false fuel 0).isSome := by
  rintro ⟨fuel, returns⟩
  simp [(selfLoop_walks_run_out fuel).1, (selfLoop_walks_run_out fuel).2] at returns

/-- `get_keys` ends exactly when the prototype chain does, within as many calls as it has objects. -/
theorem walks_end_exactly_when_chain_ends (heap : Heap) (caseSensitive : Bool) (object : ObjectRef) :
    ((∃ fuel keys, heap.getKeys caseSensitive fuel object = some keys) ↔ ∃ objects, heap.Chain object objects) ∧
      ∀ objects, heap.Chain object objects → ∀ name fuel, objects.length ≤ fuel →
        (heap.hasProperty caseSensitive name fuel object).isSome ∧
          (heap.getKeys caseSensitive fuel object).isSome := by
  refine ⟨⟨fun ⟨_, _, answered⟩ => Heap.chain_of_getKeys answered, fun ⟨objects, chain⟩ =>
    ⟨_, _, Heap.getKeys_of_chain chain caseSensitive⟩⟩, fun objects chain name fuel enough => ⟨?_, ?_⟩⟩
  · obtain ⟨answer, answered⟩ := Option.isSome_iff_exists.mp (Heap.hasProperty_of_chain chain caseSensitive name)
    simp [Heap.hasProperty_mono answered enough]
  · simp [Heap.getKeys_mono (Heap.getKeys_of_chain chain caseSensitive) enough]

/-- Over a chain that ends, `get_keys` lists the visible keys, none twice. -/
theorem getKeys_lists_visible_keys {heap : Heap} {object : ObjectRef} {objects : List ObjectRef}
    (chain : heap.Chain object objects) (caseSensitive : Bool) :
    (∀ fuel, objects.length ≤ fuel →
      heap.getKeys caseSensitive fuel object = some (visibleKeys caseSensitive [] (objects.map heap))) ∧
    (visibleKeys caseSensitive [] (objects.map heap)).Nodup ∧
    ∀ key ∈ visibleKeys caseSensitive [] (objects.map heap),
      key ∈ enumerableKeys (heap object) ∨ ownsSlot caseSensitive (heap object) key = false := by
  refine ⟨fun fuel enough => Heap.getKeys_mono (Heap.getKeys_of_chain chain caseSensitive) enough,
    (visibleKeys_nodup caseSensitive [] _).1, fun key member => ?_⟩
  obtain ⟨rest, rfl⟩ := chain.head
  simp only [List.map_cons, visibleKeys, List.nil_append, List.all_nil, List.filter_true] at member
  rcases List.mem_append.mp member with inherited | own
  · exact .inr ((visibleKeys_nodup caseSensitive [heap object] _).2 key inherited _ (List.mem_singleton_self _))
  · exact .inl own

def twoLevelHeap : Heap
  | 0 => ((ScriptObject.object (some 1)).defineValue "A" (.bool true) .hidden).defineValue "c" (.bool true) .empty
  | _ => ((ScriptObject.object none).defineValue "a" (.bool true) .empty).defineValue "b" (.bool true) .empty

theorem getKeys_lists_visible_keys_of_two_levels :
    twoLevelHeap.Chain 0 [0, 1] ∧
    visibleKeys false [] ([0, 1].map twoLevelHeap) = ["b", "c"] ∧
    ((∀ fuel, [0, 1].length ≤ fuel →
      twoLevelHeap.getKeys false fuel 0 = some (visibleKeys false [] ([0, 1].map twoLevelHeap))) ∧
    (visibleKeys false [] ([0, 1].map twoLevelHeap)).Nodup ∧
    ∀ key ∈ visibleKeys false [] ([0, 1].map twoLevelHeap),
      key ∈ enumerableKeys (twoLevelHeap 0) ∨ ownsSlot false (twoLevelHeap 0) key = false) :=
  have chain : twoLevelHeap.Chain 0 [0, 1] := .link rfl (.last fun _ linked => by cases linked)
  ⟨chain, by decide, getKeys_lists_visible_keys chain false⟩

end Avm1
