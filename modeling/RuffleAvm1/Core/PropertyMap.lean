import RuffleAvm1.Core.Names
import Mathlib.Data.List.Nodup

/-! The property map. Its source (property_map.rs) is not part of the repository excerpt; the
map below follows the spec (§3, §4.1). -/

namespace Avm1

/-- Modelled from the spec, property_map.rs being absent: insertion-ordered slots under unique keys. -/
structure PropertyMap (V : Type) where
  entries : List (String × V)
  keysNodup : (entries.map Prod.fst).Nodup

namespace PropertyMap

variable {V : Type}

def empty : PropertyMap V := ⟨[], List.nodup_nil⟩

def keys (map : PropertyMap V) : List String :=
  map.entries.map Prod.fst

def find? (map : PropertyMap V) (name : String) (caseSensitive : Bool) : Option (String × V) :=
  map.entries.find? fun entry => namesMatch caseSensitive entry.1 name

def get (map : PropertyMap V) (name : String) (caseSensitive : Bool) : Option V :=
  (map.find? name caseSensitive).map Prod.snd

def containsKey (map : PropertyMap V) (name : String) (caseSensitive : Bool) : Bool :=
  (map.find? name caseSensitive).isSome

def modify (map : PropertyMap V) (key : String) (f : V → V) : PropertyMap V :=
  ⟨map.entries.map fun entry => if entry.1 = key then (entry.1, f entry.2) else entry, by
    have same : (map.entries.map fun entry => if entry.1 = key then (entry.1, f entry.2)
        else entry).map Prod.fst = map.entries.map Prod.fst := by
      simp only [List.map_map]
      exact List.map_congr_left fun entry _ => by by_cases h : entry.1 = key <;> simp [h]
    exact same ▸ map.keysNodup⟩

def erase (map : PropertyMap V) (key : String) : PropertyMap V :=
  ⟨map.entries.filter fun entry => entry.1 ≠ key, by
    have sub : List.Sublist ((map.entries.filter fun entry => entry.1 ≠ key).map Prod.fst)
        (map.entries.map Prod.fst) := (List.filter_sublist _).map _
    exact sub.nodup map.keysNodup⟩

def append (map : PropertyMap V) (key : String) (value : V) (fresh : key ∉ map.keys) :
    PropertyMap V :=
  ⟨map.entries ++ [(key, value)], by
    simpa [List.nodup_append, keys] using And.intro map.keysNodup fresh⟩

def mapValues (map : PropertyMap V) (f : V → V) : PropertyMap V :=
  ⟨map.entries.map fun entry => (entry.1, f entry.2), by
    simpa [List.map_map, Function.comp_def] using map.keysNodup⟩

theorem not_mem_keys_of_find?_eq_none {map : PropertyMap V} {name : String}
    {caseSensitive : Bool} (vacant : map.find? name caseSensitive = none) : name ∉ map.keys := by
  intro member
  obtain ⟨⟨key, value⟩, entry, rfl⟩ := List.mem_map.mp member
  have := List.find?_eq_none.mp vacant _ entry
  simp [namesMatch_self] at this

def insert (map : PropertyMap V) (name : String) (value : V) (caseSensitive : Bool) :
    PropertyMap V :=
  match h : map.find? name caseSensitive with
  | some (key, _) => map.modify key fun _ => value
  | none => map.append name value (not_mem_keys_of_find?_eq_none h)

def remove (map : PropertyMap V) (name : String) (caseSensitive : Bool) :
    PropertyMap V × Option V :=
  match map.find? name caseSensitive with
  | some (key, value) => (map.erase key, some value)
  | none => (map, none)

theorem find?_mem {map : PropertyMap V} {name key : String} {caseSensitive : Bool} {value : V}
    (found : map.find? name caseSensitive = some (key, value)) :
    (key, value) ∈ map.entries ∧ namesMatch caseSensitive key name = true := by
  have found : map.entries.find? (fun entry => namesMatch caseSensitive entry.1 name) =
    some (key, value) := found
  have answers := List.find?_some found
  exact ⟨List.mem_of_find?_eq_some found, answers⟩

theorem find?_eq_none {map : PropertyMap V} {name : String} {caseSensitive : Bool} :
    map.find? name caseSensitive = none ↔
      ∀ entry ∈ map.entries, namesMatch caseSensitive entry.1 name = false := by
  simp [find?, List.find?_eq_none]

@[simp] theorem mem_modify {map : PropertyMap V} {key name : String} {f : V → V} {value : V} :
    (name, value) ∈ (map.modify key f).entries ↔
      (name ≠ key ∧ (name, value) ∈ map.entries) ∨
        (name = key ∧ ∃ old, (key, old) ∈ map.entries ∧ value = f old) := by
  simp only [modify, List.mem_map, Prod.exists]
  constructor
  · rintro ⟨name', old, member, same⟩
    by_cases h : name' = key
    · simp only [h, ite_true, Prod.mk.injEq] at same
      exact .inr ⟨same.1.symm, old, h ▸ member, same.2.symm⟩
    · simp only [h, ite_false, Prod.mk.injEq] at same
      exact .inl ⟨same.1 ▸ h, same.1 ▸ same.2 ▸ member⟩
  · rintro (⟨other, member⟩ | ⟨rfl, old, member, rfl⟩)
    · exact ⟨name, value, member, by simp [other]⟩
    · exact ⟨name, old, member, by simp⟩

@[simp] theorem mem_erase {map : PropertyMap V} {key name : String} {value : V} :
    (name, value) ∈ (map.erase key).entries ↔ name ≠ key ∧ (name, value) ∈ map.entries := by
  simp [erase, and_comm]

@[simp] theorem mem_append {map : PropertyMap V} {key name : String} {value value' : V}
    {fresh : key ∉ map.keys} :
    (name, value') ∈ (map.append key value fresh).entries ↔
      (name, value') ∈ map.entries ∨ (name = key ∧ value' = value) := by
  simp [append]

@[simp] theorem mem_mapValues {map : PropertyMap V} {f : V → V} {name : String} {value : V} :
    (name, value) ∈ (map.mapValues f).entries ↔ ∃ old, (name, old) ∈ map.entries ∧ value = f old := by
  simp only [mapValues, List.mem_map, Prod.exists, Prod.mk.injEq]
  constructor
  · rintro ⟨name', old, member, rfl, rfl⟩
    exact ⟨old, member, rfl⟩
  · rintro ⟨old, member, rfl⟩
    exact ⟨name, old, member, rfl, rfl⟩

@[simp] theorem keys_modify (map : PropertyMap V) (key : String) (f : V → V) :
    (map.modify key f).keys = map.keys := by
  simp only [keys, modify, List.map_map]
  exact List.map_congr_left fun entry _ => by by_cases h : entry.1 = key <;> simp [h]

@[simp] theorem keys_mapValues (map : PropertyMap V) (f : V → V) :
    (map.mapValues f).keys = map.keys := by
  simp [keys, mapValues, Function.comp_def]

def slot (map : PropertyMap V) (key : String) : Option V :=
  map.entries.lookup key

theorem lookup_cons (key name : String) (value : V) (rest : List (String × V)) :
    ((name, value) :: rest).lookup key = if key = name then some value else rest.lookup key := by
  rw [List.lookup_cons]
  by_cases h : key = name
  · simp [h]
  · have : (key == name) = false := by simpa using h
    simp [h, this]

theorem lookup_map_modify (entries : List (String × V)) (key name : String) (f : V → V) :
    (entries.map fun entry => if entry.1 = key then (entry.1, f entry.2) else entry).lookup name =
      if name = key then (entries.lookup name).map f else entries.lookup name := by
  induction entries with
  | nil => simp [List.lookup_nil]
  | cons entry rest ih =>
    obtain ⟨entryKey, value⟩ := entry
    simp only [List.map_cons]
    by_cases here : entryKey = key
    · subst here
      simp only [ite_true, lookup_cons, ih]
      by_cases asked : name = entryKey <;> simp [asked]
    · simp only [here, ite_false, lookup_cons, ih]
      by_cases asked : name = entryKey
      · subst asked; simp [here]
      · simp [asked]

theorem lookup_filter_ne (entries : List (String × V)) (key name : String) :
    (entries.filter fun entry => entry.1 ≠ key).lookup name =
      if name = key then none else entries.lookup name := by
  induction entries with
  | nil => simp [List.lookup_nil]
  | cons entry rest ih =>
    obtain ⟨entryKey, value⟩ := entry
    by_cases here : entryKey = key
    · subst here
      rw [List.filter_cons_of_neg (by simp), ih]
      by_cases asked : name = entryKey <;> simp [asked, lookup_cons]
    · rw [List.filter_cons_of_pos (by simpa using here), lookup_cons, lookup_cons, ih]
      by_cases asked : name = entryKey
      · subst asked; simp [here]
      · simp [asked]

theorem lookup_append_fresh (entries : List (String × V)) (key name : String) (value : V)
    (absent : entries.lookup key = none) :
    (entries ++ [(key, value)]).lookup name =
      if name = key then some value else entries.lookup name := by
  induction entries with
  | nil => simp only [List.nil_append, lookup_cons]
  | cons entry rest ih =>
    obtain ⟨entryKey, old⟩ := entry
    rw [lookup_cons] at absent
    have other : key ≠ entryKey := fun h => by simp [h] at absent
    rw [if_neg other] at absent
    rw [List.cons_append, lookup_cons, lookup_cons, ih absent]
    by_cases asked : name = entryKey
    · subst asked; simp [Ne.symm other]
    · simp [asked]

theorem lookup_map_values (entries : List (String × V)) (f : V → V) (name : String) :
    (entries.map fun entry => (entry.1, f entry.2)).lookup name = (entries.lookup name).map f := by
  induction entries with
  | nil => simp [List.lookup_nil]
  | cons entry rest ih =>
    obtain ⟨entryKey, value⟩ := entry
    simp only [List.map_cons, lookup_cons, ih]
    by_cases asked : name = entryKey <;> simp [asked]

theorem lookup_of_mem {entries : List (String × V)} (nodup : (entries.map Prod.fst).Nodup)
    {key : String} {value : V} (member : (key, value) ∈ entries) :
    entries.lookup key = some value := by
  induction entries with
  | nil => cases member
  | cons entry rest ih =>
    obtain ⟨name, old⟩ := entry
    simp only [List.map_cons, List.nodup_cons, List.mem_map, Prod.exists, exists_and_right,
      exists_eq_right, not_exists] at nodup
    rw [lookup_cons]
    rcases List.mem_cons.mp member with same | member
    · simp_all
    · have other : key ≠ name := fun h => nodup.1 value (h ▸ member)
      simp [other, ih nodup.2 member]

theorem mem_of_lookup {entries : List (String × V)} {key : String} {value : V}
    (found : entries.lookup key = some value) : (key, value) ∈ entries := by
  induction entries with
  | nil => cases found
  | cons entry rest ih =>
    obtain ⟨name, old⟩ := entry
    rw [lookup_cons] at found
    split at found
    · simp_all
    · exact List.mem_cons_of_mem _ (ih found)

theorem slot_eq_some {map : PropertyMap V} {key : String} {value : V} :
    map.slot key = some value ↔ (key, value) ∈ map.entries :=
  ⟨mem_of_lookup, lookup_of_mem map.keysNodup⟩

theorem slot_isSome {map : PropertyMap V} {key : String} :
    (map.slot key).isSome ↔ key ∈ map.keys := by
  constructor
  · intro some
    obtain ⟨value, found⟩ := Option.isSome_iff_exists.mp some
    exact List.mem_map.mpr ⟨_, slot_eq_some.mp found, rfl⟩
  · intro member
    obtain ⟨⟨key', value⟩, entry, rfl⟩ := List.mem_map.mp member
    simp [slot_eq_some.mpr entry]

theorem find?_slot {map : PropertyMap V} {name key : String} {caseSensitive : Bool} {value : V}
    (found : map.find? name caseSensitive = some (key, value)) :
    map.slot key = some value ∧ namesMatch caseSensitive key name = true :=
  ⟨slot_eq_some.mpr (find?_mem found).1, (find?_mem found).2⟩

@[simp] theorem slot_modify (map : PropertyMap V) (key name : String) (f : V → V) :
    (map.modify key f).slot name = if name = key then (map.slot name).map f else map.slot name :=
  lookup_map_modify _ _ _ _

@[simp] theorem slot_erase (map : PropertyMap V) (key name : String) :
    (map.erase key).slot name = if name = key then none else map.slot name :=
  lookup_filter_ne _ _ _

@[simp] theorem slot_append (map : PropertyMap V) (key name : String) (value : V)
    (fresh : key ∉ map.keys) :
    (map.append key value fresh).slot name = if name = key then some value else map.slot name := by
  apply lookup_append_fresh
  cases found : map.entries.lookup key with
  | none => rfl
  | some old => exact absurd (List.mem_map.mpr ⟨_, mem_of_lookup found, rfl⟩) fresh

@[simp] theorem slot_mapValues (map : PropertyMap V) (f : V → V) (name : String) :
    (map.mapValues f).slot name = (map.slot name).map f :=
  lookup_map_values _ _ _

@[simp] theorem keys_erase (map : PropertyMap V) (key : String) :
    (map.erase key).keys = map.keys.filter (· ≠ key) := by
  simp only [keys, erase, List.filter_map]
  rfl

@[simp] theorem keys_append (map : PropertyMap V) (key : String) (value : V)
    (fresh : key ∉ map.keys) : (map.append key value fresh).keys = map.keys ++ [key] := by
  simp [keys, append]

theorem find?_modify (map : PropertyMap V) (key name : String) (f : V → V) (caseSensitive : Bool) :
    (map.modify key f).find? name caseSensitive =
      (map.find? name caseSensitive).map fun entry =>
        if entry.1 = key then (entry.1, f entry.2) else entry := by
  simp only [find?, modify, List.find?_map]
  congr 2
  funext entry
  by_cases here : entry.1 = key <;> simp [here]

theorem find?_append {map : PropertyMap V} (key name : String) (value : V) (fresh : key ∉ map.keys)
    (caseSensitive : Bool) :
    (map.append key value fresh).find? name caseSensitive =
      (map.find? name caseSensitive).or
        (if namesMatch caseSensitive key name then some (key, value) else none) := by
  simp only [find?, append, List.find?_append, List.find?_singleton]

theorem find?_append_self {map : PropertyMap V} {name : String} {caseSensitive : Bool} {value : V}
    (vacant : map.find? name caseSensitive = none) (fresh : name ∉ map.keys) :
    (map.append name value fresh).find? name caseSensitive = some (name, value) := by
  rw [find?_append, vacant]
  simp [namesMatch_self]

end PropertyMap

end Avm1
