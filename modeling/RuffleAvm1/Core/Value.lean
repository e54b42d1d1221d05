import RuffleAvm1.Core.Names
import Mathlib.Algebra.Order.Ring.Unbundled.Rat

/-! Values, failures, attributes, property slots and watchers. -/

namespace Avm1

/-- An `f64` as the object model compares it: NaN, an infinity, or a finite value. -/
inductive Number where
  | nan
  | negativeInfinity
  | finite (value : ℚ)
  | infinity
  deriving DecidableEq, Repr

abbrev ObjectRef := Nat

inductive Value where
  | undefined
  | null
  | bool (value : Bool)
  | number (value : Number)
  | string (value : String)
  | object (value : ObjectRef)
  deriving DecidableEq, Repr

def Value.ofNat (n : Nat) : Value :=
  .number (.finite n)

inductive Error where
  | thrownValue (value : Value)
  | other
  deriving DecidableEq, Repr

/-- Modelled from the spec (§3), property.rs being absent: the `Attribute` bit set. -/
structure Attribute where
  dontEnum : Bool
  dontDelete : Bool
  readOnly : Bool
  deriving DecidableEq, Repr

namespace Attribute

def empty : Attribute := ⟨false, false, false⟩

def hidden : Attribute := ⟨true, false, false⟩

def update (old set clear : Attribute) : Attribute :=
  ⟨old.dontEnum && !clear.dontEnum || set.dontEnum,
    old.dontDelete && !clear.dontDelete || set.dontDelete,
    old.readOnly && !clear.readOnly || set.readOnly⟩

end Attribute

/-- Modelled from the spec, property.rs being absent: a stored value, or a getter and optional setter. -/
inductive Property where
  | stored (value : Value) (attributes : Attribute)
  | virtual (get : ObjectRef) (set : Option ObjectRef) (attributes : Attribute)
  deriving DecidableEq, Repr

namespace Property

def attributes : Property → Attribute
  | stored _ attributes | virtual _ _ attributes => attributes

def setAttributes (attributes : Attribute) : Property → Property
  | stored value _ => stored value attributes
  | virtual get set _ => virtual get set attributes

def isVirtual : Property → Bool
  | stored .. => false
  | virtual .. => true

def isEnumerable (property : Property) : Bool :=
  !property.attributes.dontEnum

def canDelete (property : Property) : Bool :=
  !property.attributes.dontDelete

/-- Modelled from the spec: a stored slot takes the value unless READ_ONLY; a virtual one hands back its setter. -/
def set (value : Value) : Property → Property × Option ObjectRef
  | stored old attributes =>
    (if attributes.readOnly then stored old attributes else stored value attributes, none)
  | virtual get set attributes => (virtual get set attributes, set)

@[simp] theorem attributes_setAttributes (attributes : Attribute) (property : Property) :
    (property.setAttributes attributes).attributes = attributes := by
  cases property <;> rfl

@[simp] theorem isVirtual_setAttributes (attributes : Attribute) (property : Property) :
    (property.setAttributes attributes).isVirtual = property.isVirtual := by
  cases property <;> rfl

@[simp] theorem isVirtual_set (value : Value) (property : Property) :
    (property.set value).1.isVirtual = property.isVirtual := by
  cases property with
  | stored old attributes => by_cases h : attributes.readOnly <;> simp [set, h, isVirtual]
  | virtual => rfl

end Property

structure Watcher where
  callback : ObjectRef
  userData : Value
  deriving DecidableEq, Repr

end Avm1
