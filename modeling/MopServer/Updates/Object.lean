import Mathlib.Logic.Function.Basic
import MopServer.Foundation.MaskWord
import MopServer.Packets.Codec

/-! # The update fields of an object

An object has a fixed number of fields of 32 bits and of tabs of 32 dynamic fields.  Every setter
marks what it changes, and registers an object in the world for the next update.
-/

namespace MopServer.Updates

open MopServer.Foundation MopServer.Packets

/-- `DynamicFields`, a tab of 32 fields. -/
structure DynamicFields where
  values : Fin 32 → UInt32
  changed : Fin 32 → Bool

structure Object (valuesCount dynamicTabCount : Nat) where
  uint32Values : Fin valuesCount → UInt32
  changedFields : Fin valuesCount → Bool
  dynamicFields : Fin dynamicTabCount → DynamicFields
  fieldNotifyFlags : UInt16
  inWorld : Bool
  objectUpdated : Bool

namespace DynamicFields

variable (fields : DynamicFields)

/-- `SetValue` and `MarkAsChanged`. -/
def write (index : Fin 32) (value : UInt32) : DynamicFields :=
  { values := Function.update fields.values index value
    changed := Function.update fields.changed index true }

def clearMask : DynamicFields := { fields with changed := fun _ => false }

end DynamicFields

namespace Object

variable {valuesCount dynamicTabCount : Nat} (object : Object valuesCount dynamicTabCount)

/-- `AddToObjectUpdateIfNeeded`. -/
def addToObjectUpdateIfNeeded : Object valuesCount dynamicTabCount :=
  if object.inWorld && !object.objectUpdated then { object with objectUpdated := true } else object

/-- `ClearUpdateMask`. -/
def clearUpdateMask : Object valuesCount dynamicTabCount :=
  { object with
    changedFields := fun _ => false
    dynamicFields := if object.objectUpdated then fun tab => (object.dynamicFields tab).clearMask
      else object.dynamicFields
    objectUpdated := false }

/-- `AddToWorld`; it asserts that the object is not registered. -/
def addToWorld : Option (Object valuesCount dynamicTabCount) :=
  if object.inWorld then some object
  else if object.objectUpdated then none
  else some { object with inWorld := true }.clearUpdateMask

/-! ## Setters -/

def write (index : Fin valuesCount) (value : UInt32) : Object valuesCount dynamicTabCount :=
  { object with
    uint32Values := Function.update object.uint32Values index value
    changedFields := Function.update object.changedFields index true }

variable (index : UInt16)

/-- A setter of one field asserts the index, and writes if the old value is one to be replaced. -/
def setField (replaced : UInt32 → Bool) (value : UInt32 → UInt32) :
    Option (Object valuesCount dynamicTabCount) :=
  if hindex : index.toNat < valuesCount then
    let old := object.uint32Values ⟨index.toNat, hindex⟩
    some (if replaced old then
      (object.write ⟨index.toNat, hindex⟩ (value old)).addToObjectUpdateIfNeeded else object)
  else none

def setUInt32Value (value : UInt32) (forced : Bool) : Option (Object valuesCount dynamicTabCount) :=
  object.setField index (fun old => old ≠ value || forced) fun _ => value

def setInt32Value (value : Int32) : Option (Object valuesCount dynamicTabCount) :=
  object.setField index (fun old => old.toInt32 ≠ value) fun _ => value.toUInt32

/-- The bits of a field from a byte or a half on; a shift by 32 is one by 0. -/
def partOf (value : UInt32) (size offset : UInt8) : UInt32 :=
  value >>> (offset * size).toUInt32

variable (offset : UInt8)

def setByteValue (value : UInt8) : Option (Object valuesCount dynamicTabCount) :=
  object.setField index (fun old => offset ≤ 4 && (partOf old 8 offset).toUInt8 ≠ value)
    fun old => (old &&& ~~~(0xFF <<< (offset * 8).toUInt32)) |||
      (value.toUInt32 <<< (offset * 8).toUInt32)

def setUInt16Value (value : UInt16) (forced : Bool) : Option (Object valuesCount dynamicTabCount) :=
  object.setField index
    (fun old => offset ≤ 2 && (forced || (partOf old 16 offset).toUInt16 ≠ value))
    fun old => (old &&& ~~~(0xFFFF <<< (offset * 16).toUInt32)) |||
      (value.toUInt32 <<< (offset * 16).toUInt32)

def setFlag (newFlag : UInt32) : Option (Object valuesCount dynamicTabCount) :=
  object.setField index (fun old => old ≠ old ||| newFlag) fun old => old ||| newFlag

def removeFlag (oldFlag : UInt32) : Option (Object valuesCount dynamicTabCount) :=
  object.setField index (fun old => old ≠ old &&& ~~~oldFlag) fun old => old &&& ~~~oldFlag

def setByteFlag (newFlag : UInt8) : Option (Object valuesCount dynamicTabCount) :=
  object.setField index
    (fun old => offset ≤ 4 && (partOf old 8 offset).toUInt8 &&& newFlag = 0)
    fun old => old ||| (newFlag.toUInt32 <<< (offset * 8).toUInt32)

def removeByteFlag (oldFlag : UInt8) : Option (Object valuesCount dynamicTabCount) :=
  object.setField index
    (fun old => offset ≤ 4 && (partOf old 8 offset).toUInt8 &&& oldFlag ≠ 0)
    fun old => old &&& ~~~(oldFlag.toUInt32 <<< (offset * 8).toUInt32)

/-- A setter of two fields of 64 bits together; true if it writes. -/
def setFieldPair (replaced : UInt64 → Bool) (value : UInt64) :
    Option (Object valuesCount dynamicTabCount × Bool) :=
  if hindex : index.toNat + 1 < valuesCount then
    let low : Fin valuesCount := ⟨index.toNat, Nat.lt_of_succ_lt hindex⟩
    let high : Fin valuesCount := ⟨index.toNat + 1, hindex⟩
    let old := (object.uint32Values low).toUInt64 |||
      ((object.uint32Values high).toUInt64 <<< 32)
    some (if replaced old then
      (((object.write low value.toUInt32).write high
        (value >>> 32).toUInt32).addToObjectUpdateIfNeeded, true)
      else (object, false))
  else none

variable (value : UInt64)

def setUInt64Value : Option (Object valuesCount dynamicTabCount) :=
  (object.setFieldPair index (fun old => old ≠ value) value).map Prod.fst

def addUInt64Value : Option (Object valuesCount dynamicTabCount × Bool) :=
  object.setFieldPair index (fun old => value ≠ 0 && old = 0) value

def removeUInt64Value : Option (Object valuesCount dynamicTabCount × Bool) :=
  object.setFieldPair index (fun old => value ≠ 0 && old = value) 0

def setDynamicUInt32Value (tab : UInt32) (index : UInt16) (value : UInt32) (forced : Bool) :
    Option (Object valuesCount dynamicTabCount) :=
  if htab : tab.toNat < dynamicTabCount then
    if hindex : index.toNat < 32 then
      let fields := object.dynamicFields ⟨tab.toNat, htab⟩
      some (if forced || fields.values ⟨index.toNat, hindex⟩ ≠ value then
        { object with
          dynamicFields := Function.update object.dynamicFields ⟨tab.toNat, htab⟩
            (fields.write ⟨index.toNat, hindex⟩ value) }.addToObjectUpdateIfNeeded
        else object)
    else none
  else none

end Object

end MopServer.Updates
