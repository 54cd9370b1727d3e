import MopServer.Updates.Object

/-! # The blocks of an update

A block says by masks which fields it holds, and then holds their values.  The block of the dynamic
fields is the same in an update and in the creation of an object.
-/

namespace MopServer.Updates

open MopServer.Foundation MopServer.Packets MopServer.Packets.ByteBuffer

def wordBytes (value : UInt32) : List UInt8 := littleEndian 4 value.toNat

structure UpdateMask where
  fieldCount : Nat
  bits : Nat → Bool

namespace UpdateMask

/-- `SetCount`. -/
def setCount (valuesCount : Nat) : UpdateMask := { fieldCount := valuesCount, bits := fun _ => false }

variable (mask : UpdateMask)

def setBit (index : Nat) : UpdateMask :=
  { mask with bits := Function.update mask.bits index true }

def blockCount : Nat := (mask.fieldCount + 31) / 32

/-- The words of `AppendToPacket`. -/
def maskParts : List UInt32 :=
  (List.range mask.blockCount).map fun block =>
    maskOf 32 fun index => mask.bits (32 * block + index)

end UpdateMask

inductive ObjectUpdateType where
  | values
  | createObject
  | createObject2
  deriving DecidableEq, Repr

namespace Object

variable {valuesCount dynamicTabCount : Nat} (object : Object valuesCount dynamicTabCount)
  (flags : Fin valuesCount → UInt32) (visibleFlag : UInt32) (updateType : ObjectUpdateType)

/-- A field goes into a block if its changes are always told, or if the viewer may see it and it
has changed; in a creation, if it is not 0. -/
def isSent (index : Fin valuesCount) : Bool :=
  object.fieldNotifyFlags.toUInt32 &&& flags index ≠ 0 ||
    (if updateType = .values then object.changedFields index
      else object.uint32Values index ≠ 0) && flags index &&& visibleFlag ≠ 0

/-- `BuildValuesUpdate` of an object other than an area trigger, with the flags of
`GetUpdateFieldData`: the bytes it adds to the packet. -/
def buildValuesUpdate : List UInt8 :=
  let result := (List.finRange valuesCount).foldl
    (fun (result : UpdateMask × List UInt8) index =>
      if object.isSent flags visibleFlag updateType index then
        (result.1.setBit index, result.2 ++ wordBytes (object.uint32Values index))
      else result)
    (UpdateMask.setCount valuesCount, [])
  UInt8.ofNat result.1.blockCount :: result.1.maskParts.flatMap wordBytes ++ result.2

def fieldMask (tab : Nat) : UInt32 :=
  if htab : tab < dynamicTabCount then
    maskOf 32 fun index =>
      if hindex : index < 32 then (object.dynamicFields ⟨tab, htab⟩).changed ⟨index, hindex⟩
      else false
  else 0

/-- The mask of the tabs with a changed field; the bit of a tab is taken modulo 32. -/
def dynamicTabMask : UInt32 := maskOf dynamicTabCount fun tab => object.fieldMask tab > 0

def dynamicValue (tab index : Nat) : UInt32 :=
  if htab : tab < dynamicTabCount then
    if hindex : index < 32 then (object.dynamicFields ⟨tab, htab⟩).values ⟨index, hindex⟩ else 0
  else 0

/-- `BuildDynamicValuesUpdate` of an object other than a bag: the bytes it adds to the packet. -/
def buildDynamicValuesUpdate : List UInt8 :=
  if dynamicTabCount = 0 then [0]
  else
    let tabMask := object.dynamicTabMask
    if tabMask > 0 then
      1 :: wordBytes tabMask ++
        ((List.range dynamicTabCount).filter (isSet tabMask)).flatMap fun tab =>
          1 :: wordBytes (object.fieldMask tab) ++
            (indices (object.fieldMask tab)).flatMap fun index =>
              wordBytes (object.dynamicValue tab index)
    else [0]

end Object

end MopServer.Updates
