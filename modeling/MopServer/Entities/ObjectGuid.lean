import Mathlib.Data.UInt

/-! # Object guids

A guid packs a counter in its low 32 bits and the kind of object in its high
bits.  The kind is kept as the raw number the source casts to its enumeration,
since a client may send any 64-bit value.
-/

namespace MopServer

/-- The kinds of object the modelled components tell apart. -/
structure HighGuid where
  value : UInt64
  deriving DecidableEq, Repr

namespace HighGuid

def item : HighGuid := ⟨0x400⟩
def player : HighGuid := ⟨0x018⟩
def corpse : HighGuid := ⟨0xF101⟩
def areaTrigger : HighGuid := ⟨0xF1B⟩
def group : HighGuid := ⟨0x1F5⟩
def guild : HighGuid := ⟨0x1FF⟩

/-- Corpses and area triggers carry sixteen bits of kind, all others twelve. -/
def isWide (high : HighGuid) : Bool := high = corpse || high = areaTrigger

end HighGuid

variable (guid : UInt64)

/-- `GUID_LOPART`: the counter of the object, on which most maps are keyed. -/
def guidLoPart : UInt32 := guid.toUInt32

/-- `GUID_HIPART`: the kind of the object. -/
def guidHiPart : HighGuid :=
  let wide : HighGuid := ⟨(guid >>> 48) &&& 0xFFFF⟩
  if wide.isWide then wide else ⟨(wide.value >>> 4) &&& 0xFFF⟩

/-- `MAKE_NEW_GUID`: counter zero gives the empty guid whatever the kind. -/
def makeNewGuid (low entry : UInt64) (high : HighGuid) : UInt64 :=
  if low = 0 then 0
  else low ||| (entry <<< 32) ||| (high.value <<< (if high.isWide then 48 else 52))

/-- `IS_PLAYER_GUID`. -/
def isPlayerGuid : Bool := guidHiPart guid = HighGuid.player && guid ≠ 0

/-- `IS_GROUP`. -/
def isGroup : Bool := guidHiPart guid = HighGuid.group

example : isPlayerGuid (makeNewGuid 7 0 HighGuid.player) = true := by decide

example : guidLoPart (makeNewGuid 7 0 HighGuid.group) = 7 := by decide

theorem guidLoPart_makeNewGuid_player (low : UInt32) :
    guidLoPart (makeNewGuid low.toUInt64 0 HighGuid.player) = low := by
  unfold guidLoPart makeNewGuid
  split
  next hzero =>
    have hlow := congrArg UInt64.toUInt32 hzero
    rw [UInt32.toUInt32_toUInt64] at hlow
    rw [hlow]
  · have hkind : ((0 : UInt64) <<< 32).toUInt32 = 0 ∧
        (HighGuid.player.value <<< (if HighGuid.player.isWide then 48 else 52)).toUInt32 = 0 := by
      decide
    rw [UInt64.toUInt32_or, UInt64.toUInt32_or, hkind.1, hkind.2, UInt32.toUInt32_toUInt64,
      UInt32.or_zero, UInt32.or_zero]

end MopServer
