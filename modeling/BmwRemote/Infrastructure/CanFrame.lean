/-! A frame received on a CAN bus. -/
namespace BmwRemote.Infrastructure

/-- A direction is the byte it is stored in. -/
structure CanDirection where
  raw : UInt8
  deriving DecidableEq, Repr

def CanDirection.rx : CanDirection := ⟨0⟩

structure CanFrameStatus where
  raw : UInt16
  deriving DecidableEq, Repr

namespace CanFrameStatus

def none : CanFrameStatus := ⟨0⟩
def remoteFrame : CanFrameStatus := ⟨(1 : UInt16) <<< 0⟩
def dlcNonCompliant : CanFrameStatus := ⟨(1 : UInt16) <<< 1⟩
def errorWarning : CanFrameStatus := ⟨(1 : UInt16) <<< 2⟩
def errorPassive : CanFrameStatus := ⟨(1 : UInt16) <<< 3⟩
def busOff : CanFrameStatus := ⟨(1 : UInt16) <<< 4⟩
def peripheralReset : CanFrameStatus := ⟨(1 : UInt16) <<< 5⟩

def union (left right : CanFrameStatus) : CanFrameStatus := ⟨left.raw ||| right.raw⟩

def without (value removed : CanFrameStatus) : CanFrameStatus := ⟨value.raw &&& ~~~removed.raw⟩

def hasStatus (value flag : CanFrameStatus) : Bool := value.raw &&& flag.raw != 0

@[simp] theorem hasStatus_union (left right flag : CanFrameStatus) :
    (left.union right).hasStatus flag = (left.hasStatus flag || right.hasStatus flag) := by
  have hand : (left.raw ||| right.raw) &&& flag.raw =
      (left.raw &&& flag.raw) ||| (right.raw &&& flag.raw) := by
    apply UInt16.toBitVec_inj.1
    simp [BitVec.and_or_distrib_right]
  rw [Bool.eq_iff_iff]
  by_cases hleft : left.raw &&& flag.raw = 0
  · simp [hasStatus, union, hand, hleft]
  · simp [hasStatus, union, hand, hleft]

theorem hasStatus_without {value flag : CanFrameStatus} (h : value.hasStatus flag = false)
    (removed : CanFrameStatus) : (value.without removed).hasStatus flag = false := by
  simp only [hasStatus, bne_eq_false_iff_eq] at h ⊢
  rw [without, UInt16.and_assoc, UInt16.and_comm (~~~removed.raw), ← UInt16.and_assoc, h,
    UInt16.zero_and]

end CanFrameStatus

structure CanFrame where
  timestampUs : UInt64 := 0
  sequence : UInt64 := 0
  bitrate : UInt32 := 0
  identifier : UInt32 := 0
  channel : UInt8 := 0
  dataLength : UInt8 := 0
  extended : Bool := false
  direction : CanDirection := .rx
  status : CanFrameStatus := .none
  data : Vector UInt8 8 := Vector.replicate 8 0
  deriving DecidableEq

namespace CanFrame

def maximumStandardIdentifier : UInt32 := 0x7FF
def maximumExtendedIdentifier : UInt32 := 0x1FFFFFFF
def maximumDataLength : UInt8 := 8

def isValid (frame : CanFrame) : Bool :=
  let maximumIdentifier :=
    if frame.extended then maximumExtendedIdentifier else maximumStandardIdentifier
  decide (frame.dataLength ≤ maximumDataLength) &&
    decide (frame.identifier ≤ maximumIdentifier) && frame.direction == .rx

def timestampMilliseconds (frame : CanFrame) : UInt32 := (frame.timestampUs / 1000).toUInt32

/-- No flag says that bytes of the frame were not received. -/
def Genuine (frame : CanFrame) : Prop :=
  frame.status.hasStatus .remoteFrame = false ∧ frame.status.hasStatus .dlcNonCompliant = false

instance (frame : CanFrame) : Decidable frame.Genuine :=
  inferInstanceAs (Decidable (_ ∧ _))

def byteAt (frame : CanFrame) (index : UInt8) : Option UInt8 :=
  if index < frame.dataLength then frame.data[index.toNat]? else none

end CanFrame

end BmwRemote.Infrastructure
