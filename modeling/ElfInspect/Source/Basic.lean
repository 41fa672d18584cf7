import ElfInspect.Byte.Extent
import ElfInspect.Source.Inspection

/-!
# Sources

Taking up a reader as a source, and the positioned read through which an inspection gets all
its bytes. A positioned read is checked against the recorded length before the reader is
touched, and a reader that stops short is found out afterwards.
-/

namespace ElfInspect

namespace Source

/-- Takes up a reader: a move to its end gives the length, a second one goes back. -/
def ofReader (reader : Reader) : Except IoError Source := do
  let (atEnd, reader) := reader.seek reader.reportedLength.toNat
  atEnd
  let (atStart, reader) := reader.seek 0
  atStart
  return { reader, length := reader.reportedLength }

/-- A source over a byte string that is read as it is. -/
def ofBytes (content : Bytes) : Source where
  reader := Reader.honest content
  length := content.length.toUInt64

end Source

namespace Inspection

/-- Lets an extent pass if it ends within a source of `length` bytes. What there is of it is counted
beforehand. -/
def checkExtent (part : Part) (extent : Extent) (length : UInt64) : Except Fault Unit :=
  let available := extent.available length
  match extent.stop? with
  | some stop =>
    if stop ≤ length then .ok ()
    else .error (.format (.truncated part extent.offset extent.size available))
  | none => .error (.format (.truncated part extent.offset extent.size available))

/-- All bytes of an extent. The part is what a fault says was wanted. -/
def readAt (part : Part) (extent : Extent) : Inspection Bytes := do
  ofExcept (checkExtent part extent (← length))
  ofReader fun reader => reader.seek extent.offset.toNat
  let bytes ← ofReader fun reader => reader.gather extent.size.toNat
  if bytes.length = extent.size.toNat then
    return bytes
  else
    fail (.format (.truncated part extent.offset extent.size bytes.length.toUInt64))

theorem checkExtent_eq (part : Part) (extent : Extent) (length : UInt64) :
    checkExtent part extent length = extent.check part length := by
  unfold checkExtent Extent.check Extent.fits
  cases extent.stop? with
  | none => rfl
  | some stop => simp only [decide_eq_true_eq]

end Inspection

end ElfInspect
