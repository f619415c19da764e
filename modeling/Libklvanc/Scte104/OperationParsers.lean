import Libklvanc.Bitstream.Klbs
import Libklvanc.Scte104.Types

/-!
# The operation parsers

The `parse_*` functions that decode the data of one SCTE-104 operation, and `parse_mom_timestamp`.
They read octets through a pointer without looking at the data's length; every access outside the
data, or outside the array it fills, is recorded as a fault.
-/

namespace Libklvanc

section Reads

variable (obj : MemObject) (p : List Byte) (i : ℕ)

/-- Two octets at `i`, as a 16-bit number. -/
def readBe16 : Checked Fault Word := do
  let b₀ ← readAt obj p i
  let b₁ ← readAt obj p (i + 1)
  pure (be16 b₀ b₁)

/-- Four octets at `i`, as a 32-bit number. -/
def readBe32 : Checked Fault (BitVec 32) := do
  let b₀ ← readAt obj p i
  let b₁ ← readAt obj p (i + 1)
  let b₂ ← readAt obj p (i + 2)
  let b₃ ← readAt obj p (i + 3)
  pure (be32 b₀ b₁ b₂ b₃)

/-- One octet at `i`, stored in an `unsigned int`. -/
def readUInt8 : Checked Fault (BitVec 32) := do
  let b ← readAt obj p i
  pure (b.setWidth 32)

end Reads

variable (p : List Byte)

/-- `parse_splice_request_data`. -/
def parseSpliceRequestData : Checked Fault SpliceRequestData := do
  let spliceInsertType ← readUInt8 .opData p 0
  let spliceEventId ← readBe32 .opData p 1
  let uniqueProgramId ← readBe16 .opData p 5
  let preRollTime ← readBe16 .opData p 7
  let brkDuration ← readBe16 .opData p 9
  let availNum ← readAt .opData p 11
  let availsExpected ← readAt .opData p 12
  let autoReturnFlag ← readAt .opData p 13
  pure
    { spliceInsertType, spliceEventId, uniqueProgramId, preRollTime, brkDuration, availNum,
      availsExpected, autoReturnFlag }

/-- `parse_time_signal_request_data`. -/
def parseTimeSignalRequestData : Checked Fault TimeSignalRequestData := do
  let preRollTime ← readBe16 .opData p 0
  pure { preRollTime }

/-- `parse_descriptor_request_data`. -/
def parseDescriptorRequestData (descriptorSize : BitVec 32) :
    Checked Fault InsertDescriptorRequestData := do
  let descriptorCount ← readUInt8 .opData p 0
  let totalLength := descriptorSize
  if totalLength.toNat < 255 then
    let bytes ← copyFrom .opData p 1 totalLength.toNat
    let descriptorBytes ← storeInto .descriptorBytes 255 bytes
    pure { descriptorCount, totalLength, descriptorBytes }
  else
    pure { descriptorCount, totalLength }

/-- `parse_dtmf_request_data`. -/
def parseDtmfRequestData : Checked Fault DtmfDescriptorRequestData := do
  let preRollTime ← readAt .opData p 0
  let dtmfLength ← readUInt8 .opData p 1
  if dtmfLength.toNat ≤ 7 then
    let chars ← copyFrom .opData p 2 dtmfLength.toNat
    let dtmfChar ← storeInto .dtmfChar 7 chars
    pure { preRollTime, dtmfLength, dtmfChar }
  else
    pure { preRollTime, dtmfLength }

/-- The loop of `parse_avail_request_data`: `count` avail ids from octet `i` on. -/
def parseAvailIds (i : ℕ) : ℕ → Checked Fault (List (BitVec 32))
  | 0 => pure []
  | count + 1 => do
    let id ← readBe32 .opData p i
    let ids ← parseAvailIds (i + 4) count
    pure (id :: ids)

/-- `parse_avail_request_data`. -/
def parseAvailRequestData : Checked Fault AvailDescriptorRequestData := do
  let numProviderAvails ← readUInt8 .opData p 0
  let ids ← parseAvailIds p 1 numProviderAvails.toNat
  let providerAvailId ← storeInto .providerAvailId 255 ids
  pure { numProviderAvails, providerAvailId }

/-- `parse_segmentation_request_data`. A length that exceeds the array makes the parser return
`NULL`, which its caller does not look at. -/
def parseSegmentationRequestData : Checked Fault SegmentationDescriptorRequestData := do
  let eventId ← readBe32 .opData p 0
  let eventCancelIndicator ← readUInt8 .opData p 4
  let duration ← readBe16 .opData p 5
  let upidType ← readUInt8 .opData p 7
  let upidLength ← readUInt8 .opData p 8
  let d : SegmentationDescriptorRequestData :=
    { eventId, eventCancelIndicator, duration := duration.setWidth 32, upidType, upidLength }
  if 255 < upidLength.toNat then
    pure d
  else
    let bytes ← copyFrom .opData p 9 upidLength.toNat
    let upid ← storeInto .upid 255 bytes
    let i := 9 + upidLength.toNat
    let typeId ← readUInt8 .opData p i
    let segmentNum ← readUInt8 .opData p (i + 1)
    let segmentsExpected ← readUInt8 .opData p (i + 2)
    let durationExtensionFrames ← readUInt8 .opData p (i + 3)
    let deliveryNotRestrictedFlag ← readUInt8 .opData p (i + 4)
    let webDeliveryAllowedFlag ← readUInt8 .opData p (i + 5)
    let noRegionalBlackoutFlag ← readUInt8 .opData p (i + 6)
    let archiveAllowedFlag ← readUInt8 .opData p (i + 7)
    let deviceRestrictions ← readUInt8 .opData p (i + 8)
    pure { d with
      upid, typeId, segmentNum, segmentsExpected, durationExtensionFrames,
      deliveryNotRestrictedFlag, webDeliveryAllowedFlag, noRegionalBlackoutFlag,
      archiveAllowedFlag, deviceRestrictions }

/-- `parse_proprietary_command_request_data`. -/
def parseProprietaryCommandRequestData (descriptorSize : BitVec 32) :
    Checked Fault ProprietaryCommandRequestData := do
  let proprietaryId ← readBe32 .opData p 0
  let proprietaryCommand ← readUInt8 .opData p 4
  let dataLength := descriptorSize - 5
  let bytes ← copyFrom .opData p 5 dataLength.toNat
  let proprietaryData ← storeInto .proprietaryData 255 bytes
  pure { proprietaryId, proprietaryCommand, dataLength, proprietaryData }

/-- `parse_tier_data`. -/
def parseTierData : Checked Fault TierData := do
  let tierData ← readBe16 .opData p 0
  pure { tierData := tierData &&& 0x0fff }

/-- `parse_time_descriptor`, which announces twelve octets to the bitstream reader. -/
def parseTimeDescriptor : Checked Fault TimeDescriptorData :=
  let bs := klbsReadSetBuffer p 12
  let (taiSeconds, bs) := klbsReadBits bs 48
  let (taiNs, bs) := klbsReadBits bs 32
  let (utcOffset, bs) := klbsReadBits bs 16
  ⟨{ taiSeconds, taiNs := taiNs.setWidth 32, utcOffset := utcOffset.setWidth 32 }, bs.faults⟩

/-- The part of the loop of `parse_SCTE_104` that decodes the data of one operation. -/
def parseOperation (opID : Word) (data : List Byte) :
    Checked Fault MultipleOperationMessageOperation :=
  let dataLength := BitVec.ofNat 16 data.length
  let o : MultipleOperationMessageOperation := { opID, dataLength, data }
  match MomOperation.ofID opID with
  | some .spliceRequestData => do
    let srData ← parseSpliceRequestData data
    pure { o with srData }
  | some .timeSignalRequestData => do
    let timesignalData ← parseTimeSignalRequestData data
    pure { o with timesignalData }
  | some .insertDescriptorRequestData => do
    let descriptorData ← parseDescriptorRequestData data (dataLength.setWidth 32 - 1)
    pure { o with descriptorData }
  | some .insertAvailDescriptorRequestData => do
    let availDescriptorData ← parseAvailRequestData data
    pure { o with availDescriptorData }
  | some .insertDtmfRequestData => do
    let dtmfData ← parseDtmfRequestData data
    pure { o with dtmfData }
  | some .insertSegmentationRequestData => do
    let segmentationData ← parseSegmentationRequestData data
    pure { o with segmentationData }
  | some .proprietaryCommandRequestData => do
    let proprietaryData ← parseProprietaryCommandRequestData data (dataLength.setWidth 32)
    pure { o with proprietaryData }
  | some .insertTierData => do
    let tierData ← parseTierData data
    pure { o with tierData }
  | some .insertTimeDescriptor => do
    let timeData ← parseTimeDescriptor data
    pure { o with timeData }
  | some .spliceNullRequestData | none => pure o

/-- `parse_mom_timestamp`, from octet `i` of the message on, and the octet behind the timestamp. -/
def parseMomTimestamp (i : ℕ) : Checked Fault (MultipleOperationMessageTimestamp × ℕ) := do
  let timeType ← readAt .messagePayload p i
  if timeType = 1 then
    let utcSeconds ← readBe32 .messagePayload p (i + 1)
    let utcMicroseconds ← readBe16 .messagePayload p (i + 5)
    pure ({ timeType, timeType1 := { utcSeconds, utcMicroseconds } }, i + 7)
  else if timeType = 2 then
    let hours ← readAt .messagePayload p (i + 1)
    let minutes ← readAt .messagePayload p (i + 2)
    let seconds ← readAt .messagePayload p (i + 3)
    let frames ← readAt .messagePayload p (i + 4)
    pure ({ timeType, timeType2 := { hours, minutes, seconds, frames } }, i + 5)
  else if timeType = 3 then
    let gpiNumber ← readAt .messagePayload p (i + 1)
    let gpiEdge ← readAt .messagePayload p (i + 2)
    pure ({ timeType, timeType3 := { gpiNumber, gpiEdge } }, i + 3)
  else
    pure ({ timeType }, i + 1)

end Libklvanc
