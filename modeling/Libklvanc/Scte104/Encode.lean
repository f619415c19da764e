import Libklvanc.Bitstream.Klbs
import Libklvanc.Core.SdiPayload
import Libklvanc.Scte104.Types

/-!
# Encoding SCTE-104 packets

The `gen_*` functions of `core-packet-scte_104.c`, each of which serialises one operation into a
buffer of `MAX_DESC_SIZE` octets of its own, and the conversions of a packet to the octets of its
message (`klvanc_convert_SCTE_104_to_packetBytes`), to an SMPTE 2010 packet and to VANC words.

The return values of the `gen_*` functions and of `klvanc_sdi_create_payload` are not looked at.
Fresh buffers are taken to be zeroed; no octet is read from one before it is written.
-/

namespace Libklvanc

/-- `MAX_DESC_SIZE`. -/
def maxDescSize : ℕ := 255

/-- The loop that writes the first `count` cells, from cell `i` on, of an array of `n`-bit
numbers. -/
def klbsWriteCells {n : ℕ} (obj : MemObject) (cells : List (BitVec n)) :
    ℕ → ℕ → KlbsContext → KlbsContext
  | _, 0, bs => bs
  | i, count + 1, bs =>
    let cell := readAt obj cells i
    klbsWriteCells obj cells (i + 1) count
      (klbsWriteBits (bs.addFaults cell.faults) cell.val.toNat n)

section Operations

/-- What all `gen_*` functions with a body share: allocate the buffer, serialise into it, and return
the buffer and its size, a `uint16_t`. -/
def genBuffer (serialize : KlbsContext → KlbsContext) : Checked Fault (List Byte × ℕ) :=
  let buf := List.replicate maxDescSize 0
  let bs := klbsWriteBufferComplete (serialize (klbsWriteSetBuffer buf maxDescSize))
  ⟨(bs.buf, klbsGetByteCount bs % 2 ^ 16), bs.faults⟩

/-- `gen_splice_request_data`. -/
def genSpliceRequestData (d : SpliceRequestData) : Checked Fault (List Byte × ℕ) :=
  genBuffer fun bs =>
    let bs := klbsWriteBits bs d.spliceInsertType.toNat 8
    let bs := klbsWriteBits bs d.spliceEventId.toNat 32
    let bs := klbsWriteBits bs d.uniqueProgramId.toNat 16
    let bs := klbsWriteBits bs d.preRollTime.toNat 16
    let bs := klbsWriteBits bs d.brkDuration.toNat 16
    let bs := klbsWriteBits bs d.availNum.toNat 8
    let bs := klbsWriteBits bs d.availsExpected.toNat 8
    klbsWriteBits bs d.autoReturnFlag.toNat 8

/-- `gen_splice_null_request_data`. -/
def genSpliceNullRequestData : Checked Fault (List Byte × ℕ) :=
  pure (List.replicate maxDescSize 0, 0)

/-- `gen_time_signal_request_data`. -/
def genTimeSignalRequestData (d : TimeSignalRequestData) : Checked Fault (List Byte × ℕ) :=
  genBuffer fun bs => klbsWriteBits bs d.preRollTime.toNat 16

/-- `gen_descriptor_request_data`. -/
def genDescriptorRequestData (d : InsertDescriptorRequestData) : Checked Fault (List Byte × ℕ) :=
  genBuffer fun bs =>
    let bs := klbsWriteBits bs d.descriptorCount.toNat 8
    klbsWriteCells .descriptorBytes d.descriptorBytes.toList 0 d.totalLength.toNat bs

/-- `gen_dtmf_request_data`. -/
def genDtmfRequestData (d : DtmfDescriptorRequestData) : Checked Fault (List Byte × ℕ) :=
  genBuffer fun bs =>
    let bs := klbsWriteBits bs d.preRollTime.toNat 8
    let bs := klbsWriteBits bs d.dtmfLength.toNat 8
    klbsWriteCells .dtmfChar d.dtmfChar.toList 0 d.dtmfLength.toNat bs

/-- `gen_avail_request_data`. -/
def genAvailRequestData (d : AvailDescriptorRequestData) : Checked Fault (List Byte × ℕ) :=
  genBuffer fun bs =>
    let bs := klbsWriteBits bs d.numProviderAvails.toNat 8
    klbsWriteCells .providerAvailId d.providerAvailId.toList 0 d.numProviderAvails.toNat bs

/-- `gen_segmentation_request_data`. -/
def genSegmentationRequestData (d : SegmentationDescriptorRequestData) :
    Checked Fault (List Byte × ℕ) :=
  genBuffer fun bs =>
    let bs := klbsWriteBits bs d.eventId.toNat 32
    let bs := klbsWriteBits bs d.eventCancelIndicator.toNat 8
    let bs := klbsWriteBits bs d.duration.toNat 16
    let bs := klbsWriteBits bs d.upidType.toNat 8
    let bs := klbsWriteBits bs d.upidLength.toNat 8
    let bs := klbsWriteCells .upid d.upid.toList 0 d.upidLength.toNat bs
    let bs := klbsWriteBits bs d.typeId.toNat 8
    let bs := klbsWriteBits bs d.segmentNum.toNat 8
    let bs := klbsWriteBits bs d.segmentsExpected.toNat 8
    let bs := klbsWriteBits bs d.durationExtensionFrames.toNat 8
    let bs := klbsWriteBits bs d.deliveryNotRestrictedFlag.toNat 8
    let bs := klbsWriteBits bs d.webDeliveryAllowedFlag.toNat 8
    let bs := klbsWriteBits bs d.noRegionalBlackoutFlag.toNat 8
    let bs := klbsWriteBits bs d.archiveAllowedFlag.toNat 8
    klbsWriteBits bs d.deviceRestrictions.toNat 8

/-- `gen_proprietary_command_request_data`. -/
def genProprietaryCommandRequestData (d : ProprietaryCommandRequestData) :
    Checked Fault (List Byte × ℕ) :=
  genBuffer fun bs =>
    let bs := klbsWriteBits bs d.proprietaryId.toNat 32
    let bs := klbsWriteBits bs d.proprietaryCommand.toNat 8
    klbsWriteCells .proprietaryData d.proprietaryData.toList 0 d.dataLength.toNat bs

/-- `gen_tier_data`. -/
def genTierData (d : TierData) : Checked Fault (List Byte × ℕ) :=
  genBuffer fun bs => klbsWriteBits bs (d.tierData &&& 0x0fff).toNat 16

/-- `gen_time_descriptor`. -/
def genTimeDescriptor (d : TimeDescriptorData) : Checked Fault (List Byte × ℕ) :=
  genBuffer fun bs =>
    let bs := klbsWriteBits bs d.taiSeconds.toNat 48
    let bs := klbsWriteBits bs d.taiNs.toNat 32
    klbsWriteBits bs d.utcOffset.toNat 16

/-- The cases of the `switch` of `klvanc_convert_SCTE_104_to_packetBytes`. -/
def genOperation (o : MultipleOperationMessageOperation) :
    MomOperation → Checked Fault (List Byte × ℕ)
  | .spliceRequestData => genSpliceRequestData o.srData
  | .spliceNullRequestData => genSpliceNullRequestData
  | .timeSignalRequestData => genTimeSignalRequestData o.timesignalData
  | .insertDescriptorRequestData => genDescriptorRequestData o.descriptorData
  | .insertDtmfRequestData => genDtmfRequestData o.dtmfData
  | .insertAvailDescriptorRequestData => genAvailRequestData o.availDescriptorData
  | .insertSegmentationRequestData => genSegmentationRequestData o.segmentationData
  | .proprietaryCommandRequestData => genProprietaryCommandRequestData o.proprietaryData
  | .insertTierData => genTierData o.tierData
  | .insertTimeDescriptor => genTimeDescriptor o.timeData

end Operations

/-- The body of the loop of `klvanc_convert_SCTE_104_to_packetBytes` over the operations. An
operation with an unknown `opID` is skipped. -/
def klbsWriteOperation (bs : KlbsContext) (o : MultipleOperationMessageOperation) : KlbsContext :=
  match MomOperation.ofID o.opID with
  | none => bs
  | some k =>
    let out := genOperation o k
    let bs := bs.addFaults out.faults
    let bs := klbsWriteBits bs o.opID.toNat 16
    let bs := klbsWriteBits bs out.val.2 16
    klbsWriteCells .outBuf out.val.1 0 out.val.2 bs

/-- The loop of `klvanc_convert_SCTE_104_to_packetBytes` over the operations, from operation `i`
on. -/
def klbsWriteOperations (ops : List MultipleOperationMessageOperation) :
    ℕ → ℕ → KlbsContext → KlbsContext
  | _, 0, bs => bs
  | i, count + 1, bs =>
    klbsWriteOperations ops (i + 1) count
      (match ops[i]? with
      | some o => klbsWriteOperation bs o
      | none => bs.addFaults [.read .ops i])

/-- The `switch` of `klvanc_convert_SCTE_104_to_packetBytes` on the type of the timestamp. -/
def klbsWriteTimestamp (bs : KlbsContext) (ts : MultipleOperationMessageTimestamp) : KlbsContext :=
  if ts.timeType = 1 then
    let bs := klbsWriteBits bs ts.timeType1.utcSeconds.toNat 32
    klbsWriteBits bs ts.timeType1.utcMicroseconds.toNat 16
  else if ts.timeType = 2 then
    let bs := klbsWriteBits bs ts.timeType2.hours.toNat 8
    let bs := klbsWriteBits bs ts.timeType2.minutes.toNat 8
    let bs := klbsWriteBits bs ts.timeType2.seconds.toNat 8
    klbsWriteBits bs ts.timeType2.frames.toNat 8
  else if ts.timeType = 3 then
    let bs := klbsWriteBits bs ts.timeType3.gpiNumber.toNat 8
    klbsWriteBits bs ts.timeType3.gpiEdge.toNat 8
  else bs

/-- What `klvanc_convert_SCTE_104_to_packetBytes` writes into its buffer. -/
def klbsWriteMessage (m : MultipleOperationMessage) (bs : KlbsContext) : KlbsContext :=
  let bs := klbsWriteBits bs 0xffff 16
  let bs := klbsWriteBits bs m.messageSize.toNat 16
  let bs := klbsWriteBits bs m.protocolVersion.toNat 8
  let bs := klbsWriteBits bs m.asIndex.toNat 8
  let bs := klbsWriteBits bs m.messageNumber.toNat 8
  let bs := klbsWriteBits bs m.dpiPidIndex.toNat 16
  let bs := klbsWriteBits bs m.scte35ProtocolVersion.toNat 8
  let bs := klbsWriteBits bs m.timestamp.timeType.toNat 8
  let bs := klbsWriteTimestamp bs m.timestamp
  let bs := klbsWriteBits bs m.numOps.toNat 8
  let bs := klbsWriteOperations m.ops 0 m.numOps.toNat bs
  klbsWriteBufferComplete bs

/-- `klvanc_convert_SCTE_104_to_packetBytes`: the octets of the buffer and their number, or the
error code. The message size is written over the second word at the end. -/
def klvancConvertScte104ToPacketBytes (pkt : KlvancPacketScte104) :
    Checked Fault (Except ℤ (List Byte × ℕ)) :=
  if pkt.soMsg.opID ≠ 0xffff then pure (.error (-1))
  else
    let bs := klbsWriteMessage pkt.moMsg (klbsWriteSetBuffer (List.replicate 2000 0) 2000)
    let bufferSize := BitVec.ofNat 16 (klbsGetByteCount bs)
    let bytes := (bs.buf.set 2 (lowByte (bufferSize >>> 8))).set 3 (lowByte (bufferSize &&& 0xff))
    ⟨.ok (bytes, klbsGetByteCount bs % 2 ^ 16), bs.faults⟩

/-- `klvanc_convert_SCTE_104_packetbytes_to_SMPTE_2010` on the first `inCount` octets of
`inBytes`. -/
def klvancConvertScte104PacketbytesToSmpte2010 (inBytes : List Byte) (inCount : ℕ) :
    Checked Fault (Except ℤ (List Byte)) :=
  if 2000 < inCount then pure (.error (-1))
  else do
    let bytes ← copyFrom .packetBytes inBytes 0 inCount
    pure (.ok (0x08 :: bytes))

/-- `klvanc_convert_SCTE_104_to_words`: the return value and the words, which stay unset when
`klvanc_sdi_create_payload` fails. -/
def klvancConvertScte104ToWords (pkt : KlvancPacketScte104) :
    Checked Fault (ℤ × Option (List Word)) := do
  match ← klvancConvertScte104ToPacketBytes pkt with
  | .error _ => pure (-1, none)
  | .ok (buf, byteCount) =>
    match ← klvancConvertScte104PacketbytesToSmpte2010 buf byteCount with
    | .error _ => pure (-1, none)
    | .ok s2010Packet => pure (klapiOk, klvancSdiCreatePayload 0x07 0x41 s2010Packet 10)

end Libklvanc
