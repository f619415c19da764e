import Libklvanc.Foundation.Bits
import Libklvanc.Foundation.Records
import Libklvanc.Scte104.Types

/-!
# The wire format of SCTE-104 messages

What the fields of a message are on the wire, independently of the functions that write and read
them. An operation is one member of a union, selected by its `opID`, with its arrays cut at their
declared lengths (`OperationMember`); its octets are `OperationMember.wire`, and an operation record
puts the `opID` and the length of the data before them. The timestamp is treated alike
(`TimestampValue`).

Sizes are counted from the declared lengths (`operationDataSize`), which agree with the octets as
soon as the declared lengths fit their arrays (`wire_length`).
-/

namespace Libklvanc

/-! ### Fields -/

/-- Where the octets of a field stand, its value is read. -/
lemma be16_getD {n : ℕ} (hn : n < 2 ^ 16) {p : List Byte} {i : ℕ}
    (h : OccursAt (Bits.bigEndian 2 n) p i) :
    be16 (p.getD i 0) (p.getD (i + 1) 0) = BitVec.ofNat 16 n := by
  simp only [Bits.bigEndian, OccursAt.cons_iff] at h
  obtain ⟨h₀, h₁, -⟩ := h
  rw [List.getD, List.getD, h₀, h₁]
  exact be16_bigEndian hn

/-! ### Members and timestamps -/

/-- The member of an operation that its `opID` selects, its array cut at the declared length. -/
inductive OperationMember
  | spliceRequestData (d : SpliceRequestData)
  | spliceNullRequestData
  | timeSignalRequestData (d : TimeSignalRequestData)
  | insertDescriptorRequestData (descriptorCount totalLength : BitVec 32)
      (descriptorBytes : List Byte)
  | insertDtmfRequestData (preRollTime : Byte) (dtmfLength : BitVec 32) (dtmfChar : List Byte)
  | insertAvailDescriptorRequestData (numProviderAvails : BitVec 32)
      (providerAvailId : List (BitVec 32))
  /-- The array `upid` of `d` is cleared. -/
  | insertSegmentationRequestData (d : SegmentationDescriptorRequestData) (upid : List Byte)
  | proprietaryCommandRequestData (proprietaryId proprietaryCommand dataLength : BitVec 32)
      (proprietaryData : List Byte)
  | insertTierData (d : TierData)
  | insertTimeDescriptor (d : TimeDescriptorData)
  deriving DecidableEq

namespace MultipleOperationMessageOperation

/-- The member that operation `k` selects. -/
def memberAs (o : MultipleOperationMessageOperation) : MomOperation → OperationMember
  | .spliceRequestData => .spliceRequestData o.srData
  | .spliceNullRequestData => .spliceNullRequestData
  | .timeSignalRequestData => .timeSignalRequestData o.timesignalData
  | .insertDescriptorRequestData =>
    .insertDescriptorRequestData o.descriptorData.descriptorCount o.descriptorData.totalLength
      (o.descriptorData.descriptorBytes.toList.take o.descriptorData.totalLength.toNat)
  | .insertDtmfRequestData =>
    .insertDtmfRequestData o.dtmfData.preRollTime o.dtmfData.dtmfLength
      (o.dtmfData.dtmfChar.toList.take o.dtmfData.dtmfLength.toNat)
  | .insertAvailDescriptorRequestData =>
    .insertAvailDescriptorRequestData o.availDescriptorData.numProviderAvails
      (o.availDescriptorData.providerAvailId.toList.take
        o.availDescriptorData.numProviderAvails.toNat)
  | .insertSegmentationRequestData =>
    .insertSegmentationRequestData { o.segmentationData with upid := Vector.replicate 255 0 }
      (o.segmentationData.upid.toList.take o.segmentationData.upidLength.toNat)
  | .proprietaryCommandRequestData =>
    .proprietaryCommandRequestData o.proprietaryData.proprietaryId
      o.proprietaryData.proprietaryCommand o.proprietaryData.dataLength
      (o.proprietaryData.proprietaryData.toList.take o.proprietaryData.dataLength.toNat)
  | .insertTierData => .insertTierData o.tierData
  | .insertTimeDescriptor => .insertTimeDescriptor o.timeData

/-- The member that the operation's `opID` selects, when it is a known one. -/
def member (o : MultipleOperationMessageOperation) : Option OperationMember :=
  (MomOperation.ofID o.opID).map o.memberAs

/-- The number of octets of the member that operation `k` selects, from its declared length. -/
def dataSize (o : MultipleOperationMessageOperation) : MomOperation → ℕ
  | .spliceRequestData => 14
  | .spliceNullRequestData => 0
  | .timeSignalRequestData => 2
  | .insertDescriptorRequestData => 1 + o.descriptorData.totalLength.toNat
  | .insertDtmfRequestData => 2 + o.dtmfData.dtmfLength.toNat
  | .insertAvailDescriptorRequestData => 1 + 4 * o.availDescriptorData.numProviderAvails.toNat
  | .insertSegmentationRequestData => 18 + o.segmentationData.upidLength.toNat
  | .proprietaryCommandRequestData => 5 + o.proprietaryData.dataLength.toNat
  | .insertTierData => 2
  | .insertTimeDescriptor => 12

/-- The fields of the member that operation `k` selects fit their widths on the wire, and the DTMF
characters their array. -/
def FieldsFit (o : MultipleOperationMessageOperation) : MomOperation → Prop
  | .spliceRequestData => o.srData.spliceInsertType.toNat < 2 ^ 8
  | .insertDescriptorRequestData => o.descriptorData.descriptorCount.toNat < 2 ^ 8
  | .insertDtmfRequestData => o.dtmfData.dtmfLength.toNat ≤ 7
  | .insertSegmentationRequestData =>
    o.segmentationData.eventCancelIndicator.toNat < 2 ^ 8 ∧
      o.segmentationData.duration.toNat < 2 ^ 16 ∧ o.segmentationData.upidType.toNat < 2 ^ 8 ∧
      o.segmentationData.typeId.toNat < 2 ^ 8 ∧ o.segmentationData.segmentNum.toNat < 2 ^ 8 ∧
      o.segmentationData.segmentsExpected.toNat < 2 ^ 8 ∧
      o.segmentationData.durationExtensionFrames.toNat < 2 ^ 8 ∧
      o.segmentationData.deliveryNotRestrictedFlag.toNat < 2 ^ 8 ∧
      o.segmentationData.webDeliveryAllowedFlag.toNat < 2 ^ 8 ∧
      o.segmentationData.noRegionalBlackoutFlag.toNat < 2 ^ 8 ∧
      o.segmentationData.archiveAllowedFlag.toNat < 2 ^ 8 ∧
      o.segmentationData.deviceRestrictions.toNat < 2 ^ 8
  | .proprietaryCommandRequestData => o.proprietaryData.proprietaryCommand.toNat < 2 ^ 8
  | .insertTierData => o.tierData.tierData.toNat < 0x1000
  | .insertTimeDescriptor =>
    o.timeData.taiSeconds.toNat < 2 ^ 48 ∧ o.timeData.utcOffset.toNat < 2 ^ 16
  | .spliceNullRequestData | .timeSignalRequestData | .insertAvailDescriptorRequestData => True

instance (o : MultipleOperationMessageOperation) (k : MomOperation) :
    Decidable (o.FieldsFit k) := by
  unfold FieldsFit
  cases k <;> infer_instance

/-- The DTMF characters, if it is them that operation `k` selects, lie inside their array. -/
def DtmfHolds (o : MultipleOperationMessageOperation) (k : MomOperation) : Prop :=
  k = .insertDtmfRequestData → o.dtmfData.dtmfLength.toNat ≤ 7

instance (o : MultipleOperationMessageOperation) (k : MomOperation) : Decidable (o.DtmfHolds k) :=
  inferInstanceAs (Decidable (k = .insertDtmfRequestData → o.dtmfData.dtmfLength.toNat ≤ 7))

end MultipleOperationMessageOperation

namespace OperationMember

/-- The octets of a member. -/
def wire : OperationMember → List Byte
  | .spliceRequestData d =>
    Bits.bigEndian 1 d.spliceInsertType.toNat ++ Bits.bigEndian 4 d.spliceEventId.toNat ++
      Bits.bigEndian 2 d.uniqueProgramId.toNat ++ Bits.bigEndian 2 d.preRollTime.toNat ++
      Bits.bigEndian 2 d.brkDuration.toNat ++ Bits.bigEndian 1 d.availNum.toNat ++
      Bits.bigEndian 1 d.availsExpected.toNat ++ Bits.bigEndian 1 d.autoReturnFlag.toNat
  | .spliceNullRequestData => []
  | .timeSignalRequestData d => Bits.bigEndian 2 d.preRollTime.toNat
  | .insertDescriptorRequestData descriptorCount _ descriptorBytes =>
    Bits.bigEndian 1 descriptorCount.toNat ++ descriptorBytes
  | .insertDtmfRequestData preRollTime dtmfLength dtmfChar =>
    Bits.bigEndian 1 preRollTime.toNat ++ Bits.bigEndian 1 dtmfLength.toNat ++ dtmfChar
  | .insertAvailDescriptorRequestData numProviderAvails providerAvailId =>
    Bits.bigEndian 1 numProviderAvails.toNat ++
      providerAvailId.flatMap fun id => Bits.bigEndian 4 id.toNat
  | .insertSegmentationRequestData d upid =>
    Bits.bigEndian 4 d.eventId.toNat ++ Bits.bigEndian 1 d.eventCancelIndicator.toNat ++
      Bits.bigEndian 2 d.duration.toNat ++ Bits.bigEndian 1 d.upidType.toNat ++
      Bits.bigEndian 1 d.upidLength.toNat ++ upid ++ Bits.bigEndian 1 d.typeId.toNat ++
      Bits.bigEndian 1 d.segmentNum.toNat ++ Bits.bigEndian 1 d.segmentsExpected.toNat ++
      Bits.bigEndian 1 d.durationExtensionFrames.toNat ++
      Bits.bigEndian 1 d.deliveryNotRestrictedFlag.toNat ++
      Bits.bigEndian 1 d.webDeliveryAllowedFlag.toNat ++
      Bits.bigEndian 1 d.noRegionalBlackoutFlag.toNat ++
      Bits.bigEndian 1 d.archiveAllowedFlag.toNat ++ Bits.bigEndian 1 d.deviceRestrictions.toNat
  | .proprietaryCommandRequestData proprietaryId proprietaryCommand _ proprietaryData =>
    Bits.bigEndian 4 proprietaryId.toNat ++ Bits.bigEndian 1 proprietaryCommand.toNat ++
      proprietaryData
  | .insertTierData d => Bits.bigEndian 2 (d.tierData &&& 0x0fff).toNat
  | .insertTimeDescriptor d =>
    Bits.bigEndian 6 d.taiSeconds.toNat ++ Bits.bigEndian 4 d.taiNs.toNat ++
      Bits.bigEndian 2 d.utcOffset.toNat

end OperationMember

/-- The value of a timestamp that its type selects. -/
inductive TimestampValue
  | none
  | utc (t : TimeType1)
  | vitc (t : TimeType2)
  | gpi (t : TimeType3)
  deriving DecidableEq

namespace MultipleOperationMessageTimestamp

/-- The value that the type of the timestamp selects; a type that is not known selects none. -/
def value (ts : MultipleOperationMessageTimestamp) : TimestampValue :=
  if ts.timeType = 1 then .utc ts.timeType1
  else if ts.timeType = 2 then .vitc ts.timeType2
  else if ts.timeType = 3 then .gpi ts.timeType3
  else .none

/-- The octets of a timestamp behind its type. -/
def valueWire (ts : MultipleOperationMessageTimestamp) : List Byte :=
  match ts.value with
  | .none => []
  | .utc t => Bits.bigEndian 4 t.utcSeconds.toNat ++ Bits.bigEndian 2 t.utcMicroseconds.toNat
  | .vitc t => [t.hours, t.minutes, t.seconds, t.frames]
  | .gpi t => [t.gpiNumber, t.gpiEdge]

end MultipleOperationMessageTimestamp

/-- The record of an operation: its `opID`, the length of its data and the data. An operation that
is not known has none. -/
def operationWire (o : MultipleOperationMessageOperation) : List Byte :=
  match o.member with
  | none => []
  | some m => Bits.bigEndian 2 o.opID.toNat ++ Bits.bigEndian 2 m.wire.length ++ m.wire

/-- The size of the record of an operation, from its declared length. -/
def operationWireSize (o : MultipleOperationMessageOperation) : ℕ :=
  match MomOperation.ofID o.opID with
  | none => 0
  | some k => 4 + o.dataSize k

namespace MultipleOperationMessage

variable (m : MultipleOperationMessage)

/-- The octets of a message before the number of operations, with a given size in the second
word. -/
def wireHead (size : ℕ) : List Byte :=
  [0xff, 0xff] ++ Bits.bigEndian 2 size ++ [m.protocolVersion, m.asIndex, m.messageNumber] ++
    Bits.bigEndian 2 m.dpiPidIndex.toNat ++ [m.scte35ProtocolVersion] ++
    (m.timestamp.timeType :: m.timestamp.valueWire)

/-- The octets of a message with a given size in the second word. -/
def wireWith (size : ℕ) : List Byte :=
  m.wireHead size ++ (m.numOps :: m.ops.flatMap operationWire)

/-- The size of a message, from the declared lengths of its operations. -/
def wireSize : ℕ :=
  12 + m.timestamp.valueWire.length + (m.ops.map operationWireSize).sum

/-- The octets of a message. -/
def wire : List Byte := m.wireWith m.wireSize

end MultipleOperationMessage

/-! ### Sizes -/

namespace MultipleOperationMessageOperation

variable {o : MultipleOperationMessageOperation} {k : MomOperation}

/-- The octets of a member are as many as declared, as soon as they fit one output buffer. -/
lemma wire_length (hsize : o.dataSize k ≤ 255) (hdtmf : o.DtmfHolds k) :
    (o.memberAs k).wire.length = o.dataSize k := by
  cases k with
  | spliceRequestData | spliceNullRequestData | timeSignalRequestData | insertTierData
  | insertTimeDescriptor => rfl
  | insertDescriptorRequestData | insertSegmentationRequestData | proprietaryCommandRequestData =>
    simp only [dataSize] at hsize
    simp only [memberAs, OperationMember.wire, dataSize, List.length_append, Bits.bigEndian_length,
      List.length_take, Vector.length_toList]
    omega
  | insertDtmfRequestData =>
    have h := hdtmf rfl
    simp only [memberAs, OperationMember.wire, dataSize, List.length_append, Bits.bigEndian_length,
      List.length_take, Vector.length_toList]
    omega
  | insertAvailDescriptorRequestData =>
    simp only [dataSize] at hsize
    simp only [memberAs, OperationMember.wire, dataSize, List.length_append, Bits.bigEndian_length,
      List.length_flatMap, List.map_const', List.sum_replicate, List.length_take,
      Vector.length_toList, smul_eq_mul]
    omega

end MultipleOperationMessageOperation

/-- An operation that is known can be serialised into one output buffer, and reads no array past its
end. -/
def OperationEncodes (o : MultipleOperationMessageOperation) : Prop :=
  ∀ k, MomOperation.ofID o.opID = some k → o.dataSize k ≤ 255 ∧ o.DtmfHolds k

instance (o : MultipleOperationMessageOperation) : Decidable (OperationEncodes o) :=
  inferInstanceAs (Decidable (∀ k ∈ MomOperation.ofID o.opID, o.dataSize k ≤ 255 ∧ o.DtmfHolds k))

/-- The record of an operation is as long as declared. -/
lemma operationWire_length {o : MultipleOperationMessageOperation} (h : OperationEncodes o) :
    (operationWire o).length = operationWireSize o := by
  unfold operationWire operationWireSize MultipleOperationMessageOperation.member
  cases hk : MomOperation.ofID o.opID with
  | none => rfl
  | some k =>
    obtain ⟨hsize, hdtmf⟩ := h k hk
    simp only [Option.map_some, List.length_append, Bits.bigEndian_length,
      MultipleOperationMessageOperation.wire_length hsize hdtmf]

namespace MultipleOperationMessage

variable {m : MultipleOperationMessage}

/-- The octets of a message are as many as declared. -/
lemma wireWith_length (h : ∀ o ∈ m.ops, OperationEncodes o) (size : ℕ) :
    (m.wireWith size).length = m.wireSize := by
  have hops : (m.ops.flatMap operationWire).length = (m.ops.map operationWireSize).sum := by
    rw [List.length_flatMap, List.map_congr_left fun o ho => operationWire_length (h o ho)]
  simp only [wireWith, wireHead, wireSize, List.length_append, List.length_cons, List.length_nil,
    Bits.bigEndian_length, hops]
  omega

end MultipleOperationMessage

end Libklvanc
