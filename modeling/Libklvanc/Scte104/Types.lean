import Libklvanc.Core.Packet

/-!
# SCTE-104 packets

The structures of `vanc-scte_104.h`. The unions of the source are modelled by the tuple of their
members: an encoder or parser selects one member, by the operation's `opID` or the timestamp's
`time_type`, and touches no other.
-/

namespace Libklvanc

/-- `struct klvanc_splice_request_data`. -/
structure SpliceRequestData where
  spliceInsertType : BitVec 32 := 0
  spliceEventId : BitVec 32 := 0
  uniqueProgramId : Word := 0
  preRollTime : Word := 0
  brkDuration : Word := 0
  availNum : Byte := 0
  availsExpected : Byte := 0
  autoReturnFlag : Byte := 0
  deriving DecidableEq

/-- `struct klvanc_time_signal_request_data`. -/
structure TimeSignalRequestData where
  preRollTime : Word := 0
  deriving DecidableEq

/-- `struct klvanc_avail_descriptor_request_data`. -/
structure AvailDescriptorRequestData where
  numProviderAvails : BitVec 32 := 0
  providerAvailId : Vector (BitVec 32) 255 := Vector.replicate 255 0
  deriving DecidableEq

/-- `struct klvanc_insert_descriptor_request_data`. -/
structure InsertDescriptorRequestData where
  descriptorCount : BitVec 32 := 0
  totalLength : BitVec 32 := 0
  descriptorBytes : Vector Byte 255 := Vector.replicate 255 0
  deriving DecidableEq

/-- `struct klvanc_dtmf_descriptor_request_data`. -/
structure DtmfDescriptorRequestData where
  preRollTime : Byte := 0
  dtmfLength : BitVec 32 := 0
  dtmfChar : Vector Byte 7 := Vector.replicate 7 0
  deriving DecidableEq

/-- `struct klvanc_segmentation_descriptor_request_data`. -/
structure SegmentationDescriptorRequestData where
  eventId : BitVec 32 := 0
  eventCancelIndicator : BitVec 32 := 0
  duration : BitVec 32 := 0
  upidType : BitVec 32 := 0
  upidLength : BitVec 32 := 0
  upid : Vector Byte 255 := Vector.replicate 255 0
  typeId : BitVec 32 := 0
  segmentNum : BitVec 32 := 0
  segmentsExpected : BitVec 32 := 0
  durationExtensionFrames : BitVec 32 := 0
  deliveryNotRestrictedFlag : BitVec 32 := 0
  webDeliveryAllowedFlag : BitVec 32 := 0
  noRegionalBlackoutFlag : BitVec 32 := 0
  archiveAllowedFlag : BitVec 32 := 0
  deviceRestrictions : BitVec 32 := 0
  deriving DecidableEq

/-- `struct klvanc_time_descriptor_data`. -/
structure TimeDescriptorData where
  taiSeconds : BitVec 64 := 0
  taiNs : BitVec 32 := 0
  utcOffset : BitVec 32 := 0
  deriving DecidableEq

/-- `struct klvanc_proprietary_command_request_data`. -/
structure ProprietaryCommandRequestData where
  proprietaryId : BitVec 32 := 0
  proprietaryCommand : BitVec 32 := 0
  dataLength : BitVec 32 := 0
  proprietaryData : Vector Byte 255 := Vector.replicate 255 0
  deriving DecidableEq

/-- `struct klvanc_tier_data`. -/
structure TierData where
  tierData : Word := 0
  deriving DecidableEq

/-- The operations of a multiple operation message that the library knows. -/
inductive MomOperation
  | spliceRequestData
  | spliceNullRequestData
  | timeSignalRequestData
  | insertDescriptorRequestData
  | insertDtmfRequestData
  | insertAvailDescriptorRequestData
  | insertSegmentationRequestData
  | proprietaryCommandRequestData
  | insertTierData
  | insertTimeDescriptor
  deriving DecidableEq, Repr

namespace MomOperation

/-- The `MO_*` constants. -/
def opID : MomOperation → Word
  | spliceRequestData => 0x101
  | spliceNullRequestData => 0x102
  | timeSignalRequestData => 0x104
  | insertDescriptorRequestData => 0x108
  | insertDtmfRequestData => 0x109
  | insertAvailDescriptorRequestData => 0x10a
  | insertSegmentationRequestData => 0x10b
  | proprietaryCommandRequestData => 0x10c
  | insertTierData => 0x10f
  | insertTimeDescriptor => 0x110

/-- The known operations. -/
def all : List MomOperation :=
  [spliceRequestData, spliceNullRequestData, timeSignalRequestData, insertDescriptorRequestData,
    insertDtmfRequestData, insertAvailDescriptorRequestData, insertSegmentationRequestData,
    proprietaryCommandRequestData, insertTierData, insertTimeDescriptor]

/-- The known operation with a given `opID`: the case a `switch` on it selects. -/
def ofID (w : Word) : Option MomOperation := all.find? fun k => k.opID == w

/-- Every operation is selected by its own `opID`. -/
@[simp] lemma ofID_opID (k : MomOperation) : ofID k.opID = some k := by
  cases k <;> decide

end MomOperation

/-- `struct klvanc_multiple_operation_message_operation`. -/
structure MultipleOperationMessageOperation where
  opID : Word
  dataLength : Word := 0
  /-- The octets that `data` points to. -/
  data : List Byte := []
  srData : SpliceRequestData := {}
  timesignalData : TimeSignalRequestData := {}
  dtmfData : DtmfDescriptorRequestData := {}
  segmentationData : SegmentationDescriptorRequestData := {}
  availDescriptorData : AvailDescriptorRequestData := {}
  descriptorData : InsertDescriptorRequestData := {}
  proprietaryData : ProprietaryCommandRequestData := {}
  tierData : TierData := {}
  timeData : TimeDescriptorData := {}
  deriving DecidableEq

/-- `time_type_1` of the timestamp. -/
structure TimeType1 where
  utcSeconds : BitVec 32 := 0
  utcMicroseconds : Word := 0
  deriving DecidableEq

/-- `time_type_2` of the timestamp. -/
structure TimeType2 where
  hours : Byte := 0
  minutes : Byte := 0
  seconds : Byte := 0
  frames : Byte := 0
  deriving DecidableEq

/-- `time_type_3` of the timestamp. -/
structure TimeType3 where
  gpiNumber : Byte := 0
  gpiEdge : Byte := 0
  deriving DecidableEq

/-- `struct klvanc_multiple_operation_message_timestamp`. -/
structure MultipleOperationMessageTimestamp where
  timeType : Byte := 0
  timeType1 : TimeType1 := {}
  timeType2 : TimeType2 := {}
  timeType3 : TimeType3 := {}
  deriving DecidableEq

/-- `struct klvanc_multiple_operation_message`. -/
structure MultipleOperationMessage where
  rsvd : Word := 0
  messageSize : Word := 0
  protocolVersion : Byte := 0
  asIndex : Byte := 0
  messageNumber : Byte := 0
  dpiPidIndex : Word := 0
  scte35ProtocolVersion : Byte := 0
  timestamp : MultipleOperationMessageTimestamp := {}
  numOps : Byte := 0
  /-- The operations that `ops` points to. -/
  ops : List MultipleOperationMessageOperation := []
  deriving DecidableEq

/-- `struct klvanc_single_operation_message`: its `opID` tells the two message structures apart. -/
structure SingleOperationMessage where
  opID : Word := 0
  deriving DecidableEq

/-- `struct klvanc_packet_scte_104_s`. -/
structure KlvancPacketScte104 where
  /-- The header the message was taken from; absent in a packet built by hand. -/
  hdr : Option KlvancPacketHeader := none
  payloadDescriptorByte : Byte := 0
  version : ℕ := 0
  continuedPkt : Bool := false
  followingPkt : Bool := false
  duplicateMsg : Bool := false
  /-- The array `payload`. -/
  payload : List Byte := []
  payloadLengthBytes : ℕ := 0
  soMsg : SingleOperationMessage := {}
  moMsg : MultipleOperationMessage := {}
  deriving DecidableEq

end Libklvanc
