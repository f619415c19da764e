import Libklvanc.Scte104.ParseSafety
import Libklvanc.Scte104.Reencode

/-!
# Serialising accepted messages

The packets that `parse_SCTE_104` hands to the application can be handed back to
`klvanc_convert_SCTE_104_to_packetBytes`. The parser takes a length or a count from the message as
it is, and the encoder loops over it into a buffer of 255 octets. What it writes fits its buffers,
and what it reads lies inside the arrays of the operations, exactly when the octets of every
operation do not announce more than that (`OperationSerialises`) and the message as it is serialised
has at most 2000 octets.

The parser reads a length or a count where it should stand, even if the data of the operation end
before; what it finds there in memory is then handed to the encoder. So nothing can be said of a
message unless it has been parsed without a fault, and parsing and serialising are taken together
(`klvancConvertScte104ToPacketBytes_safe_of_accepted`).
-/

namespace Libklvanc

/-- The octets of an operation from which the encoder stays inside the array of the operation and
inside its own buffer. An octet that is looked at is there if the data fit the operation. -/
def OperationSerialises (opID : Word) (data : List Byte) : Prop :=
  match MomOperation.ofID opID with
  | some .insertDescriptorRequestData => 1 ≤ data.length ∧ data.length ≤ 255
  | some .insertDtmfRequestData => octetAt data 1 ≤ 7
  | some .insertAvailDescriptorRequestData => octetAt data 0 ≤ 63
  | some .insertSegmentationRequestData => octetAt data 8 ≤ 237
  | some .proprietaryCommandRequestData => 5 ≤ data.length ∧ data.length ≤ 255
  | some .spliceRequestData | some .spliceNullRequestData | some .timeSignalRequestData
  | some .insertTierData | some .insertTimeDescriptor | none => True

instance (opID : Word) (data : List Byte) : Decidable (OperationSerialises opID data) :=
  match h : MomOperation.ofID opID with
  | some .insertDescriptorRequestData =>
    decidable_of_iff (1 ≤ data.length ∧ data.length ≤ 255) (by rw [OperationSerialises, h])
  | some .insertDtmfRequestData =>
    decidable_of_iff (octetAt data 1 ≤ 7) (by rw [OperationSerialises, h])
  | some .insertAvailDescriptorRequestData =>
    decidable_of_iff (octetAt data 0 ≤ 63) (by rw [OperationSerialises, h])
  | some .insertSegmentationRequestData =>
    decidable_of_iff (octetAt data 8 ≤ 237) (by rw [OperationSerialises, h])
  | some .proprietaryCommandRequestData =>
    decidable_of_iff (5 ≤ data.length ∧ data.length ≤ 255) (by rw [OperationSerialises, h])
  | some .spliceRequestData | some .spliceNullRequestData | some .timeSignalRequestData
  | some .insertTierData | some .insertTimeDescriptor | none =>
    isTrue (by rw [OperationSerialises, h]; trivial)

/-- The size at which an operation with these octets is serialised, its header included. -/
def serialisedSize (opID : Word) (data : List Byte) : ℕ :=
  match MomOperation.ofID opID with
  | some .spliceRequestData => 4 + 14
  | some .spliceNullRequestData => 4
  | some .timeSignalRequestData => 4 + 2
  | some .insertDescriptorRequestData => 4 + data.length
  | some .insertDtmfRequestData => 4 + (2 + octetAt data 1)
  | some .insertAvailDescriptorRequestData => 4 + (1 + 4 * octetAt data 0)
  | some .insertSegmentationRequestData => 4 + (18 + octetAt data 8)
  | some .proprietaryCommandRequestData => 4 + data.length
  | some .insertTierData => 4 + 2
  | some .insertTimeDescriptor => 4 + 12
  | none => 0

/-! ### Decoded lengths -/

section Operation

variable {data : List Byte}

lemma parseDescriptorRequestData_totalLength (n : BitVec 32) :
    (parseDescriptorRequestData data n).val.totalLength = n := by
  unfold parseDescriptorRequestData
  simp only [Checked.bind_val]
  split_ifs <;> rfl

lemma parseDtmfRequestData_dtmfLength :
    (parseDtmfRequestData data).val.dtmfLength.toNat = octetAt data 1 := by
  rw [← @readUInt8_val_toNat .opData data 1]
  unfold parseDtmfRequestData
  simp only [Checked.bind_val]
  split_ifs <;> rfl

lemma parseAvailRequestData_numProviderAvails :
    (parseAvailRequestData data).val.numProviderAvails.toNat = octetAt data 0 :=
  @readUInt8_val_toNat .opData data 0

lemma parseSegmentationRequestData_upidLength :
    (parseSegmentationRequestData data).val.upidLength.toNat = octetAt data 8 := by
  rw [← @readUInt8_val_toNat .opData data 8]
  unfold parseSegmentationRequestData
  simp only [Checked.bind_val]
  split_ifs <;> rfl

lemma parseProprietaryCommandRequestData_dataLength (n : BitVec 32) :
    (parseProprietaryCommandRequestData data n).val.dataLength = n - 5 := rfl

/-- A decoded operation can be serialised exactly when its octets do not announce too much. -/
lemma parseOperation_encodes_iff (opID : Word) (h : data.length < 2 ^ 16) :
    OperationEncodes (parseOperation opID data).val ↔ OperationSerialises opID data := by
  obtain ⟨hopID, -⟩ := parseOperation_fields opID data
  have hlen : (BitVec.ofNat 16 data.length).toNat = data.length := by
    rw [BitVec.toNat_ofNat, Nat.mod_eq_of_lt h]
  unfold OperationEncodes OperationSerialises
  rw [hopID]
  unfold parseOperation
  cases MomOperation.ofID opID with
  | none => simp
  | some k =>
    simp only [Option.some.injEq, forall_eq',
      MultipleOperationMessageOperation.DtmfHolds]
    cases k with
    | spliceRequestData | spliceNullRequestData | timeSignalRequestData | insertTierData
    | insertTimeDescriptor => simp [MultipleOperationMessageOperation.dataSize]
    | insertDescriptorRequestData =>
      simp only [MultipleOperationMessageOperation.dataSize, Checked.bind_val, Checked.pure_val,
        parseDescriptorRequestData_totalLength, reduceCtorEq, false_imp_iff, and_true]
      bv_omega
    | insertDtmfRequestData =>
      simp only [MultipleOperationMessageOperation.dataSize, Checked.bind_val, Checked.pure_val,
        parseDtmfRequestData_dtmfLength, forall_const]
      omega
    | insertAvailDescriptorRequestData =>
      simp only [MultipleOperationMessageOperation.dataSize, Checked.bind_val, Checked.pure_val,
        parseAvailRequestData_numProviderAvails, reduceCtorEq, false_imp_iff, and_true]
      omega
    | insertSegmentationRequestData =>
      simp only [MultipleOperationMessageOperation.dataSize, Checked.bind_val, Checked.pure_val,
        parseSegmentationRequestData_upidLength, reduceCtorEq, false_imp_iff, and_true]
      omega
    | proprietaryCommandRequestData =>
      simp only [MultipleOperationMessageOperation.dataSize, Checked.bind_val, Checked.pure_val,
        parseProprietaryCommandRequestData_dataLength, reduceCtorEq, false_imp_iff, and_true]
      bv_omega

/-- The size at which a decoded operation is serialised. -/
lemma parseOperation_wireSize {opID : Word} (h : data.length < 2 ^ 16)
    (hser : OperationSerialises opID data) :
    operationWireSize (parseOperation opID data).val = serialisedSize opID data := by
  obtain ⟨hopID, -⟩ := parseOperation_fields opID data
  have hlen : (BitVec.ofNat 16 data.length).toNat = data.length := by
    rw [BitVec.toNat_ofNat, Nat.mod_eq_of_lt h]
  unfold operationWireSize serialisedSize
  unfold OperationSerialises at hser
  rw [hopID]
  unfold parseOperation
  revert hser
  cases MomOperation.ofID opID with
  | none => exact fun _ => rfl
  | some k =>
    cases k with
    | spliceRequestData | spliceNullRequestData | timeSignalRequestData | insertTierData
    | insertTimeDescriptor => exact fun _ => rfl
    | insertDescriptorRequestData =>
      intro hser
      simp only [MultipleOperationMessageOperation.dataSize, Checked.bind_val, Checked.pure_val,
        parseDescriptorRequestData_totalLength]
      bv_omega
    | insertDtmfRequestData =>
      intro hser
      simp only [MultipleOperationMessageOperation.dataSize, Checked.bind_val, Checked.pure_val,
        parseDtmfRequestData_dtmfLength]
    | insertAvailDescriptorRequestData =>
      intro hser
      simp only [MultipleOperationMessageOperation.dataSize, Checked.bind_val, Checked.pure_val,
        parseAvailRequestData_numProviderAvails]
    | insertSegmentationRequestData =>
      intro hser
      simp only [MultipleOperationMessageOperation.dataSize, Checked.bind_val, Checked.pure_val,
        parseSegmentationRequestData_upidLength]
    | proprietaryCommandRequestData =>
      intro hser
      simp only [MultipleOperationMessageOperation.dataSize, Checked.bind_val, Checked.pure_val,
        parseProprietaryCommandRequestData_dataLength]
      bv_omega

/-- Data that fit their operation are those on which its parser stays inside its bounds, if the
encoder can serialise what they announce. -/
lemma parseOperation_safe_iff {opID : Word} (hlen : data.length < 2 ^ 16)
    (hser : OperationSerialises opID data) :
    (parseOperation opID data).Safe ↔ OperationFits opID data := by
  rw [← parseOperation_inBounds_iff opID hlen]
  refine (and_iff_left ?_).symm
  have hnat : (BitVec.ofNat 16 data.length).toNat = data.length := by
    rw [BitVec.toNat_ofNat, Nat.mod_eq_of_lt hlen]
  have hzero : BitVec.toNat (0 : BitVec 32) = 0 := rfl
  unfold OperationSerialises at hser
  unfold parseOperation MultipleOperationMessageOperation.LengthsFit
  revert hser
  cases MomOperation.ofID opID with
  | none => exact fun _ => by simp
  | some k =>
    cases k with
    | spliceRequestData | spliceNullRequestData | timeSignalRequestData | insertTierData
    | insertTimeDescriptor => exact fun _ => by simp
    | insertDescriptorRequestData =>
      intro hser
      simp only [Checked.bind_val, Checked.pure_val, parseDescriptorRequestData_totalLength, hzero,
        Nat.zero_le, and_true]
      bv_omega
    | insertDtmfRequestData =>
      intro hser
      simp only [Checked.bind_val, Checked.pure_val, parseDtmfRequestData_dtmfLength, hzero,
        Nat.zero_le, and_true, true_and]
      exact hser
    | insertAvailDescriptorRequestData =>
      intro hser
      simp only [Checked.bind_val, Checked.pure_val, parseAvailRequestData_numProviderAvails, hzero,
        Nat.zero_le, and_true, true_and]
      exact hser.trans (by norm_num)
    | insertSegmentationRequestData =>
      intro hser
      simp only [Checked.bind_val, Checked.pure_val, parseSegmentationRequestData_upidLength, hzero,
        Nat.zero_le, and_true, true_and]
      exact hser.trans (by norm_num)
    | proprietaryCommandRequestData =>
      intro hser
      simp only [Checked.bind_val, Checked.pure_val, parseProprietaryCommandRequestData_dataLength,
        hzero, Nat.zero_le, true_and]
      bv_omega

end Operation

/-! ### Accepted messages -/

section Accepted

variable {run : KlvancRun} {hdr : KlvancPacketHeader} {pkt : KlvancPacketScte104}

/-- An accepted list of operations is as long as announced. -/
lemma parseOperations_length {payload : List Byte} {L pos count : ℕ}
    {ops : List MultipleOperationMessageOperation}
    (h : (parseOperations payload L pos count).val = some ops) : ops.length = count := by
  induction count generalizing pos ops with
  | zero =>
    obtain rfl : ops = [] := by simpa [parseOperations] using h.symm
    rfl
  | succ count ih =>
    obtain ⟨-, -, pos', rest, -, hrest, rfl⟩ := parseOperations_succ h
    rw [List.length_cons, ih hrest]

/-- An accepted message has as many operations as announced. -/
lemma parseMultipleOperationMessage_length {payload : List Byte} {L : ℕ}
    {m : MultipleOperationMessage} (h : (parseMultipleOperationMessage payload L).val = some m) :
    m.ops.length = m.numOps.toNat := by
  obtain ⟨pos, hops⟩ := parseMultipleOperationMessage_operations h
  exact parseOperations_length hops

/-- What an accepted packet looks like: a multiple operation message with as many operations as it
announces, each of which is what its parser made of fewer than 65536 octets. -/
lemma accepted_packet (h : (parseSCTE104 run hdr).2.calls = run.calls ++ [.scte104 pkt]) :
    pkt.soMsg.opID = 0xffff ∧ pkt.moMsg.ops.length = pkt.moMsg.numOps.toNat ∧
      ∀ o ∈ pkt.moMsg.ops, o.data.length < 2 ^ 16 ∧ o = (parseOperation o.opID o.data).val := by
  obtain ⟨full, descriptor, hval, -⟩ := parseSCTE104_accepted h
  unfold parseScte104Message at hval
  simp only [Checked.bind_val] at hval
  split_ifs at hval with hop
  simp only [Checked.bind_val, Checked.pure_val, Option.map_eq_some_iff] at hval
  obtain ⟨m, hm, rfl⟩ := hval
  exact ⟨hop, parseMultipleOperationMessage_length hm,
    fun o ho => parseMultipleOperationMessage_mem hm ho⟩

/-- The size at which an accepted packet is serialised, computed from the octets of its
operations. -/
def acceptedSize (pkt : KlvancPacketScte104) : ℕ :=
  11 + timestampSize pkt.moMsg.timestamp.timeType +
    (pkt.moMsg.ops.map fun o => serialisedSize o.opID o.data).sum

/-- The operations of an accepted packet announce no more than the encoder can serialise, and the
message it makes of them has at most 2000 octets. -/
def Serialisable (pkt : KlvancPacketScte104) : Prop :=
  (∀ o ∈ pkt.moMsg.ops, OperationSerialises o.opID o.data) ∧ acceptedSize pkt ≤ 2000

instance (pkt : KlvancPacketScte104) : Decidable (Serialisable pkt) := by
  unfold Serialisable
  infer_instance

/-- Where the operations of an accepted packet can be serialised, the message has the size computed
from their octets. -/
lemma wireSize_of_accepted (h : (parseSCTE104 run hdr).2.calls = run.calls ++ [.scte104 pkt])
    (hser : ∀ o ∈ pkt.moMsg.ops, OperationSerialises o.opID o.data) :
    pkt.moMsg.wireSize = acceptedSize pkt := by
  obtain ⟨-, -, hops⟩ := accepted_packet h
  have hsizes : pkt.moMsg.ops.map operationWireSize =
      pkt.moMsg.ops.map fun o => serialisedSize o.opID o.data := by
    refine List.map_congr_left fun o ho => ?_
    obtain ⟨hlen, heq⟩ := hops o ho
    rw [← parseOperation_wireSize hlen (hser o ho), ← heq]
  rw [MultipleOperationMessage.wireSize, acceptedSize, hsizes, timestampSize_eq]
  omega

/-- An accepted packet is serialised without a fault exactly when it is serialisable. -/
lemma safe_iff_serialisable (h : (parseSCTE104 run hdr).2.calls = run.calls ++ [.scte104 pkt]) :
    (klvancConvertScte104ToPacketBytes pkt).Safe ↔ Serialisable pkt := by
  obtain ⟨hopID, hlength, hops⟩ := accepted_packet h
  have hencodes : (∀ o ∈ pkt.moMsg.ops, OperationEncodes o) ↔
      ∀ o ∈ pkt.moMsg.ops, OperationSerialises o.opID o.data := by
    refine forall₂_congr fun o ho => ?_
    obtain ⟨hlen, heq⟩ := hops o ho
    rw [← parseOperation_encodes_iff o.opID hlen, ← heq]
  rw [klvancConvertScte104ToPacketBytes_safe hopID hlength, hencodes, Serialisable]
  exact and_congr_right fun hser => by rw [wireSize_of_accepted h hser]

/-- Parsing a message that is handed to the application, and serialising the packet, stays inside
the message, the data and the arrays of the operations and the output buffers, and fails no
assertion, exactly when the fragments of the message are complete, it ends inside the array of 2000
octets, the data of every operation are there and announce no more than the encoder can serialise,
and the serialised message has at most 2000 octets. -/
theorem klvancConvertScte104ToPacketBytes_safe_of_accepted
    (h : (parseSCTE104 run hdr).2.calls = run.calls ++ [.scte104 pkt]) :
    (parseSCTE104 run hdr).2.faults = run.faults ∧ (klvancConvertScte104ToPacketBytes pkt).Safe ↔
      (hdr.payloadByte 0 ≠ 0x08 → run.ctx.scte104.Complete) ∧ messageEnd pkt.payload ≤ 2000 ∧
        (∀ o ∈ pkt.moMsg.ops, OperationFits o.opID o.data ∧ OperationSerialises o.opID o.data) ∧
        acceptedSize pkt ≤ 2000 := by
  obtain ⟨full, descriptor, hval, hfaults⟩ := parseSCTE104_accepted h
  obtain ⟨-, -, hops⟩ := accepted_packet h
  have hdata : (∀ o ∈ pkt.moMsg.ops, (parseOperation o.opID o.data).Safe ∧
      OperationSerialises o.opID o.data) ↔
        ∀ o ∈ pkt.moMsg.ops, OperationFits o.opID o.data ∧ OperationSerialises o.opID o.data :=
    forall₂_congr fun o ho => and_congr_left fun hser => parseOperation_safe_iff (hops o ho).1 hser
  rw [hfaults, parseScte104Message_safe hval, safe_iff_serialisable h, Serialisable, ← hdata,
    forall₂_and]
  constructor
  · rintro ⟨⟨hfrags, hend, hsafe⟩, hser, hsize⟩
    exact ⟨hfrags, hend, ⟨hsafe, hser⟩, hsize⟩
  · rintro ⟨hfrags, hend, ⟨hsafe, hser⟩, hsize⟩
    exact ⟨⟨hfrags, hend, hsafe⟩, hser, hsize⟩

end Accepted

/-- A whole message that is decoded is handed to the application. -/
lemma parseSCTE104_calls_whole {hdr : KlvancPacketHeader} {pkt : KlvancPacketScte104}
    (hdesc : hdr.payloadByte 0 = 0x08) (h : (parseScte104Message hdr 0x08).val = some pkt) :
    (parseSCTE104 (.start scte104Context) hdr).2.calls =
      (KlvancRun.start scte104Context).calls ++ [.scte104 pkt] := by
  rw [parseSCTE104_whole rfl hdesc, deliverScte104_calls, h]
  rfl

/-- A packet with a message of a DTMF request with two characters and an avail request with one
id. -/
def dtmfAvailPacket : List Byte :=
  [0x08, 0xff, 0xff, 0x00, 0x1d, 0x00, 0x00, 0x00, 0x00, 0x00, 0x00, 0x00, 0x02, 0x01, 0x09, 0x00,
    0x04, 0x32, 0x02, 0x31, 0x32, 0x01, 0x0a, 0x00, 0x05, 0x01, 0x00, 0x00, 0x00, 0x05]

/-- The message with the DTMF and the avail request is accepted, parsed and serialised. -/
theorem klvancConvertScte104ToPacketBytes_safe_dtmfAvail :
    ∃ pkt, (parseSCTE104 (.start scte104Context) (headerOf dtmfAvailPacket)).2.calls =
        (KlvancRun.start scte104Context).calls ++ [.scte104 pkt] ∧
      pkt.moMsg.ops.map (·.opID) = [0x109, 0x10a] ∧
      (parseSCTE104 (.start scte104Context) (headerOf dtmfAvailPacket)).2.faults = [] ∧
      (klvancConvertScte104ToPacketBytes pkt).Safe := by
  have hval : (parseScte104Message (headerOf dtmfAvailPacket) 0x08).val.map (fun pkt =>
      (pkt.moMsg.ops.map (·.opID), decide (messageEnd pkt.payload ≤ 2000 ∧
        (∀ o ∈ pkt.moMsg.ops, OperationFits o.opID o.data ∧ OperationSerialises o.opID o.data) ∧
        acceptedSize pkt ≤ 2000))) = some ([0x109, 0x10a], true) := by
    decide +kernel
  obtain ⟨pkt, hpkt, hser⟩ := Option.map_eq_some_iff.mp hval
  have hcalls := parseSCTE104_calls_whole rfl hpkt
  obtain ⟨hfaults, hsafe⟩ := (klvancConvertScte104ToPacketBytes_safe_of_accepted hcalls).mpr
    ⟨fun hsingle => absurd rfl hsingle, of_decide_eq_true (congrArg Prod.snd hser)⟩
  exact ⟨pkt, hcalls, congrArg Prod.fst hser, hfaults, hsafe⟩

/-- A packet with a message of eighteen octets whose one operation announces eight DTMF characters
in two octets of data. -/
def longDtmfPacket : List Byte :=
  [0x08, 0xff, 0xff, 0x00, 0x12, 0x00, 0x00, 0x00, 0x00, 0x00, 0x00, 0x00, 0x01, 0x01, 0x09, 0x00,
    0x02, 0x32, 0x08]

/-- The message with eight DTMF characters is accepted without a fault, and the encoder reads the
eighth one behind the array of seven. -/
theorem klvancConvertScte104ToPacketBytes_unsafe_longDtmf :
    ¬∀ (run : KlvancRun) (hdr : KlvancPacketHeader) (pkt : KlvancPacketScte104),
      (parseSCTE104 run hdr).2.calls = run.calls ++ [.scte104 pkt] →
        (parseSCTE104 run hdr).2.faults = run.faults →
          (klvancConvertScte104ToPacketBytes pkt).Safe := by
  intro h
  have hval : (parseScte104Message (headerOf longDtmfPacket) 0x08).val.map (fun pkt =>
      decide (Serialisable pkt)) = some false := by
    decide +kernel
  have hfaults : (parseScte104Message (headerOf longDtmfPacket) 0x08).faults = [] := by
    decide +kernel
  obtain ⟨pkt, hpkt, hser⟩ := Option.map_eq_some_iff.mp hval
  have hcalls := parseSCTE104_calls_whole rfl hpkt
  have hsafe := h _ _ pkt hcalls (by
    rw [parseSCTE104_whole rfl rfl, deliverScte104_faults, hfaults]
    rfl)
  exact of_decide_eq_false hser ((safe_iff_serialisable hcalls).mp hsafe)

end Libklvanc
