import Libklvanc.Scte104.Encoded
import Libklvanc.Scte104.Framing

/-!
# Re-encoding keeps the records in step

`klvanc_convert_SCTE_104_to_packetBytes` writes the number of operations before it serialises them,
and then skips every operation whose `opID` it does not know. The records it produces are in step
with the number it announces exactly when it knows all of them
(`klvancConvertScte104ToPacketBytes_inStep_iff`).
-/

namespace Libklvanc

/-- The `opID` of the operation at octet `i`. -/
def operationIDAt (bytes : List Byte) (i : ℕ) : Word := be16 (bytes.getD i 0) (bytes.getD (i + 1) 0)

/-- A walk over the announced operations finds those of `ops` in order and ends at `byteCount`. -/
def RecordsInStep (bytes : List Byte) (byteCount : ℕ)
    (ops : List MultipleOperationMessageOperation) : Prop :=
  (operationStarts bytes).map (operationIDAt bytes) = ops.map (·.opID) ∧
    messageEnd bytes = byteCount

instance (bytes : List Byte) (byteCount : ℕ) (ops : List MultipleOperationMessageOperation) :
    Decidable (RecordsInStep bytes byteCount ops) := by
  unfold RecordsInStep
  infer_instance

/-! ### Records -/

section Records

variable {buf : List Byte} {o : MultipleOperationMessageOperation} {i : ℕ}

/-- The record of a known operation. -/
lemma operationWire_of_known {k : MomOperation} (hk : MomOperation.ofID o.opID = some k) :
    operationWire o = Bits.bigEndian 2 o.opID.toNat ++
      Bits.bigEndian 2 (o.memberAs k).wire.length ++ (o.memberAs k).wire := by
  simp [operationWire, MultipleOperationMessageOperation.member, hk]

/-- An operation that is not known has no record. -/
lemma operationWire_of_unknown (hk : MomOperation.ofID o.opID = none) : operationWire o = [] := by
  simp [operationWire, MultipleOperationMessageOperation.member, hk]

/-- Where the record of a known operation stands, its size is read. -/
lemma operationSize_of_occursAt (henc : OperationEncodes o)
    (hknown : (MomOperation.ofID o.opID).isSome) (h : OccursAt (operationWire o) buf i) :
    operationSize buf i = (operationWire o).length := by
  obtain ⟨k, hk⟩ := Option.isSome_iff_exists.mp hknown
  obtain ⟨hsize, hdtmf⟩ := henc k hk
  have hlen := MultipleOperationMessageOperation.wire_length hsize hdtmf
  rw [operationWire_of_known hk] at h ⊢
  rw [List.append_assoc, OccursAt.append_iff, OccursAt.append_iff, Bits.bigEndian_length] at h
  rw [operationSize, operationDataLength, be16_getD (by omega) h.2.1, BitVec.toNat_ofNat,
    Nat.mod_eq_of_lt (by omega)]
  simp only [List.length_append, Bits.bigEndian_length]

/-- Where the record of a known operation stands, its `opID` is read. -/
lemma operationIDAt_of_occursAt (hknown : (MomOperation.ofID o.opID).isSome)
    (h : OccursAt (operationWire o) buf i) : operationIDAt buf i = o.opID := by
  obtain ⟨k, hk⟩ := Option.isSome_iff_exists.mp hknown
  rw [operationWire_of_known hk, List.append_assoc, OccursAt.append_iff] at h
  rw [operationIDAt, be16_getD o.opID.isLt h.1, BitVec.ofNat_toNat, BitVec.setWidth_eq]

/-- Only the known operations have a record. -/
lemma flatMap_operationWire (ops : List MultipleOperationMessageOperation) :
    ops.flatMap operationWire =
      (ops.filter fun o => (MomOperation.ofID o.opID).isSome).flatMap operationWire := by
  induction ops with
  | nil => rfl
  | cons o ops ih =>
    cases hk : MomOperation.ofID o.opID with
    | none => simp [hk, operationWire_of_unknown hk, ih]
    | some k => simp [hk, ih]

end Records

section Message

variable {m : MultipleOperationMessage} {size : ℕ}

/-- The size of the timestamp is that of its octets. -/
lemma timestampSize_eq (ts : MultipleOperationMessageTimestamp) :
    timestampSize ts.timeType = 1 + ts.valueWire.length := by
  unfold timestampSize MultipleOperationMessageTimestamp.valueWire
    MultipleOperationMessageTimestamp.value
  split_ifs <;> rfl

/-- The number of operations stands behind the head. -/
lemma numOpsPos_wireWith : numOpsPos (m.wireWith size) = (m.wireHead size).length := by
  have htype : (m.wireWith size).getD 10 0 = m.timestamp.timeType := rfl
  rw [numOpsPos, htype, timestampSize_eq]
  simp only [MultipleOperationMessage.wireHead, List.length_append, List.length_cons,
    List.length_nil, Bits.bigEndian_length]
  omega

/-- The announced number of operations. -/
lemma announcedOps_wireWith : announcedOps (m.wireWith size) = m.numOps.toNat := by
  rw [announcedOps, numOpsPos_wireWith, MultipleOperationMessage.wireWith, List.getD,
    List.getElem?_append_right le_rfl, Nat.sub_self]
  rfl

/-- The records of the operations stand behind their number. -/
lemma occursAt_operations :
    OccursAt (m.ops.flatMap operationWire) (m.wireWith size) (numOpsPos (m.wireWith size) + 1) := by
  have h := OccursAt.refl (m.wireWith size)
  rw [numOpsPos_wireWith]
  nth_rewrite 1 [MultipleOperationMessage.wireWith] at h
  rw [OccursAt.append_iff, Nat.zero_add, OccursAt.cons_iff] at h
  exact h.2.2

/-- The records of a serialised message are in step exactly when all its operations are known. -/
lemma recordsInStep_wireWith (henc : ∀ o ∈ m.ops, OperationEncodes o)
    (hops : m.ops.length = m.numOps.toNat) :
    RecordsInStep (m.wireWith size) m.wireSize m.ops ↔
      ∀ o ∈ m.ops, (MomOperation.ofID o.opID).isSome := by
  have hoccurs := @occursAt_operations m size
  have hlength : m.wireSize = numOpsPos (m.wireWith size) + 1 +
      (m.ops.flatMap operationWire).length := by
    rw [numOpsPos_wireWith, ← MultipleOperationMessage.wireWith_length henc size,
      MultipleOperationMessage.wireWith]
    simp only [List.length_append, List.length_cons]
    omega
  have hfilter := flatMap_operationWire m.ops
  unfold RecordsInStep operationStarts messageEnd
  rw [announcedOps_wireWith, hlength, ← hops]
  constructor
  · -- the walk reads as many records as there are operations, and each has one
    rintro ⟨-, hend⟩
    have hknown : ∀ o ∈ m.ops.filter fun o => (MomOperation.ofID o.opID).isSome,
        ∀ i, OccursAt (operationWire o) (m.wireWith size) i →
          operationSize (m.wireWith size) i = (operationWire o).length := by
      intro o ho i h
      rw [List.mem_filter] at ho
      exact operationSize_of_occursAt (henc o ho.1) ho.2 h
    rw [hfilter] at hoccurs hend
    have hcount := (Records.walk_flatMap_eq_iff hknown hoccurs (fun i => by simp [operationSize])
      (List.length_filter_le _ _)).mp hend
    exact fun o ho => List.length_filter_eq_length_iff.mp hcount o ho
  · intro hknown
    have hsize : ∀ o ∈ m.ops, ∀ i, OccursAt (operationWire o) (m.wireWith size) i →
        operationSize (m.wireWith size) i = (operationWire o).length :=
      fun o ho i h => operationSize_of_occursAt (henc o ho) (hknown o ho) h
    exact ⟨Records.map_starts_flatMap hsize
      (fun o ho i h => operationIDAt_of_occursAt (hknown o ho) h) hoccurs,
      Records.walk_flatMap hsize hoccurs⟩

end Message

/-- Whenever a packet is converted, the records of the octets produced are in step with its
operations if and only if the encoder knows all of them. -/
theorem klvancConvertScte104ToPacketBytes_inStep_iff {pkt : KlvancPacketScte104} {bytes : List Byte}
    {byteCount : ℕ} (hops : pkt.moMsg.ops.length = pkt.moMsg.numOps.toNat)
    (h : klvancConvertScte104ToPacketBytes pkt = ⟨.ok (bytes, byteCount), []⟩) :
    RecordsInStep (bytes.take byteCount) byteCount pkt.moMsg.ops ↔
      ∀ o ∈ pkt.moMsg.ops, (MomOperation.ofID o.opID).isSome := by
  have hopID : pkt.soMsg.opID = 0xffff := by
    by_contra hno
    rw [klvancConvertScte104ToPacketBytes, if_pos hno] at h
    exact absurd (congrArg Checked.val h) nofun
  obtain ⟨henc, hsize⟩ := (klvancConvertScte104ToPacketBytes_safe hopID hops).mp
    (show (klvancConvertScte104ToPacketBytes pkt).faults = [] by rw [h])
  rw [klvancConvertScte104ToPacketBytes_eq hopID hops henc hsize] at h
  have hval := congrArg Checked.val h
  simp only [Except.ok.injEq, Prod.mk.injEq] at hval
  obtain ⟨rfl, rfl⟩ := hval
  rw [← MultipleOperationMessage.wireWith_length henc pkt.moMsg.wireSize,
    MultipleOperationMessage.wire, List.take_left,
    MultipleOperationMessage.wireWith_length henc]
  exact recordsInStep_wireWith henc hops

/-- A packet with one operation, which has no data to be serialised. -/
def oneOperationPacket (opID : Word) : KlvancPacketScte104 where
  soMsg := { opID := 0xffff }
  moMsg := { numOps := 1, ops := [{ opID }] }

/-- The records of a splice null request are in step. -/
theorem klvancConvertScte104ToPacketBytes_inStep_spliceNull :
    RecordsInStep [0xff, 0xff, 0, 16, 0, 0, 0, 0, 0, 0, 0, 1, 1, 2, 0, 0] 16
      (oneOperationPacket 0x102).moMsg.ops :=
  (@klvancConvertScte104ToPacketBytes_inStep_iff (oneOperationPacket 0x102) _ _ rfl
    (klvancConvertScte104ToPacketBytes_eq rfl rfl (by decide) (by decide))).mpr (by decide)

/-- The records of an operation that is not known
are not in step: one operation is announced and there is no record. -/
theorem klvancConvertScte104ToPacketBytes_outOfStep_unknown :
    ¬∀ (pkt : KlvancPacketScte104) (bytes : List Byte) (byteCount : ℕ),
      pkt.moMsg.ops.length = pkt.moMsg.numOps.toNat →
        klvancConvertScte104ToPacketBytes pkt = ⟨.ok (bytes, byteCount), []⟩ →
          RecordsInStep (bytes.take byteCount) byteCount pkt.moMsg.ops := by
  intro h
  have hstep := h (oneOperationPacket 0x105) _ _ rfl
    (klvancConvertScte104ToPacketBytes_eq rfl rfl (by decide) (by decide))
  exact absurd hstep (by decide)

end Libklvanc
