import Libklvanc.Bitstream.Writer
import Libklvanc.Scte104.Encode
import Libklvanc.Scte104.Wire

/-!
# What the encoder writes

The `gen_*` functions write the octets of the member they serialise (`genOperation_eq`), and
`klvanc_convert_SCTE_104_to_packetBytes` writes the octets of the message
(`klvancConvertScte104ToPacketBytes_eq`), as long as no operation outgrows its buffer or its array
and the message fits the output buffer. When that is not so, a fault is met
(`klvancConvertScte104ToPacketBytes_safe`).
-/

namespace Libklvanc

/-! ### Arrays -/

section Cells

variable {n k i count cap : ℕ} {obj : MemObject} {cells : List (BitVec n)} {bs : KlbsContext}
  {orig bytes : List Byte}

/-- Writing cells keeps the faults. -/
lemma klbsWriteCells_faults : bs.faults <+: (klbsWriteCells obj cells i count bs).faults := by
  induction count generalizing i bs with
  | zero => exact List.prefix_refl _
  | succ count ih =>
    have hadd : bs.faults <+: (bs.addFaults (readAt obj cells i).faults).faults :=
      List.prefix_append _ _
    exact (hadd.trans (klbsWriteBits_faults _ _ _)).trans ih

/-- Writing cells from behind the end of the array meets a fault. -/
lemma klbsWriteCells_faults_ne_nil (hcount : 0 < count) (h : cells.length < i + count) :
    (klbsWriteCells obj cells i count bs).faults ≠ [] := by
  induction count generalizing i bs with
  | zero => exact absurd hcount (lt_irrefl 0)
  | succ count ih =>
    rw [klbsWriteCells]
    rcases Nat.eq_zero_or_pos count with rfl | hpos
    · -- the last cell is the one behind the end
      have hread : (readAt obj cells i).faults ≠ [] := by
        rw [readAt, Checked.read_faults, if_neg (by omega)]
        exact List.cons_ne_nil _ _
      have hkept := (List.suffix_append bs.faults (readAt obj cells i).faults).ne_nil hread
      exact (klbsWriteBits_faults _ _ _).ne_nil hkept
    · exact ih hpos (by omega)

/-- Cells of whole octets are appended one behind the other. -/
lemma klbsWriteCells_writes (hn : n = 8 * k) (h : bs.WritesBytes cap orig bytes)
    (hle : i + count ≤ cells.length) :
    (klbsWriteCells obj cells i count bs).WritesBytes cap orig
      (bytes ++ ((cells.drop i).take count).flatMap fun c => Bits.bigEndian k c.toNat) := by
  induction count generalizing i bs bytes with
  | zero => simpa [klbsWriteCells] using h
  | succ count ih =>
    have hi : i < cells.length := by omega
    have hbs : bs.addFaults (readAt obj cells i).faults = bs := by
      simp [KlbsContext.addFaults, readAt, Checked.read_faults, hi]
    have hval : (readAt obj cells i).val = cells[i] := by simp [readAt, List.getD, hi]
    have hcell := h.writeBits cells[i].toNat k
    rw [← hn] at hcell
    rw [klbsWriteCells, hbs, hval, List.drop_eq_getElem_cons hi, List.take_succ_cons,
      List.flatMap_cons, ← List.append_assoc]
    exact ih hcell (by omega)

/-- Octets are their own big-endian form. -/
lemma flatMap_bigEndian_one (l : List Byte) :
    (l.flatMap fun b => Bits.bigEndian 1 b.toNat) = l := by
  simp [Bits.bigEndian]

/-- The first octets of an array are appended as they are. -/
lemma klbsWriteCells_octets {cells : List Byte} (h : bs.WritesBytes cap orig bytes)
    (hle : count ≤ cells.length) :
    (klbsWriteCells obj cells 0 count bs).WritesBytes cap orig (bytes ++ cells.take count) := by
  have hcells := @klbsWriteCells_writes 8 1 0 _ _ obj _ _ _ _ rfl h (by simpa using hle)
  rwa [flatMap_bigEndian_one] at hcells

end Cells

/-! ### Operations -/

/-- The fresh context of a `gen_*` function. -/
abbrev genStart : KlbsContext :=
  klbsWriteSetBuffer (List.replicate maxDescSize 0) maxDescSize

/-- Completing the last octet keeps the faults. -/
lemma klbsWriteBufferComplete_faults (bs : KlbsContext) :
    bs.faults <+: (klbsWriteBufferComplete bs).faults := by
  have hzeros : ∀ (count : ℕ) (bs : KlbsContext),
      bs.faults <+: (klbsWriteZeros count bs).faults := by
    intro count
    induction count with
    | zero => exact fun _ => List.prefix_refl _
    | succ count ih => exact fun bs => (klbsWriteBit_faults bs 0).trans (ih _)
  unfold klbsWriteBufferComplete
  split_ifs
  · exact hzeros _ _
  · exact List.prefix_refl _

section Buffers

variable {serialize : KlbsContext → KlbsContext} {bytes : List Byte}

/-- A `gen_*` function returns what it serialises, when that fits its buffer. -/
lemma genBuffer_eq
    (h : (serialize genStart).WritesBytes maxDescSize (List.replicate maxDescSize 0) bytes)
    (hle : bytes.length ≤ maxDescSize) :
    genBuffer serialize =
      ⟨(bytes ++ List.replicate (maxDescSize - bytes.length) 0, bytes.length), []⟩ := by
  have hsafe := (h.faults_eq_nil_iff List.length_replicate).mpr hle
  have hbuf := h.buf_eq hle
  rw [List.drop_replicate] at hbuf
  have hcount : bytes.length % 2 ^ 16 = bytes.length := by
    unfold maxDescSize at hle
    omega
  simp only [genBuffer, h.writeBufferComplete, hbuf, h.byteCount, hsafe, hcount]

/-- A `gen_*` function meets a fault when what it serialises does not fit its buffer. -/
lemma genBuffer_faults_ne_nil
    (h : (serialize genStart).WritesBytes maxDescSize (List.replicate maxDescSize 0) bytes)
    (hlt : maxDescSize < bytes.length) : (genBuffer serialize).faults ≠ [] := by
  rw [genBuffer]
  dsimp only
  rw [h.writeBufferComplete, ne_eq, h.faults_eq_nil_iff List.length_replicate]
  omega

/-- A fault met while serialising is one of the `gen_*` function. -/
lemma genBuffer_faults_ne_nil_of_serialize (h : (serialize genStart).faults ≠ []) :
    (genBuffer serialize).faults ≠ [] :=
  (klbsWriteBufferComplete_faults _).ne_nil h

end Buffers

/-- Nothing has been serialised yet. -/
lemma genStart_writes :
    genStart.WritesBytes maxDescSize (List.replicate maxDescSize 0) [] :=
  KlbsContext.WritesBytes.setBuffer (by simp)

section Operations

variable {o : MultipleOperationMessageOperation} {k : MomOperation}

/-- A `gen_*` function returns the octets of the member it serialises. -/
lemma genOperation_eq (hsize : o.dataSize k ≤ 255) (hdtmf : o.DtmfHolds k) :
    genOperation o k = ⟨((o.memberAs k).wire ++
      List.replicate (maxDescSize - (o.memberAs k).wire.length) 0, (o.memberAs k).wire.length),
      []⟩ := by
  have hlen : (o.memberAs k).wire.length ≤ maxDescSize := by
    rwa [MultipleOperationMessageOperation.wire_length hsize hdtmf]
  cases k with
  | spliceRequestData =>
    rw [genOperation, genSpliceRequestData]
    exact genBuffer_eq ((((((((genStart_writes.write8 _).write32 _).write16 _).write16 _).write16
      _).write8 _).write8 _).write8 _) hlen
  | spliceNullRequestData => rfl
  | timeSignalRequestData =>
    rw [genOperation, genTimeSignalRequestData]
    exact genBuffer_eq (genStart_writes.write16 _) hlen
  | insertDescriptorRequestData =>
    simp only [MultipleOperationMessageOperation.dataSize] at hsize
    rw [genOperation, genDescriptorRequestData]
    exact genBuffer_eq (klbsWriteCells_octets (genStart_writes.write8 _)
      (by rw [Vector.length_toList]; omega)) hlen
  | insertDtmfRequestData =>
    rw [genOperation, genDtmfRequestData]
    exact genBuffer_eq (klbsWriteCells_octets ((genStart_writes.write8 _).write8 _)
      (by rw [Vector.length_toList]; exact hdtmf rfl)) hlen
  | insertAvailDescriptorRequestData =>
    simp only [MultipleOperationMessageOperation.dataSize] at hsize
    rw [genOperation, genAvailRequestData]
    exact genBuffer_eq (klbsWriteCells_writes (k := 4) rfl (genStart_writes.write8 _)
      (by rw [Vector.length_toList]; omega)) hlen
  | insertSegmentationRequestData =>
    simp only [MultipleOperationMessageOperation.dataSize] at hsize
    rw [genOperation, genSegmentationRequestData]
    have hupid := @klbsWriteCells_octets o.segmentationData.upidLength.toNat _ .upid _ _ _
      o.segmentationData.upid.toList
        (((((genStart_writes.write32 o.segmentationData.eventId.toNat).write8
        o.segmentationData.eventCancelIndicator.toNat).write16
        o.segmentationData.duration.toNat).write8 o.segmentationData.upidType.toNat).write8
        o.segmentationData.upidLength.toNat)
      (by rw [Vector.length_toList]; omega)
    exact genBuffer_eq (((((((((hupid.write8 _).write8 _).write8 _).write8 _).write8 _).write8
      _).write8 _).write8 _).write8 _) hlen
  | proprietaryCommandRequestData =>
    simp only [MultipleOperationMessageOperation.dataSize] at hsize
    rw [genOperation, genProprietaryCommandRequestData]
    exact genBuffer_eq (klbsWriteCells_octets ((genStart_writes.write32 _).write8 _)
      (by rw [Vector.length_toList]; omega)) hlen
  | insertTierData =>
    rw [genOperation, genTierData]
    exact genBuffer_eq (genStart_writes.write16 _) hlen
  | insertTimeDescriptor =>
    rw [genOperation, genTimeDescriptor]
    exact genBuffer_eq (((genStart_writes.write48 _).write32 _).write16 _) hlen

/-- A `gen_*` function that meets no fault fits its buffer and its array. -/
lemma genOperation_safe (h : (genOperation o k).Safe) : o.dataSize k ≤ 255 ∧ o.DtmfHolds k := by
  by_contra hno
  refine absurd h ?_
  have hother : k ≠ .insertDtmfRequestData → o.DtmfHolds k := fun hne heq => absurd heq hne
  cases k with
  | spliceRequestData | spliceNullRequestData | timeSignalRequestData | insertTierData
  | insertTimeDescriptor =>
    exact absurd ⟨by simp [MultipleOperationMessageOperation.dataSize], hother (by decide)⟩ hno
  | insertDescriptorRequestData =>
    have hsize : 255 < 1 + o.descriptorData.totalLength.toNat :=
      not_le.mp fun hle => hno ⟨hle, hother (by decide)⟩
    rw [genOperation, genDescriptorRequestData]
    rcases Nat.lt_or_ge 255 o.descriptorData.totalLength.toNat with hlt | hle
    · refine genBuffer_faults_ne_nil_of_serialize (klbsWriteCells_faults_ne_nil ?_ ?_)
      · omega
      · rw [Vector.length_toList]
        omega
    · refine genBuffer_faults_ne_nil (klbsWriteCells_octets (genStart_writes.write8 _) ?_) ?_
      · rwa [Vector.length_toList]
      · simp only [List.length_append, Bits.bigEndian_length, List.length_take,
          Vector.length_toList, maxDescSize]
        omega
  | insertDtmfRequestData =>
    have hsize : 7 < o.dtmfData.dtmfLength.toNat := by
      by_contra hle
      exact hno ⟨show 2 + o.dtmfData.dtmfLength.toNat ≤ 255 by omega, fun _ => not_lt.mp hle⟩
    rw [genOperation, genDtmfRequestData]
    refine genBuffer_faults_ne_nil_of_serialize (klbsWriteCells_faults_ne_nil ?_ ?_)
    · omega
    · rw [Vector.length_toList]
      omega
  | insertAvailDescriptorRequestData =>
    have hsize : 255 < 1 + 4 * o.availDescriptorData.numProviderAvails.toNat :=
      not_le.mp fun hle => hno ⟨hle, hother (by decide)⟩
    rw [genOperation, genAvailRequestData]
    rcases Nat.lt_or_ge 255 o.availDescriptorData.numProviderAvails.toNat with hlt | hle
    · refine genBuffer_faults_ne_nil_of_serialize (klbsWriteCells_faults_ne_nil ?_ ?_)
      · omega
      · rw [Vector.length_toList]
        omega
    · refine genBuffer_faults_ne_nil
        (klbsWriteCells_writes (k := 4) rfl (genStart_writes.write8 _) ?_) ?_
      · rw [Vector.length_toList]
        omega
      · simp only [List.length_append, Bits.bigEndian_length, List.length_flatMap, List.map_const',
          List.sum_replicate, smul_eq_mul, List.drop_zero, List.length_take,
          Vector.length_toList, maxDescSize]
        omega
  | insertSegmentationRequestData =>
    have hsize : 255 < 18 + o.segmentationData.upidLength.toNat :=
      not_le.mp fun hle => hno ⟨hle, hother (by decide)⟩
    rw [genOperation, genSegmentationRequestData]
    rcases Nat.lt_or_ge 255 o.segmentationData.upidLength.toNat with hlt | hle
    · have hupid := fun bs => @klbsWriteCells_faults_ne_nil 8 0
        o.segmentationData.upidLength.toNat .upid o.segmentationData.upid.toList bs
        (by omega) (by rw [Vector.length_toList]; omega)
      refine genBuffer_faults_ne_nil_of_serialize ?_
      iterate 9 refine (klbsWriteBits_faults _ _ _).ne_nil ?_
      exact hupid _
    · have hupid := @klbsWriteCells_octets o.segmentationData.upidLength.toNat _ .upid _ _ _
        o.segmentationData.upid.toList
          (((((genStart_writes.write32 o.segmentationData.eventId.toNat).write8
          o.segmentationData.eventCancelIndicator.toNat).write16
          o.segmentationData.duration.toNat).write8 o.segmentationData.upidType.toNat).write8
          o.segmentationData.upidLength.toNat)
        (by rwa [Vector.length_toList])
      refine genBuffer_faults_ne_nil (((((((((hupid.write8 _).write8 _).write8 _).write8 _).write8
        _).write8 _).write8 _).write8 _).write8 _) ?_
      simp only [List.length_append, Bits.bigEndian_length, List.length_nil, List.length_take,
        Vector.length_toList, maxDescSize]
      omega
  | proprietaryCommandRequestData =>
    have hsize : 255 < 5 + o.proprietaryData.dataLength.toNat :=
      not_le.mp fun hle => hno ⟨hle, hother (by decide)⟩
    rw [genOperation, genProprietaryCommandRequestData]
    rcases Nat.lt_or_ge 255 o.proprietaryData.dataLength.toNat with hlt | hle
    · refine genBuffer_faults_ne_nil_of_serialize (klbsWriteCells_faults_ne_nil ?_ ?_)
      · omega
      · rw [Vector.length_toList]
        omega
    · refine genBuffer_faults_ne_nil
        (klbsWriteCells_octets ((genStart_writes.write32 _).write8 _) ?_) ?_
      · rwa [Vector.length_toList]
      · simp only [List.length_append, Bits.bigEndian_length, List.length_take,
          Vector.length_toList, maxDescSize]
        omega

end Operations

/-! ### Messages -/

section Messages

variable {bs : KlbsContext} {cap : ℕ} {orig bytes : List Byte}

/-- Writing an operation keeps the faults. -/
lemma klbsWriteOperation_faults (bs : KlbsContext) (o : MultipleOperationMessageOperation) :
    bs.faults <+: (klbsWriteOperation bs o).faults := by
  unfold klbsWriteOperation
  cases MomOperation.ofID o.opID with
  | none => exact List.prefix_refl _
  | some k =>
    have hadd : bs.faults <+: (bs.addFaults (genOperation o k).faults).faults :=
      List.prefix_append _ _
    exact ((hadd.trans (klbsWriteBits_faults _ _ _)).trans (klbsWriteBits_faults _ _ _)).trans
      klbsWriteCells_faults

/-- An operation that meets no fault can be serialised. -/
lemma klbsWriteOperation_encodes {o : MultipleOperationMessageOperation}
    (h : (klbsWriteOperation bs o).faults = []) : OperationEncodes o := by
  intro k hk
  refine genOperation_safe ?_
  by_contra hfault
  unfold klbsWriteOperation at h
  rw [hk] at h
  have hadd : (bs.addFaults (genOperation o k).faults).faults ≠ [] :=
    (List.suffix_append bs.faults (genOperation o k).faults).ne_nil hfault
  exact (((klbsWriteBits_faults _ _ _).trans (klbsWriteBits_faults _ _ _)).trans
    klbsWriteCells_faults).ne_nil hadd h

/-- An operation is appended as its record. -/
lemma klbsWriteOperation_writes {o : MultipleOperationMessageOperation}
    (h : bs.WritesBytes cap orig bytes) (henc : OperationEncodes o) :
    (klbsWriteOperation bs o).WritesBytes cap orig (bytes ++ operationWire o) := by
  unfold klbsWriteOperation operationWire MultipleOperationMessageOperation.member
  cases hk : MomOperation.ofID o.opID with
  | none => simpa using h
  | some k =>
    obtain ⟨hsize, hdtmf⟩ := henc k hk
    dsimp only [Option.map_some]
    rw [genOperation_eq hsize hdtmf, KlbsContext.addFaults_nil]
    have hcells := @klbsWriteCells_octets _ _ .outBuf _ _ _ _
      ((h.write16 o.opID.toNat).write16 (o.memberAs k).wire.length)
      (show (o.memberAs k).wire.length ≤ ((o.memberAs k).wire ++
        List.replicate (maxDescSize - (o.memberAs k).wire.length) 0).length by simp)
    rw [List.take_left] at hcells
    simpa only [List.append_assoc] using hcells

/-- Writing operations keeps the faults. -/
lemma klbsWriteOperations_faults (ops : List MultipleOperationMessageOperation) (i count : ℕ) :
    bs.faults <+: (klbsWriteOperations ops i count bs).faults := by
  induction count generalizing i bs with
  | zero => exact List.prefix_refl _
  | succ count ih =>
    refine List.IsPrefix.trans ?_ (ih (i + 1))
    cases ops[i]? with
    | none => exact List.prefix_append _ _
    | some o => exact klbsWriteOperation_faults _ _

variable {ops : List MultipleOperationMessageOperation} {i count : ℕ}

/-- Operations that meet no fault can be serialised. -/
lemma klbsWriteOperations_encodes (h : (klbsWriteOperations ops i count bs).faults = [])
    (hcount : i + count = ops.length) : ∀ o ∈ ops.drop i, OperationEncodes o := by
  induction count generalizing i bs with
  | zero => simp [List.drop_of_length_le (show ops.length ≤ i by omega)]
  | succ count ih =>
    have hi : i < ops.length := by omega
    rw [klbsWriteOperations, List.getElem?_eq_getElem hi] at h
    rw [List.drop_eq_getElem_cons hi, List.forall_mem_cons]
    refine ⟨@klbsWriteOperation_encodes bs _ ?_, ih h (by omega)⟩
    exact List.prefix_nil.mp (h ▸ klbsWriteOperations_faults ops (i + 1) count)

/-- Operations are appended as their records. -/
lemma klbsWriteOperations_writes (h : bs.WritesBytes cap orig bytes)
    (henc : ∀ o ∈ ops, OperationEncodes o) (hcount : i + count = ops.length) :
    (klbsWriteOperations ops i count bs).WritesBytes cap orig
      (bytes ++ (ops.drop i).flatMap operationWire) := by
  induction count generalizing i bs bytes with
  | zero =>
    simpa [klbsWriteOperations, List.drop_of_length_le (show ops.length ≤ i by omega)] using h
  | succ count ih =>
    have hi : i < ops.length := by omega
    have hop := klbsWriteOperation_writes h (henc ops[i] (List.getElem_mem hi))
    rw [klbsWriteOperations, List.getElem?_eq_getElem hi, List.drop_eq_getElem_cons hi,
      List.flatMap_cons, ← List.append_assoc]
    exact ih hop (by omega)

/-- A timestamp is appended as the octets of its value. -/
lemma klbsWriteTimestamp_writes (h : bs.WritesBytes cap orig bytes)
    (ts : MultipleOperationMessageTimestamp) :
    (klbsWriteTimestamp bs ts).WritesBytes cap orig (bytes ++ ts.valueWire) := by
  unfold klbsWriteTimestamp MultipleOperationMessageTimestamp.valueWire
    MultipleOperationMessageTimestamp.value
  split_ifs with h₁ h₂ h₃
  · simpa only [List.append_assoc] using (h.write32 _).write16 _
  · simpa only [List.append_assoc, List.cons_append, List.nil_append] using
      (((h.writeOctet _).writeOctet _).writeOctet _).writeOctet _
  · simpa only [List.append_assoc, List.cons_append, List.nil_append] using
      (h.writeOctet _).writeOctet _
  · simpa using h

/-- A message is written with its old size in the second word. -/
lemma klbsWriteMessage_writes {m : MultipleOperationMessage} (h : bs.WritesBytes cap orig [])
    (henc : ∀ o ∈ m.ops, OperationEncodes o) (hops : m.ops.length = m.numOps.toNat) :
    (klbsWriteMessage m bs).WritesBytes cap orig (m.wireWith m.messageSize.toNat) := by
  have hhead := (((((((h.write16 0xffff).write16 m.messageSize.toNat).writeOctet
    m.protocolVersion).writeOctet m.asIndex).writeOctet m.messageNumber).write16
    m.dpiPidIndex.toNat).writeOctet m.scte35ProtocolVersion).writeOctet m.timestamp.timeType
  have hts := (klbsWriteTimestamp_writes hhead m.timestamp).writeOctet m.numOps
  have hall := klbsWriteOperations_writes (i := 0) hts henc (by rw [hops, Nat.zero_add])
  have hbytes := hall.writeBufferComplete ▸ hall
  unfold klbsWriteMessage
  simpa [MultipleOperationMessage.wireWith, MultipleOperationMessage.wireHead,
    show Bits.bigEndian 2 0xffff = [0xff, 0xff] from rfl] using hbytes

/-- A message is serialised without a fault exactly when its operations can be serialised and it
fits the buffer. -/
lemma klbsWriteMessage_faults {m : MultipleOperationMessage} (h : bs.WritesBytes cap orig [])
    (hcap : orig.length = cap) (hops : m.ops.length = m.numOps.toNat) :
    (klbsWriteMessage m bs).faults = [] ↔
      (∀ o ∈ m.ops, OperationEncodes o) ∧ m.wireSize ≤ cap := by
  constructor
  · intro hsafe
    obtain ⟨bs', hbs'⟩ : ∃ bs', klbsWriteMessage m bs =
        klbsWriteBufferComplete (klbsWriteOperations m.ops 0 m.numOps.toNat bs') := ⟨_, rfl⟩
    have hkept := klbsWriteBufferComplete_faults (klbsWriteOperations m.ops 0 m.numOps.toNat bs')
    rw [← hbs', hsafe] at hkept
    have henc : ∀ o ∈ m.ops, OperationEncodes o :=
      klbsWriteOperations_encodes (i := 0) (List.prefix_nil.mp hkept)
        ((Nat.zero_add _).trans hops.symm)
    have hwrites := klbsWriteMessage_writes h henc hops
    have hle := (hwrites.faults_eq_nil_iff hcap).mp hsafe
    rw [MultipleOperationMessage.wireWith_length henc] at hle
    exact ⟨henc, hle⟩
  · rintro ⟨henc, hle⟩
    have hwrites := klbsWriteMessage_writes h henc hops
    rw [hwrites.faults_eq_nil_iff hcap, MultipleOperationMessage.wireWith_length henc]
    exact hle

end Messages

/-! ### Packets -/

section Packets

variable {pkt : KlvancPacketScte104}

/-- The size put over the second word of a message. -/
lemma set_size (m : MultipleOperationMessage) (old : ℕ) {size : ℕ} (hsize : size < 2 ^ 16)
    (post : List Byte) :
    ((m.wireWith old ++ post).set 2 (lowByte (BitVec.ofNat 16 size >>> 8))).set 3
        (lowByte (BitVec.ofNat 16 size &&& 0xff)) = m.wireWith size ++ post := by
  have hhigh : lowByte (BitVec.ofNat 16 size >>> 8) = BitVec.ofNat 8 (size >>> (8 * 1)) := by
    apply BitVec.eq_of_toNat_eq
    simp only [lowByte, BitVec.toNat_setWidth, BitVec.toNat_ushiftRight, BitVec.toNat_ofNat,
      Nat.mod_eq_of_lt hsize]
  have hlow : lowByte (BitVec.ofNat 16 size &&& 0xff) = BitVec.ofNat 8 (size >>> (8 * 0)) := by
    rw [← sanitizeWord, lowByte_sanitizeWord]
    apply BitVec.eq_of_toNat_eq
    simp only [lowByte, BitVec.toNat_setWidth, BitVec.toNat_ofNat, Nat.mod_eq_of_lt hsize,
      Nat.mul_zero, Nat.shiftRight_zero]
  rw [hhigh, hlow]
  rfl

/-- A packet is converted without a fault exactly when its operations can be serialised and its
message fits the buffer of 2000 octets. -/
theorem klvancConvertScte104ToPacketBytes_safe (hopID : pkt.soMsg.opID = 0xffff)
    (hops : pkt.moMsg.ops.length = pkt.moMsg.numOps.toNat) :
    (klvancConvertScte104ToPacketBytes pkt).Safe ↔
      (∀ o ∈ pkt.moMsg.ops, OperationEncodes o) ∧ pkt.moMsg.wireSize ≤ 2000 := by
  unfold klvancConvertScte104ToPacketBytes
  rw [if_neg (not_not.mpr hopID)]
  exact klbsWriteMessage_faults (KlbsContext.WritesBytes.setBuffer List.length_replicate.ge)
    List.length_replicate hops

/-- The octets of a packet are those of its message. -/
theorem klvancConvertScte104ToPacketBytes_eq (hopID : pkt.soMsg.opID = 0xffff)
    (hops : pkt.moMsg.ops.length = pkt.moMsg.numOps.toNat)
    (henc : ∀ o ∈ pkt.moMsg.ops, OperationEncodes o) (hsize : pkt.moMsg.wireSize ≤ 2000) :
    klvancConvertScte104ToPacketBytes pkt =
      ⟨.ok (pkt.moMsg.wire ++ List.replicate (2000 - pkt.moMsg.wireSize) 0, pkt.moMsg.wireSize),
        []⟩ := by
  have hstart := @KlbsContext.WritesBytes.setBuffer 2000 (List.replicate 2000 (0 : Byte))
    List.length_replicate.ge
  have hwrites := klbsWriteMessage_writes hstart henc hops
  have hlen := MultipleOperationMessage.wireWith_length henc pkt.moMsg.messageSize.toNat
  have hbuf := hwrites.buf_eq (by omega)
  have hcount := hwrites.byteCount
  have hfaults := (klbsWriteMessage_faults hstart List.length_replicate hops).mpr ⟨henc, hsize⟩
  rw [hlen] at hbuf hcount
  rw [List.drop_replicate] at hbuf
  unfold klvancConvertScte104ToPacketBytes
  rw [if_neg (not_not.mpr hopID)]
  dsimp only
  rw [hbuf, hcount, hfaults, set_size _ _ (by omega), Nat.mod_eq_of_lt (by omega),
    MultipleOperationMessage.wire]

end Packets

end Libklvanc
