import Libklvanc.Bitstream.Reader
import Libklvanc.Scte104.Parse
import Libklvanc.Scte104.Wire

/-!
# What the parser reads back

The parser of an operation, given the octets of a member, reads the member back and meets no fault
(`parseOperation_wire`); the parsers of the timestamp, of the list of operations and of a whole
message do the same where their octets stand in the message (`parseMultipleOperationMessage_wire`).
-/

namespace Libklvanc

/-! ### Reading fields -/

section Reads

variable {obj : MemObject} {p : List Byte} {i : ℕ}

/-- Reading an octet that stands in the data. -/
lemma readAt_of_getElem? {b : Byte} (h : p[i]? = some b) : readAt obj p i = pure b := by
  simp [readAt, Checked.read, h]

/-- Reading an octet written as a field. -/
lemma readAt_wire {b : Byte} (h : OccursAt (Bits.bigEndian 1 b.toNat) p i) :
    readAt obj p i = pure b := by
  rw [Bits.bigEndian, OccursAt.cons_iff] at h
  rw [readAt_of_getElem? h.1]
  simp

/-- Reading an octet of an `unsigned int` that fits it. -/
lemma readUInt8_wire {v : BitVec 32} (hv : v.toNat < 2 ^ 8)
    (h : OccursAt (Bits.bigEndian 1 v.toNat) p i) : readUInt8 obj p i = pure v := by
  rw [Bits.bigEndian, OccursAt.cons_iff] at h
  rw [readUInt8, readAt_of_getElem? h.1, pure_bind]
  congr 1
  apply BitVec.eq_of_toNat_eq
  simp only [Nat.mul_zero, Nat.shiftRight_zero, BitVec.toNat_setWidth, BitVec.toNat_ofNat,
    Nat.mod_eq_of_lt hv, Nat.mod_eq_of_lt v.isLt]

/-- Reading a field of two octets. -/
lemma readBe16_wire {v : Word} (h : OccursAt (Bits.bigEndian 2 v.toNat) p i) :
    readBe16 obj p i = pure v := by
  simp only [Bits.bigEndian, OccursAt.cons_iff] at h
  rw [readBe16, readAt_of_getElem? h.1, pure_bind, readAt_of_getElem? h.2.1, pure_bind,
    be16_bigEndian v.isLt, BitVec.ofNat_toNat, BitVec.setWidth_eq]

/-- Reading a field of four octets. -/
lemma readBe32_wire {v : BitVec 32} (h : OccursAt (Bits.bigEndian 4 v.toNat) p i) :
    readBe32 obj p i = pure v := by
  simp only [Bits.bigEndian, OccursAt.cons_iff] at h
  rw [readBe32, readAt_of_getElem? h.1, pure_bind, readAt_of_getElem? h.2.1, pure_bind,
    readAt_of_getElem? h.2.2.1, pure_bind, readAt_of_getElem? h.2.2.2.1, pure_bind,
    be32_bigEndian]

/-- Copying octets that stand in the data. -/
lemma copyFrom_wire {l : List Byte} {n : ℕ} (hn : l.length = n) (h : OccursAt l p i) :
    copyFrom obj p i n = pure l := by
  subst hn
  rcases Nat.eq_zero_or_pos l.length with hzero | hpos
  · rw [List.eq_nil_of_length_eq_zero hzero]
    rfl
  · have hle := h.add_length_le hpos
    have hsafe := (Checked.safe_readRange (Fault.read obj) (0 : Byte) p).mpr (Or.inr hle)
    have hval := Checked.readRange_val_of_le (Fault.read obj) (0 : Byte) p hle
    rw [h.take_drop] at hval
    exact Checked.ext hval hsafe

/-- Reading the avail ids back. -/
lemma parseAvailIds_wire {ids : List (BitVec 32)} {n : ℕ} (hn : ids.length = n)
    (h : OccursAt (ids.flatMap fun id => Bits.bigEndian 4 id.toNat) p i) :
    parseAvailIds p i n = pure ids := by
  subst hn
  induction ids generalizing i with
  | nil => rfl
  | cons id ids ih =>
    rw [List.flatMap_cons, OccursAt.append_iff, Bits.bigEndian_length] at h
    rw [List.length_cons, parseAvailIds, readBe32_wire h.1, pure_bind, ih h.2, pure_bind]

end Reads

/-! ### Members -/

section Members

variable {p : List Byte}

lemma parseSpliceRequestData_wire {d : SpliceRequestData} (hfit : d.spliceInsertType.toNat < 2 ^ 8)
    (h : OccursAt (OperationMember.spliceRequestData d).wire p 0) :
    parseSpliceRequestData p = pure d := by
  simp only [OperationMember.wire, OccursAt.append_iff, List.length_append, Bits.bigEndian_length,
    Nat.zero_add, Nat.reduceAdd] at h
  obtain ⟨⟨⟨⟨⟨⟨⟨h₀, h₁⟩, h₅⟩, h₇⟩, h₉⟩, h₁₁⟩, h₁₂⟩, h₁₃⟩ := h
  simp only [parseSpliceRequestData, readUInt8_wire hfit h₀, readBe32_wire h₁, readBe16_wire h₅,
    readBe16_wire h₇, readBe16_wire h₉, readAt_wire h₁₁, readAt_wire h₁₂, readAt_wire h₁₃,
    pure_bind]

lemma parseTimeSignalRequestData_wire {d : TimeSignalRequestData}
    (h : OccursAt (OperationMember.timeSignalRequestData d).wire p 0) :
    parseTimeSignalRequestData p = pure d := by
  simp only [parseTimeSignalRequestData, readBe16_wire h, pure_bind]

lemma parseTierData_wire {d : TierData} (hfit : d.tierData.toNat < 0x1000)
    (h : OccursAt (OperationMember.insertTierData d).wire p 0) : parseTierData p = pure d := by
  have hand : d.tierData &&& 0x0fff = d.tierData := by
    apply BitVec.eq_of_toNat_eq
    rw [BitVec.toNat_and]
    exact (Nat.and_two_pow_sub_one_eq_mod d.tierData.toNat 12).trans (Nat.mod_eq_of_lt hfit)
  rw [OperationMember.wire, hand] at h
  simp only [parseTierData, readBe16_wire h, pure_bind, hand]

lemma parseDescriptorRequestData_wire {descriptorCount totalLength : BitVec 32} {bytes : List Byte}
    (hcount : descriptorCount.toNat < 2 ^ 8) (hlen : bytes.length = totalLength.toNat)
    (hlt : totalLength.toNat < 255)
    (h : OccursAt (OperationMember.insertDescriptorRequestData descriptorCount totalLength
      bytes).wire p 0) :
    parseDescriptorRequestData p totalLength =
      pure { descriptorCount, totalLength, descriptorBytes := zeroPad 255 bytes } := by
  simp only [OperationMember.wire, OccursAt.append_iff, Bits.bigEndian_length, Nat.zero_add] at h
  obtain ⟨h₀, h₁⟩ := h
  simp only [parseDescriptorRequestData, readUInt8_wire hcount h₀, pure_bind, if_pos hlt,
    copyFrom_wire hlen h₁, storeInto_of_le (show bytes.length ≤ 255 by omega)]

lemma parseDtmfRequestData_wire {preRollTime : Byte} {dtmfLength : BitVec 32} {chars : List Byte}
    (hlen : chars.length = dtmfLength.toNat) (hle : dtmfLength.toNat ≤ 7)
    (h : OccursAt (OperationMember.insertDtmfRequestData preRollTime dtmfLength chars).wire p 0) :
    parseDtmfRequestData p = pure { preRollTime, dtmfLength, dtmfChar := zeroPad 7 chars } := by
  simp only [OperationMember.wire, OccursAt.append_iff, List.length_append, Bits.bigEndian_length,
    Nat.zero_add, Nat.reduceAdd] at h
  obtain ⟨⟨h₀, h₁⟩, h₂⟩ := h
  simp only [parseDtmfRequestData, readAt_wire h₀,
    readUInt8_wire (show dtmfLength.toNat < 2 ^ 8 by omega) h₁, pure_bind, if_pos hle,
    copyFrom_wire hlen h₂, storeInto_of_le (show chars.length ≤ 7 by omega)]

lemma parseAvailRequestData_wire {numProviderAvails : BitVec 32} {ids : List (BitVec 32)}
    (hlen : ids.length = numProviderAvails.toNat) (hle : numProviderAvails.toNat ≤ 255)
    (h : OccursAt (OperationMember.insertAvailDescriptorRequestData numProviderAvails ids).wire
      p 0) :
    parseAvailRequestData p =
      pure { numProviderAvails, providerAvailId := zeroPad 255 ids } := by
  simp only [OperationMember.wire, OccursAt.append_iff, Bits.bigEndian_length, Nat.zero_add] at h
  obtain ⟨h₀, h₁⟩ := h
  simp only [parseAvailRequestData,
    readUInt8_wire (show numProviderAvails.toNat < 2 ^ 8 by omega) h₀, pure_bind,
    parseAvailIds_wire hlen h₁, storeInto_of_le (show ids.length ≤ 255 by omega)]

lemma parseProprietaryCommandRequestData_wire
    {proprietaryId proprietaryCommand dataLength n : BitVec 32}
    {data : List Byte} (hcommand : proprietaryCommand.toNat < 2 ^ 8)
    (hlen : data.length = dataLength.toNat) (hle : dataLength.toNat ≤ 255)
    (hn : n - 5 = dataLength)
    (h : OccursAt (OperationMember.proprietaryCommandRequestData proprietaryId proprietaryCommand
      dataLength data).wire p 0) :
    parseProprietaryCommandRequestData p n =
      pure
        { proprietaryId, proprietaryCommand, dataLength
          proprietaryData := zeroPad 255 data } := by
  simp only [OperationMember.wire, OccursAt.append_iff, List.length_append, Bits.bigEndian_length,
    Nat.zero_add, Nat.reduceAdd] at h
  obtain ⟨⟨h₀, h₄⟩, h₅⟩ := h
  simp only [parseProprietaryCommandRequestData, readBe32_wire h₀, readUInt8_wire hcommand h₄,
    pure_bind, hn, copyFrom_wire hlen h₅, storeInto_of_le (show data.length ≤ 255 by omega)]

lemma parseSegmentationRequestData_wire {o : MultipleOperationMessageOperation} {upid : List Byte}
    (hfit : o.FieldsFit .insertSegmentationRequestData)
    (hle : o.segmentationData.upidLength.toNat ≤ 255)
    (hlen : upid.length = o.segmentationData.upidLength.toNat)
    (h : OccursAt (OperationMember.insertSegmentationRequestData o.segmentationData upid).wire
      p 0) :
    parseSegmentationRequestData p = pure { o.segmentationData with upid := zeroPad 255 upid } := by
  obtain ⟨hcancel, hduration, htype, htypeId, hnum, hexpected, hframes, hdelivery, hweb, hblackout,
    harchive, hdevice⟩ := hfit
  generalize o.segmentationData = d at *
  have hduration' : ((d.duration.setWidth 16).setWidth 32 : BitVec 32) = d.duration := by
    apply BitVec.eq_of_toNat_eq
    simp only [BitVec.toNat_setWidth, Nat.mod_eq_of_lt hduration, Nat.mod_eq_of_lt d.duration.isLt]
  have hword : d.duration.toNat = (d.duration.setWidth 16).toNat := by
    simp only [BitVec.toNat_setWidth, Nat.mod_eq_of_lt hduration]
  simp only [OperationMember.wire, OccursAt.append_iff, List.length_append, Bits.bigEndian_length,
    Nat.zero_add, Nat.add_assoc, Nat.reduceAdd, hlen] at h
  obtain ⟨⟨⟨⟨⟨⟨⟨⟨⟨⟨⟨⟨⟨⟨h₀, h₄⟩, h₅⟩, h₇⟩, h₈⟩, h₉⟩, g₀⟩, g₁⟩, g₂⟩, g₃⟩, g₄⟩, g₅⟩, g₆⟩, g₇⟩, g₈⟩ := h
  rw [hword] at h₅
  simp only [parseSegmentationRequestData, readBe32_wire h₀, readUInt8_wire hcancel h₄,
    readBe16_wire h₅, readUInt8_wire htype h₇,
    readUInt8_wire (show d.upidLength.toNat < 2 ^ 8 by omega) h₈, pure_bind,
    if_neg (show ¬255 < d.upidLength.toNat by omega), copyFrom_wire hlen h₉,
    storeInto_of_le (show upid.length ≤ 255 by omega), Nat.add_assoc, readUInt8_wire htypeId g₀,
    readUInt8_wire hnum g₁, readUInt8_wire hexpected g₂, readUInt8_wire hframes g₃,
    readUInt8_wire hdelivery g₄, readUInt8_wire hweb g₅, readUInt8_wire hblackout g₆,
    readUInt8_wire harchive g₇, readUInt8_wire hdevice g₈, hduration']

/-- Reading a field of a bitstream back. -/
lemma klbsReadBits_wire {bs : KlbsContext} {w : ℕ} {v : BitVec 64} {rest : List Bool}
    (h : bs.Reads (Bits.ofNat w v.toNat ++ rest)) (hw : w ≤ 64) (hv : v.toNat < 2 ^ w) :
    ∃ bs', klbsReadBits bs w = (v, bs') ∧ bs'.Reads rest ∧ bs'.faults = bs.faults := by
  obtain ⟨v', bs', hread, hval, hrest, hfaults, -, -⟩ := h.readField hw
  rw [Nat.mod_eq_of_lt hv] at hval
  exact ⟨bs', by rw [hread, BitVec.eq_of_toNat_eq hval], hrest, hfaults⟩

lemma parseTimeDescriptor_wire {d : TimeDescriptorData} (htai : d.taiSeconds.toNat < 2 ^ 48)
    (hutc : d.utcOffset.toNat < 2 ^ 16) :
    parseTimeDescriptor (OperationMember.insertTimeDescriptor d).wire = pure d := by
  have hbits : Bits.ofBytes (OperationMember.insertTimeDescriptor d).wire =
      Bits.ofNat 48 d.taiSeconds.toNat ++ (Bits.ofNat 32 (d.taiNs.setWidth 64).toNat ++
        (Bits.ofNat 16 (d.utcOffset.setWidth 64).toNat ++ [])) := by
    simp only [OperationMember.wire, Bits.ofBytes_append, Bits.ofBytes_bigEndian, Nat.reduceMul,
      BitVec.toNat_setWidth, List.append_assoc, List.append_nil]
    rw [Nat.mod_eq_of_lt (lt_trans d.taiNs.isLt (by norm_num)),
      Nat.mod_eq_of_lt (lt_trans d.utcOffset.isLt (by norm_num))]
  have hreads := @KlbsContext.Reads.setBuffer (OperationMember.insertTimeDescriptor d).wire
    (show 12 < 2 ^ 32 by norm_num)
  rw [hbits, show (OperationMember.insertTimeDescriptor d).wire.length = 12 from rfl] at hreads
  obtain ⟨bs₁, h₁, hreads, hf₁⟩ := klbsReadBits_wire hreads (by norm_num) htai
  obtain ⟨bs₂, h₂, hreads, hf₂⟩ := klbsReadBits_wire hreads (by norm_num)
    (by rw [BitVec.toNat_setWidth]; exact (Nat.mod_le _ _).trans_lt d.taiNs.isLt)
  obtain ⟨bs₃, h₃, -, hf₃⟩ := klbsReadBits_wire hreads (by norm_num)
    (by rw [BitVec.toNat_setWidth]; exact (Nat.mod_le _ _).trans_lt hutc)
  have hfaults : bs₃.faults = [] := hf₃.trans (hf₂.trans hf₁)
  simp only [parseTimeDescriptor, h₁, h₂, h₃, hfaults,
    BitVec.setWidth_setWidth_of_le _ (show 32 ≤ 64 by norm_num), BitVec.setWidth_eq]
  rfl

/-- The part of a padded array that a declared length covers. -/
lemma zeroPad_take_of_length {α : Type} [Zero α] {l : List α} {n k : ℕ} (hlen : l.length = k)
    (hle : k ≤ n) : (zeroPad n l).toList.take k = l := by
  subst hlen
  exact zeroPad_take hle

/-- The octets of a member are read back as the member, without a fault. -/
theorem parseOperation_wire {o : MultipleOperationMessageOperation} {k : MomOperation}
    (hk : MomOperation.ofID o.opID = some k) (hsize : o.dataSize k ≤ 255) (hfit : o.FieldsFit k) :
    ∃ o', parseOperation o.opID (o.memberAs k).wire = pure o' ∧ o'.opID = o.opID ∧
      o'.memberAs k = o.memberAs k := by
  have hdtmf : o.DtmfHolds k := by
    rintro rfl
    exact hfit
  have hwire := MultipleOperationMessageOperation.wire_length hsize hdtmf
  unfold parseOperation
  rw [hk, hwire]
  cases k with
  | spliceRequestData =>
    have hparse := parseSpliceRequestData_wire hfit (OccursAt.refl _)
    exact ⟨_, (congrArg (· >>= _) hparse).trans (pure_bind _ _), rfl, rfl⟩
  | spliceNullRequestData => exact ⟨_, rfl, rfl, rfl⟩
  | timeSignalRequestData =>
    have hparse := parseTimeSignalRequestData_wire (d := o.timesignalData) (OccursAt.refl _)
    exact ⟨_, (congrArg (· >>= _) hparse).trans (pure_bind _ _), rfl, rfl⟩
  | insertDescriptorRequestData =>
    simp only [MultipleOperationMessageOperation.dataSize] at hsize ⊢
    have hlt : o.descriptorData.totalLength.toNat < 255 := by omega
    have hn : (BitVec.ofNat 16 (1 + o.descriptorData.totalLength.toNat)).setWidth 32 - 1 =
        o.descriptorData.totalLength := by
      apply BitVec.eq_of_toNat_eq
      bv_omega
    have hlen : (o.descriptorData.descriptorBytes.toList.take
        o.descriptorData.totalLength.toNat).length = o.descriptorData.totalLength.toNat := by
      rw [List.length_take, Vector.length_toList]
      omega
    have hparse := parseDescriptorRequestData_wire hfit hlen hlt (OccursAt.refl _)
    rw [MultipleOperationMessageOperation.memberAs, hn, hparse]
    refine ⟨_, pure_bind _ _, rfl, ?_⟩
    dsimp only [MultipleOperationMessageOperation.memberAs]
    rw [zeroPad_take_of_length hlen hlt.le]
  | insertDtmfRequestData =>
    have hle : o.dtmfData.dtmfLength.toNat ≤ 7 := hfit
    have hlen : (o.dtmfData.dtmfChar.toList.take o.dtmfData.dtmfLength.toNat).length =
        o.dtmfData.dtmfLength.toNat := by
      rw [List.length_take, Vector.length_toList]
      omega
    have hparse := parseDtmfRequestData_wire hlen hle
      (OccursAt.refl (OperationMember.insertDtmfRequestData o.dtmfData.preRollTime _ _).wire)
    dsimp only
    rw [MultipleOperationMessageOperation.memberAs, hparse]
    refine ⟨_, pure_bind _ _, rfl, ?_⟩
    dsimp only [MultipleOperationMessageOperation.memberAs]
    rw [zeroPad_take_of_length hlen hle]
  | insertAvailDescriptorRequestData =>
    simp only [MultipleOperationMessageOperation.dataSize] at hsize ⊢
    have hle : o.availDescriptorData.numProviderAvails.toNat ≤ 255 := by omega
    have hlen : (o.availDescriptorData.providerAvailId.toList.take
        o.availDescriptorData.numProviderAvails.toNat).length =
        o.availDescriptorData.numProviderAvails.toNat := by
      rw [List.length_take, Vector.length_toList]
      omega
    have hparse := parseAvailRequestData_wire hlen hle (OccursAt.refl _)
    rw [MultipleOperationMessageOperation.memberAs, hparse]
    refine ⟨_, pure_bind _ _, rfl, ?_⟩
    dsimp only [MultipleOperationMessageOperation.memberAs]
    rw [zeroPad_take_of_length hlen hle]
  | insertSegmentationRequestData =>
    simp only [MultipleOperationMessageOperation.dataSize] at hsize ⊢
    have hle : o.segmentationData.upidLength.toNat ≤ 255 := by omega
    have hlen : (o.segmentationData.upid.toList.take o.segmentationData.upidLength.toNat).length =
        o.segmentationData.upidLength.toNat := by
      rw [List.length_take, Vector.length_toList]
      omega
    have hparse := parseSegmentationRequestData_wire hfit hle hlen (OccursAt.refl _)
    rw [MultipleOperationMessageOperation.memberAs]
    refine ⟨_, (congrArg (· >>= _) hparse).trans (pure_bind _ _), rfl, ?_⟩
    dsimp only [MultipleOperationMessageOperation.memberAs]
    rw [zeroPad_take_of_length hlen hle]
  | proprietaryCommandRequestData =>
    simp only [MultipleOperationMessageOperation.dataSize] at hsize ⊢
    have hle : o.proprietaryData.dataLength.toNat ≤ 255 := by omega
    have hn : (BitVec.ofNat 16 (5 + o.proprietaryData.dataLength.toNat)).setWidth 32 - 5 =
        o.proprietaryData.dataLength := by
      apply BitVec.eq_of_toNat_eq
      bv_omega
    have hlen : (o.proprietaryData.proprietaryData.toList.take
        o.proprietaryData.dataLength.toNat).length = o.proprietaryData.dataLength.toNat := by
      rw [List.length_take, Vector.length_toList]
      omega
    have hparse := @parseProprietaryCommandRequestData_wire _
      o.proprietaryData.proprietaryId _ _ _ _ hfit hlen hle hn (OccursAt.refl _)
    rw [MultipleOperationMessageOperation.memberAs, hparse]
    refine ⟨_, pure_bind _ _, rfl, ?_⟩
    dsimp only [MultipleOperationMessageOperation.memberAs]
    rw [zeroPad_take_of_length hlen hle]
  | insertTierData =>
    have hparse := parseTierData_wire hfit (OccursAt.refl _)
    exact ⟨_, (congrArg (· >>= _) hparse).trans (pure_bind _ _), rfl, rfl⟩
  | insertTimeDescriptor =>
    have hparse := parseTimeDescriptor_wire hfit.1 hfit.2
    exact ⟨_, (congrArg (· >>= _) hparse).trans (pure_bind _ _), rfl, rfl⟩

end Members

/-! ### Messages -/

section Messages

variable {p : List Byte} {i : ℕ}

/-- The octets of a timestamp are read back as a timestamp of the same type and value. -/
lemma parseMomTimestamp_wire {ts : MultipleOperationMessageTimestamp}
    (h : OccursAt (ts.timeType :: ts.valueWire) p i) :
    ∃ ts', parseMomTimestamp p i = pure (ts', i + (1 + ts.valueWire.length)) ∧
      ts'.timeType = ts.timeType ∧ ts'.value = ts.value := by
  rw [OccursAt.cons_iff] at h
  obtain ⟨htype, hvalue⟩ := h
  unfold parseMomTimestamp
  rw [readAt_of_getElem? htype, pure_bind]
  unfold MultipleOperationMessageTimestamp.valueWire MultipleOperationMessageTimestamp.value at *
  split_ifs at * with h₁ h₂ h₃
  · simp only [OccursAt.append_iff, Bits.bigEndian_length] at hvalue
    rw [readBe32_wire hvalue.1, pure_bind, readBe16_wire hvalue.2, pure_bind]
    exact ⟨_, rfl, rfl, by simp [h₁]⟩
  · simp only [OccursAt.cons_iff] at hvalue
    obtain ⟨g₁, g₂, g₃, g₄, -⟩ := hvalue
    rw [readAt_of_getElem? g₁, pure_bind, readAt_of_getElem? g₂, pure_bind,
      readAt_of_getElem? g₃, pure_bind, readAt_of_getElem? g₄, pure_bind]
    exact ⟨_, rfl, rfl, by simp [h₂]⟩
  · simp only [OccursAt.cons_iff] at hvalue
    obtain ⟨g₁, g₂, -⟩ := hvalue
    rw [readAt_of_getElem? g₁, pure_bind, readAt_of_getElem? g₂, pure_bind]
    exact ⟨_, rfl, rfl, by simp [h₃]⟩
  · exact ⟨_, rfl, rfl, by rw [if_neg h₁, if_neg h₂, if_neg h₃]⟩

/-- An operation that is known, whose fields fit the wire. -/
def OperationSupported (o : MultipleOperationMessageOperation) : Prop :=
  ∃ k, MomOperation.ofID o.opID = some k ∧ o.FieldsFit k

instance (o : MultipleOperationMessageOperation) : Decidable (OperationSupported o) :=
  inferInstanceAs (Decidable (∃ k ∈ MomOperation.ofID o.opID, o.FieldsFit k))

/-- What a receiver sees of an operation. -/
def operationContent (o : MultipleOperationMessageOperation) : Word × Option OperationMember :=
  (o.opID, o.member)

/-- The records of operations are read back as operations with the same content. -/
lemma parseOperations_wire {ops : List MultipleOperationMessageOperation} {L pos : ℕ}
    (hsup : ∀ o ∈ ops, OperationSupported o) (henc : ∀ o ∈ ops, OperationEncodes o)
    (h : OccursAt (ops.flatMap operationWire) p pos)
    (hend : pos + (ops.flatMap operationWire).length ≤ L) :
    ∃ ops', parseOperations p L pos ops.length = pure (some ops') ∧
      ops'.map operationContent = ops.map operationContent := by
  induction ops generalizing pos with
  | nil => exact ⟨[], rfl, rfl⟩
  | cons o ops ih =>
    obtain ⟨k, hk, hfit⟩ := hsup o List.mem_cons_self
    obtain ⟨hsize, hdtmf⟩ := henc o List.mem_cons_self k hk
    obtain ⟨o', hparse, hopID, hmember⟩ := parseOperation_wire hk hsize hfit
    have hlen := MultipleOperationMessageOperation.wire_length hsize hdtmf
    have hrecord : operationWire o = Bits.bigEndian 2 o.opID.toNat ++
        (Bits.bigEndian 2 (BitVec.ofNat 16 (o.memberAs k).wire.length).toNat ++
          (o.memberAs k).wire) := by
      rw [BitVec.toNat_ofNat, Nat.mod_eq_of_lt (by omega)]
      simp [operationWire, MultipleOperationMessageOperation.member, hk]
    rw [List.flatMap_cons, OccursAt.append_iff] at h
    rw [List.flatMap_cons, List.length_append] at hend
    obtain ⟨ops', hrest, hcontent⟩ := ih (fun o ho => hsup o (List.mem_cons_of_mem _ ho))
      (fun o ho => henc o (List.mem_cons_of_mem _ ho)) h.2 (by omega)
    have hhead := h.1
    rw [hrecord, OccursAt.append_iff, OccursAt.append_iff, Bits.bigEndian_length,
      Bits.bigEndian_length] at hhead
    obtain ⟨h₀, h₂, h₄⟩ := hhead
    have hdata : (BitVec.ofNat 16 (o.memberAs k).wire.length).toNat =
        (o.memberAs k).wire.length := by
      rw [BitVec.toNat_ofNat, Nat.mod_eq_of_lt (by omega)]
    have htotal : (operationWire o).length = 4 + (o.memberAs k).wire.length := by
      rw [hrecord]
      simp only [List.length_append, Bits.bigEndian_length]
      omega
    refine ⟨o' :: ops', ?_, ?_⟩
    · rw [List.length_cons, parseOperations, readBe16_wire h₀, pure_bind, readBe16_wire h₂,
        pure_bind, hdata, if_neg (by omega), copyFrom_wire rfl h₄, pure_bind, hparse, pure_bind,
        ← htotal, hrest, pure_bind]
      rfl
    · have ho : operationContent o' = operationContent o := by
        simp only [operationContent, MultipleOperationMessageOperation.member, hopID, hk,
          Option.map_some, hmember]
      rw [List.map_cons, List.map_cons, ho, hcontent]

/-- Two messages with the same content for a receiver; their sizes and operations' data are not
compared. -/
structure SameMessage (m m' : MultipleOperationMessage) : Prop where
  protocolVersion : m'.protocolVersion = m.protocolVersion
  asIndex : m'.asIndex = m.asIndex
  messageNumber : m'.messageNumber = m.messageNumber
  dpiPidIndex : m'.dpiPidIndex = m.dpiPidIndex
  scte35ProtocolVersion : m'.scte35ProtocolVersion = m.scte35ProtocolVersion
  timeType : m'.timestamp.timeType = m.timestamp.timeType
  timestamp : m'.timestamp.value = m.timestamp.value
  numOps : m'.numOps = m.numOps
  ops : m'.ops.map operationContent = m.ops.map operationContent

/-- The octets of a message are read back as a message with the same content. -/
theorem parseMultipleOperationMessage_wire {m : MultipleOperationMessage}
    (hops : m.ops.length = m.numOps.toNat) (hsup : ∀ o ∈ m.ops, OperationSupported o)
    (henc : ∀ o ∈ m.ops, OperationEncodes o) (hsize : m.wireSize < 2 ^ 16)
    (h : OccursAt m.wire p 0) :
    ∃ m', parseMultipleOperationMessage p m.wireSize = pure (some m') ∧ SameMessage m m' ∧
      m'.messageSize.toNat = m.wireSize := by
  have hlen := MultipleOperationMessage.wireWith_length henc m.wireSize
  have hword : (BitVec.ofNat 16 m.wireSize).toNat = m.wireSize := by
    rw [BitVec.toNat_ofNat, Nat.mod_eq_of_lt hsize]
  have hlong : ¬m.wireSize < 10 := by
    unfold MultipleOperationMessage.wireSize
    omega
  rw [MultipleOperationMessage.wire] at h
  rw [MultipleOperationMessage.wireWith] at hlen
  nth_rewrite 1 [← hword] at h
  simp only [MultipleOperationMessage.wireWith, MultipleOperationMessage.wireHead,
    OccursAt.append_iff, OccursAt.cons_iff, List.length_append, List.length_cons, List.length_nil,
    Bits.bigEndian_length, Nat.zero_add, Nat.reduceAdd] at h
  obtain ⟨⟨⟨⟨⟨⟨⟨h₀, h₁, hnil⟩, h₂⟩, h₄, h₅, h₆, -⟩, h₇⟩, h₉, -⟩, h₁₀, h₁₁⟩, hnum, hrecords⟩ := h
  have hrsvd : OccursAt (Bits.bigEndian 2 (0xffff : Word).toNat) p 0 :=
    OccursAt.cons_iff.mpr ⟨h₀, OccursAt.cons_iff.mpr ⟨h₁, hnil⟩⟩
  obtain ⟨ts, hts, htype, hvalue⟩ := parseMomTimestamp_wire (OccursAt.cons_iff.mpr ⟨h₁₀, h₁₁⟩)
  have hpos : 10 + (m.timestamp.valueWire.length + 1) =
      10 + (1 + m.timestamp.valueWire.length) := by
    rw [Nat.add_comm 1]
  rw [hpos] at hnum hrecords
  simp only [List.length_append, List.length_cons, MultipleOperationMessage.wireHead,
    List.length_nil, Bits.bigEndian_length] at hlen
  obtain ⟨ops, hparse, hcontent⟩ := parseOperations_wire (L := m.wireSize) hsup henc hrecords
    (by omega)
  rw [hops] at hparse
  refine ⟨{ m with
      rsvd := 0xffff, messageSize := BitVec.ofNat 16 m.wireSize, timestamp := ts, ops := ops }, ?_,
    ⟨rfl, rfl, rfl, rfl, rfl, htype, hvalue, rfl, hcontent⟩, hword⟩
  rw [parseMultipleOperationMessage, if_neg hlong, readBe16_wire hrsvd, pure_bind,
    readBe16_wire h₂, pure_bind, readAt_of_getElem? h₄, pure_bind, readAt_of_getElem? h₅,
    pure_bind, readAt_of_getElem? h₆, pure_bind, readBe16_wire h₇, pure_bind,
    readAt_of_getElem? h₉, pure_bind, hword, if_neg (lt_irrefl _), hts, pure_bind]
  dsimp only
  rw [readAt_of_getElem? hnum, pure_bind, hparse, pure_bind]
  rfl

end Messages

end Libklvanc
