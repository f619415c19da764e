import Libklvanc.Bitstream.Klbs
import Libklvanc.Scte104.Framing
import Libklvanc.Scte104.Reassembly

/-!
# Delivering reassembled SCTE-104 messages

Ten fragments of a message can hold more octets than the array `payload` of a decoded packet. The
parser copies what the array holds, announces the length of all, and walks over the operations up to
the announced length. A message is delivered whole exactly when the assembled octets behind the
descriptor byte and the operations announced in them end within the array
(`parseSCTE104_wholeMessage_iff`).
-/

namespace Libklvanc

/-! ### What the walk over the operations reads -/

section Walk

variable {payload : List Byte} {L : ℕ}

/-- Reading a bit from a bitstream reads no other object. -/
lemma klbsReadBit_reads {obj : MemObject} (hobj : MemObject.bitstream ≠ obj) {ctx : KlbsContext}
    (h : ∀ f ∈ ctx.faults, ¬f.Reads obj) : ∀ f ∈ (klbsReadBit ctx).2.faults, ¬f.Reads obj := by
  have hassert : ∀ f ∈ (klbsAssertUsed ctx).faults, ¬f.Reads obj := by
    unfold klbsAssertUsed
    split_ifs
    · exact h
    · intro f hf
      rcases List.mem_append.mp hf with hf | hf
      · exact h f hf
      · rw [List.mem_singleton.mp hf]
        rintro ⟨i, hi⟩
        cases hi
  have hload : ∀ f ∈ (klbsLoad (klbsAssertUsed ctx)).2.faults, ¬f.Reads obj := by
    intro f hf
    rcases List.mem_append.mp hf with hf | hf
    · exact hassert f hf
    · obtain ⟨-, rfl⟩ := (Checked.mem_read_faults ..).mp hf
      rwa [reads_read]
  unfold klbsReadBit
  dsimp only
  split_ifs
  all_goals first | exact hload | exact hassert

/-- Reading bits from a bitstream reads no other object. -/
lemma klbsReadBits_reads {obj : MemObject} (hobj : MemObject.bitstream ≠ obj) {ctx : KlbsContext}
    (h : ∀ f ∈ ctx.faults, ¬f.Reads obj) (bitcount : ℕ) :
    ∀ f ∈ (klbsReadBits ctx bitcount).2.faults, ¬f.Reads obj := by
  have hloop : ∀ (n : ℕ) (ctx : KlbsContext) (bits : BitVec 64), (∀ f ∈ ctx.faults, ¬f.Reads obj) →
      ∀ f ∈ (klbsReadBitsLoop n ctx bits).2.faults, ¬f.Reads obj := by
    intro n
    induction n with
    | zero => exact fun ctx bits h => h
    | succ n ih => exact fun ctx bits h => ih _ _ (klbsReadBit_reads hobj h)
  unfold klbsReadBits
  split_ifs
  · intro f hf
    rcases List.mem_append.mp hf with hf | hf
    · exact h f hf
    · obtain ⟨-, rfl⟩ := (Checked.mem_read_faults ..).mp hf
      rwa [reads_read]
  · exact hloop bitcount ctx 0 h

section Operation

variable {data : List Byte} {i : ℕ}

@[simp] lemma readBe16_avoids :
    (readBe16 .opData data i).Avoids (Fault.Reads .messagePayload) := by
  simp [readBe16]

@[simp] lemma readBe32_avoids :
    (readBe32 .opData data i).Avoids (Fault.Reads .messagePayload) := by
  simp [readBe32]

@[simp] lemma readUInt8_avoids :
    (readUInt8 .opData data i).Avoids (Fault.Reads .messagePayload) := by
  simp [readUInt8]

lemma parseSpliceRequestData_avoids :
    (parseSpliceRequestData data).Avoids (Fault.Reads .messagePayload) := by
  simp [parseSpliceRequestData]

lemma parseDescriptorRequestData_avoids (n : BitVec 32) :
    (parseDescriptorRequestData data n).Avoids (Fault.Reads .messagePayload) := by
  simp only [parseDescriptorRequestData, Checked.avoids_bind, readUInt8_avoids, true_and]
  split_ifs <;> simp

lemma parseDtmfRequestData_avoids :
    (parseDtmfRequestData data).Avoids (Fault.Reads .messagePayload) := by
  simp only [parseDtmfRequestData, Checked.avoids_bind, readUInt8_avoids, true_and]
  split_ifs <;> simp

lemma parseAvailIds_avoids (count : ℕ) :
    (parseAvailIds data i count).Avoids (Fault.Reads .messagePayload) := by
  induction count generalizing i with
  | zero => simp [parseAvailIds]
  | succ count ih => simp [parseAvailIds, ih]

lemma parseAvailRequestData_avoids :
    (parseAvailRequestData data).Avoids (Fault.Reads .messagePayload) := by
  simp [parseAvailRequestData, parseAvailIds_avoids]

lemma parseSegmentationRequestData_avoids :
    (parseSegmentationRequestData data).Avoids (Fault.Reads .messagePayload) := by
  simp only [parseSegmentationRequestData, Checked.avoids_bind, readUInt8_avoids, readBe16_avoids,
    readBe32_avoids, true_and]
  split_ifs <;> simp

lemma parseProprietaryCommandRequestData_avoids (n : BitVec 32) :
    (parseProprietaryCommandRequestData data n).Avoids (Fault.Reads .messagePayload) := by
  simp [parseProprietaryCommandRequestData]

lemma parseTimeDescriptor_faults :
    (parseTimeDescriptor data).faults =
      (klbsReadBits
        (klbsReadBits (klbsReadBits (klbsReadSetBuffer data 12) 48).2 32).2 16).2.faults := by
  rw [parseTimeDescriptor]

lemma parseTimeDescriptor_avoids :
    (parseTimeDescriptor data).Avoids (Fault.Reads .messagePayload) := by
  have hne : MemObject.bitstream ≠ .messagePayload := by decide
  have hstart : ∀ f ∈ (klbsReadSetBuffer data 12).faults, ¬f.Reads .messagePayload :=
    fun f hf => absurd hf List.not_mem_nil
  have h₄₈ := klbsReadBits_reads hne hstart 48
  have h₃₂ := klbsReadBits_reads hne h₄₈ 32
  rw [Checked.Avoids, parseTimeDescriptor_faults]
  exact klbsReadBits_reads hne h₃₂ 16

/-- The parser of an operation reads the operation's own data, not the message. -/
lemma parseOperation_avoids (opID : Word) (data : List Byte) :
    (parseOperation opID data).Avoids (Fault.Reads .messagePayload) := by
  unfold parseOperation
  cases MomOperation.ofID opID with
  | none => exact Checked.avoids_pure _
  | some k =>
    cases k with
    | spliceRequestData =>
      exact Checked.avoids_bind.mpr ⟨parseSpliceRequestData_avoids, Checked.avoids_pure _⟩
    | spliceNullRequestData => exact Checked.avoids_pure _
    | timeSignalRequestData =>
      exact Checked.avoids_bind.mpr ⟨by simp [parseTimeSignalRequestData], Checked.avoids_pure _⟩
    | insertDescriptorRequestData =>
      exact Checked.avoids_bind.mpr ⟨parseDescriptorRequestData_avoids _, Checked.avoids_pure _⟩
    | insertDtmfRequestData =>
      exact Checked.avoids_bind.mpr ⟨parseDtmfRequestData_avoids, Checked.avoids_pure _⟩
    | insertAvailDescriptorRequestData =>
      exact Checked.avoids_bind.mpr ⟨parseAvailRequestData_avoids, Checked.avoids_pure _⟩
    | insertSegmentationRequestData =>
      exact Checked.avoids_bind.mpr ⟨parseSegmentationRequestData_avoids, Checked.avoids_pure _⟩
    | proprietaryCommandRequestData =>
      exact Checked.avoids_bind.mpr
        ⟨parseProprietaryCommandRequestData_avoids _, Checked.avoids_pure _⟩
    | insertTierData =>
      exact Checked.avoids_bind.mpr ⟨by simp [parseTierData], Checked.avoids_pure _⟩
    | insertTimeDescriptor =>
      exact Checked.avoids_bind.mpr ⟨parseTimeDescriptor_avoids, Checked.avoids_pure _⟩

end Operation

/-- The loop over accepted operations reads inside the message exactly when the last one ends
there. -/
lemma parseOperations_avoids {pos count : ℕ}
    (h : (parseOperations payload L pos count).val.isSome) :
    (parseOperations payload L pos count).Avoids (Fault.Reads .messagePayload) ↔
      count = 0 ∨ Records.walk (operationSize payload) pos count ≤ payload.length := by
  induction count generalizing pos with
  | zero => simp [parseOperations]
  | succ count ih =>
    have hsize : operationSize payload pos = 4 + operationDataLength payload pos := rfl
    have hle := @Records.le_walk (operationSize payload) (pos + operationSize payload pos) count
    simp only [parseOperations, Checked.bind_val, readBe16_val] at h
    rw [← operationDataLength] at h
    split_ifs at h with hcheck
    · simp at h
    · rw [Checked.bind_val, Checked.bind_val, Checked.bind_val, Checked.pure_val, Option.isSome_map,
        ← operationSize] at h
      have hrest := ih h
      simp only [parseOperations, Checked.avoids_bind, readBe16_val]
      rw [← operationDataLength, if_neg hcheck]
      simp only [Checked.avoids_bind, parseOperation_avoids, Checked.avoids_pure, readBe16,
        avoids_readAt, avoids_copyFrom, forall_const, and_true, true_and]
      rw [← operationSize, hrest, Records.walk]
      rcases Nat.eq_zero_or_pos count with rfl | hpos
      · rw [Records.walk]
        omega
      · omega

/-- The timestamp of a message takes at most seven octets. -/
lemma parseMomTimestamp_avoids {i : ℕ} (h : i + 7 ≤ payload.length) :
    (parseMomTimestamp payload i).Avoids (Fault.Reads .messagePayload) := by
  simp only [parseMomTimestamp, Checked.avoids_bind, avoids_readAt, forall_const]
  refine ⟨by omega, ?_⟩
  split_ifs
  all_goals
    simp only [readBe16, readBe32, Checked.avoids_bind, avoids_readAt, Checked.avoids_pure,
      forall_const, and_true]
  all_goals omega

/-- A timestamp takes one to seven octets. -/
lemma timestampSize_le (timeType : Byte) : timestampSize timeType ≤ 7 := by
  unfold timestampSize
  split_ifs <;> norm_num

/-- Decoding an accepted message reads inside the array that holds it exactly when the message ends
there. -/
lemma parseMultipleOperationMessage_avoids (hlen : 18 ≤ payload.length)
    (h : (parseMultipleOperationMessage payload L).val.isSome) :
    (parseMultipleOperationMessage payload L).Avoids (Fault.Reads .messagePayload) ↔
      messageEnd payload ≤ payload.length := by
  have hts := timestampSize_le (payload.getD 10 0)
  have haccept := parseMultipleOperationMessage_isSome.mp h
  have hwalk : (announcedOps payload = 0 ∨ messageEnd payload ≤ payload.length) ↔
      messageEnd payload ≤ payload.length := by
    refine ⟨fun hor => hor.elim (fun hzero => ?_) id, Or.inr⟩
    rw [messageEnd, hzero, Records.walk, numOpsPos]
    omega
  have hops := (@parseOperations_isSome_iff_walk payload L (numOpsPos payload + 1)
    (announcedOps payload)).mpr haccept.2.2
  unfold parseMultipleOperationMessage
  rw [if_neg (by omega)]
  simp only [Checked.avoids_bind, readBe16_val, Nat.reduceAdd]
  rw [if_neg (by omega)]
  simp only [Checked.avoids_bind, readBe16, avoids_readAt, Checked.avoids_pure, forall_const,
    and_true, Checked.read_val, parseMomTimestamp_snd]
  rw [← numOpsPos, ← announcedOps, parseOperations_avoids hops, ← messageEnd, hwalk]
  have htime := @parseMomTimestamp_avoids payload 10 (by omega)
  have hnum : numOpsPos payload < payload.length := by
    unfold numOpsPos
    omega
  constructor
  · exact fun hall => hall.2.2.2.2.2.2.2.2.2
  · exact fun hend => ⟨⟨by omega, by omega⟩, ⟨by omega, by omega⟩, by omega, by omega, by omega,
      ⟨by omega, by omega⟩, by omega, htime, hnum, hend⟩

end Walk

/-! ### Assembled messages -/

section Assembled

variable {run : KlvancRun} {hdr : KlvancPacketHeader} {descriptor : Byte}

/-- The array of a decoded packet has 2000 cells. -/
lemma messageOctets_length : (messageOctets hdr).length = 2000 := by
  rw [messageOctets, List.length_map, List.length_range]

/-- A packet whose message passes the tests and whose operations the loop accepts. -/
def AcceptsMessage (hdr : KlvancPacketHeader) : Prop :=
  PassesSizeTests hdr ∧ (announcedOps (messageOctets hdr) = 0 ∨
    messageEnd (messageOctets hdr) ≤ messageLength hdr + 4)

/-- The message is longer than the array of the decoded packet, or the operations announced in it
end behind this array. -/
def ExceedsArray (hdr : KlvancPacketHeader) : Prop :=
  2000 < messageLength hdr ∨ 2000 < messageEnd (messageOctets hdr)

instance (hdr : KlvancPacketHeader) : Decidable (AcceptsMessage hdr) := by
  unfold AcceptsMessage
  infer_instance

instance (hdr : KlvancPacketHeader) : Decidable (ExceedsArray hdr) := by
  unfold ExceedsArray
  infer_instance

/-- Decoding an accepted message stays inside its array exactly when its operations do. -/
lemma parseScte104Message_avoids (h : (parseScte104Message hdr descriptor).val.isSome) :
    (parseScte104Message hdr descriptor).Avoids (Fault.Reads .messagePayload) ↔
      messageEnd (messageOctets hdr) ≤ 2000 := by
  have hlen := @messageOctets_length hdr
  unfold parseScte104Message at h ⊢
  simp only [Checked.bind_val] at h
  split_ifs at h with hop
  · simp only [Checked.bind_val, Checked.pure_val, Option.isSome_map] at h
    have hmo := parseMultipleOperationMessage_avoids (by omega) h
    rw [hlen] at hmo
    rw [Checked.avoids_bind, if_pos hop, Checked.avoids_bind, hmo]
    simp [readBe16, hlen]
  · simp at h

/-- The words behind the first descriptor byte of a message. -/
def messageWords (hdr : KlvancPacketHeader) : List Word := hdr.payload.drop 1

/-- The message `words`, which the last fragment `hdr` completes, is delivered whole with `pkt`: it
fits the array `payload`, its length is announced, its octets stand in the array in order, and the
array is read inside its bounds. -/
structure DeliveredWhole (run : KlvancRun) (hdr : KlvancPacketHeader) (words : List Word)
    (pkt : KlvancPacketScte104) : Prop where
  fits : words.length ≤ 2000
  length : pkt.payloadLengthBytes = words.length
  octets : pkt.payload.take pkt.payloadLengthBytes = words.map lowByte
  reads : ∃ faults, (parseSCTE104 run hdr).2.faults = run.faults ++ faults ∧
    ∀ f ∈ faults, ¬f.Reads .messagePayload

/-- The array of a decoded packet holds the octets behind the descriptor byte. -/
lemma messageOctets_take (h : (messageWords hdr).length ≤ 2000) :
    (messageOctets hdr).take (messageWords hdr).length = (messageWords hdr).map lowByte := by
  apply List.ext_getElem
  · rw [List.length_take, messageOctets_length, List.length_map, min_eq_left h]
  · intro i h₁ h₂
    rw [List.length_map] at h₂
    have hi : 1 + i < hdr.payload.length := by
      rw [messageWords, List.length_drop] at h₂
      omega
    rw [List.getElem_take, List.getElem_map]
    simp only [messageOctets, List.getElem_map, List.getElem_range,
      KlvancPacketHeader.payloadByte, KlvancPacketHeader.payloadWord, messageWords,
      List.getElem_drop, List.getD_eq_getElem?_getD, List.getElem?_eq_getElem hi,
      Option.getD_some]

/-- The announced length of a message that has a descriptor byte. -/
lemma messageLength_eq (hne : hdr.payload ≠ []) (hlt : hdr.payloadLengthWords < 2 ^ 32) :
    messageLength hdr = (messageWords hdr).length := by
  have hpos : 1 ≤ hdr.payloadLengthWords := List.length_pos_iff.mpr hne
  rw [messageLength, uintSub_of_le hpos hlt, messageWords, List.length_drop]
  rfl

/-- A last fragment that completes a message hands it to the application. -/
lemma parseSCTE104_last {frags : Scte104Fragments} {full : KlvancPacketHeader}
    (hreg : run.ctx.registered (·.scte104) = true) (hkind : fragmentKind hdr = .last)
    (hfinal : messageFragmentFinal run.ctx.scte104 hdr = pure (some full, frags)) :
    parseSCTE104 run hdr =
      deliverScte104 (run.setFragments frags) full (hdr.payloadByte 0) := by
  unfold fragmentKind at hkind
  dsimp only at hkind
  split_ifs at hkind with hdup hsingle
  rw [Bool.not_eq_true] at hdup
  have hflags : (hdr.payloadByte 0).getLsbD 2 = false ∧ (hdr.payloadByte 0).getLsbD 1 = true := by
    revert hkind
    cases (hdr.payloadByte 0).getLsbD 2 <;> cases (hdr.payloadByte 0).getLsbD 1 <;> decide
  simp only [parseSCTE104, hreg, hdup, hsingle, hflags.1, hflags.2, hfinal, Bool.not_true,
    Bool.false_eq_true, if_false, ne_eq, not_false_eq_true, if_true, Checked.pure_val,
    Checked.pure_faults, KlvancRun.addFaults_nil]

/-- Where the last fragment `hdr` completes the message `words` and this is handed to the
application, it is delivered whole. -/
def DeliversWhole (run : KlvancRun) (hdr : KlvancPacketHeader) (words : List Word) : Prop :=
  ∀ pkt, (parseSCTE104 run hdr).2.calls = run.calls ++ [.scte104 pkt] →
    DeliveredWhole run hdr words pkt

/-- A completed message is delivered whole, if at all, exactly when it is refused or does not exceed
the array of the decoded packet. -/
lemma deliversWhole_iff {frags : Scte104Fragments} {full : KlvancPacketHeader}
    (hreg : run.ctx.registered (·.scte104) = true) (hkind : fragmentKind hdr = .last)
    (hfinal : messageFragmentFinal run.ctx.scte104 hdr = pure (some full, frags))
    (hne : full.payload ≠ []) (hlt : full.payloadLengthWords < 2 ^ 32) :
    DeliversWhole run hdr (messageWords full) ↔ ¬(AcceptsMessage full ∧ ExceedsArray full) := by
  have hlast := parseSCTE104_last hreg hkind hfinal
  have hlen := messageLength_eq hne hlt
  have hcalls : (parseSCTE104 run hdr).2.calls = run.calls ++
      ((parseScte104Message full (hdr.payloadByte 0)).val.map .scte104).toList := by
    rw [hlast, deliverScte104_calls, KlvancRun.setFragments_calls]
  have hfaults : (parseSCTE104 run hdr).2.faults =
      run.faults ++ (parseScte104Message full (hdr.payloadByte 0)).faults := by
    rw [hlast, deliverScte104_faults, KlvancRun.setFragments_faults]
  have haccept := @parseScte104Message_isSome full (hdr.payloadByte 0)
  rw [← AcceptsMessage] at haccept
  unfold DeliversWhole
  cases hpkt : (parseScte104Message full (hdr.payloadByte 0)).val with
  | none =>
    have hrefused : ¬AcceptsMessage full := by
      rw [← haccept, hpkt]
      exact Bool.false_ne_true
    refine ⟨fun _ h => hrefused h.1, fun _ pkt hcall => ?_⟩
    rw [hcalls, hpkt] at hcall
    simp at hcall
  | some pkt =>
    have hsome : (parseScte104Message full (hdr.payloadByte 0)).val.isSome := by
      rw [hpkt]
      rfl
    have havoids := parseScte104Message_avoids hsome
    obtain ⟨hpayload, hlength⟩ := parseScte104Message_payload hpkt
    rw [hlen] at hlength
    constructor
    · rintro h ⟨-, hexceeds⟩
      have hwhole := h pkt (by rw [hcalls, hpkt]; rfl)
      obtain ⟨faults, heq, hreads⟩ := hwhole.reads
      rw [hfaults, List.append_cancel_left_eq] at heq
      rw [← heq] at hreads
      rcases hexceeds with hlong | hend
      · exact absurd hwhole.fits (not_le.mpr (hlen ▸ hlong))
      · exact absurd (havoids.mp hreads) (not_le.mpr hend)
    · intro h pkt' hcall
      obtain rfl : pkt = pkt' := by
        rw [hcalls, hpkt] at hcall
        simpa using hcall
      have hfits : ¬ExceedsArray full := fun hexceeds => h ⟨haccept.mp hsome, hexceeds⟩
      rw [ExceedsArray, not_or, not_lt, not_lt, hlen] at hfits
      exact
        { fits := hfits.1
          length := hlength
          octets := by rw [hpayload, hlength, messageOctets_take hfits.1]
          reads := ⟨_, hfaults, havoids.mpr hfits.2⟩ }

/-- The packet header of the message made of a first fragment, middle ones and the last one. -/
def assembledHeader (first : KlvancPacketHeader) (middles : List KlvancPacketHeader)
    (hdr : KlvancPacketHeader) : KlvancPacketHeader :=
  { hdr with payload := joinedPayload (first :: (middles ++ [hdr])) }

end Assembled

section History

variable {ctx : KlvancContext} {hdrs pre middles : List KlvancPacketHeader}
  {first hdr : KlvancPacketHeader}

/-- The fragments of a message hold at most 2550 words. -/
lemma joinedPayload_length_le {l : List KlvancPacketHeader}
    (hsmall : ∀ h ∈ l, h.payloadLengthWords ≤ 255) :
    (joinedPayload l).length ≤ 255 * l.length := by
  have hrest : ∀ l : List KlvancPacketHeader, (∀ h ∈ l, h.payloadLengthWords ≤ 255) →
      (l.flatMap fun h => h.payload.drop 1).length ≤ 255 * l.length := by
    intro l hl
    rw [List.length_flatMap]
    refine (List.sum_le_card_nsmul _ 255 ?_).trans ?_
    · intro n hn
      obtain ⟨h, hmem, rfl⟩ := List.mem_map.mp hn
      rw [List.length_drop]
      exact (Nat.sub_le _ _).trans (hl h hmem)
    · rw [List.length_map, smul_eq_mul, Nat.mul_comm]
  cases l with
  | nil => exact le_rfl
  | cons f l =>
    have hf : f.payload.length ≤ 255 := hsmall f List.mem_cons_self
    have hl := hrest l fun h hmem => hsmall h (List.mem_cons_of_mem _ hmem)
    rw [joinedPayload, List.length_append, List.length_cons]
    omega

/-- The packets of a series came with the history. -/
lemma payloadLength_of_series (hsmall : ∀ h ∈ hdrs, h.payloadLengthWords ≤ 255)
    (hdecomp : hdrs.filter (fragmentKind · ≠ .ignored) = pre ++ first :: middles)
    (hle : hdr.payloadLengthWords ≤ 255) :
    ∀ h ∈ first :: (middles ++ [hdr]), h.payloadLengthWords ≤ 255 := by
  intro h hmem
  rw [← List.cons_append, List.mem_append, List.mem_singleton] at hmem
  rcases hmem with hmem | rfl
  · apply hsmall
    have hin : h ∈ hdrs.filter (fragmentKind · ≠ .ignored) := by
      rw [hdecomp]
      exact List.mem_append_right _ hmem
    exact List.mem_of_mem_filter hin
  · exact hle

/-- Where the assembled message is delivered whole depends on the payloads of the fragments only. -/
lemma deliversWhole_assembled (hreg : ctx.registered (·.scte104) = true)
    (hempty : ctx.scte104 = {}) (hsmall : ∀ h ∈ hdrs, h.payloadLengthWords ≤ 255)
    (hdecomp : hdrs.filter (fragmentKind · ≠ .ignored) = pre ++ first :: middles)
    (hfirst : fragmentKind first = .first) (hmiddles : ∀ m ∈ middles, fragmentKind m = .middle)
    (hcount : middles.length ≤ 8) (hle : hdr.payloadLengthWords ≤ 255)
    (hkind : fragmentKind hdr = .last) :
    DeliversWhole (parseSCTE104s (.start ctx) hdrs) hdr
        (messageWords (assembledHeader first middles hdr)) ↔
      ¬(AcceptsMessage (assembledHeader first middles hdr) ∧
        ExceedsArray (assembledHeader first middles hdr)) := by
  obtain ⟨full, frags, hfinal, hjoined⟩ := messageFragmentFinal_completes hreg hempty hsmall
    hdecomp hfirst hmiddles hcount hle hkind
  have hne : full.payload ≠ [] := by
    rw [hjoined, joinedPayload]
    exact List.append_ne_nil_of_left_ne_nil (payload_ne_nil (by rw [hfirst]; decide)) _
  have hlt : full.payloadLengthWords < 2 ^ 32 := by
    have hbound := joinedPayload_length_le (payloadLength_of_series hsmall hdecomp hle)
    rw [← hjoined] at hbound
    simp only [List.length_cons, List.length_append, List.length_nil] at hbound
    rw [KlvancPacketHeader.payloadLengthWords]
    omega
  have hregrun : (parseSCTE104s (.start ctx) hdrs).ctx.registered (·.scte104) = true := by
    rwa [registered_congr (holds_parseSCTE104s hreg hempty hdrs).1]
  have hiff := deliversWhole_iff hregrun hkind hfinal hne hlt
  rw [messageWords, hjoined] at hiff
  have hsame : assembledHeader first middles hdr = { hdr with payload := full.payload } := by
    rw [hjoined]
    rfl
  rw [hsame, messageWords]
  rw [← hjoined] at hiff
  exact hiff

/-- A last fragment that completes a message of two to ten fragments of at most 255 payload words
delivers it whole, if at all, exactly when the message is refused or does not exceed the array of
2000 octets: neither the message itself nor the operations announced in it. -/
theorem parseSCTE104_deliversWhole_iff (hreg : ctx.registered (·.scte104) = true)
    (hempty : ctx.scte104 = {}) (hsmall : ∀ h ∈ hdrs, h.payloadLengthWords ≤ 255)
    (hdecomp : hdrs.filter (fragmentKind · ≠ .ignored) = pre ++ first :: middles)
    (hfirst : fragmentKind first = .first) (hmiddles : ∀ m ∈ middles, fragmentKind m = .middle)
    (hcount : middles.length ≤ 8) (hle : hdr.payloadLengthWords ≤ 255)
    (hkind : fragmentKind hdr = .last) :
    DeliversWhole (parseSCTE104s (.start ctx) hdrs) hdr
        (messageWords (assembledHeader first middles hdr)) ↔
      ¬(AcceptsMessage (assembledHeader first middles hdr) ∧
        ExceedsArray (assembledHeader first middles hdr)) :=
  deliversWhole_assembled hreg hempty hsmall hdecomp hfirst hmiddles hcount hle hkind

end History

/-- The first of two fragments of a message of twelve octets without operations. -/
def shortFirst : KlvancPacketHeader :=
  fragmentHeader [0x0c, 0xff, 0xff, 0x00, 0x0c, 0x00, 0x00, 0x00]

/-- The last of two fragments of a message of twelve octets without operations. -/
def shortLast : KlvancPacketHeader :=
  fragmentHeader [0x0a, 0x00, 0x00, 0x00, 0x00, 0x00]

/-- The message of twelve octets is delivered whole. -/
theorem parseSCTE104_deliversWhole_short :
    DeliversWhole (parseSCTE104s (.start scte104Context) [shortFirst]) shortLast
      (messageWords (assembledHeader shortFirst [] shortLast)) :=
  (@parseSCTE104_deliversWhole_iff scte104Context [shortFirst] [] [] shortFirst shortLast rfl rfl
    (by decide) (by decide) (by decide) (by simp) (by decide) (by decide) (by decide)).mpr
    (by decide +kernel)

/-- The first of nine fragments of 255 words. -/
def longFirst : KlvancPacketHeader :=
  fragmentHeader ([0x0c, 0xff, 0xff, 0x00, 0x0c] ++ List.replicate 250 0)

/-- A middle one of nine fragments of 255 words. -/
def longMiddle : KlvancPacketHeader := fragmentHeader (0x0e :: List.replicate 254 0)

/-- The last of nine fragments of 255 words. -/
def longLast : KlvancPacketHeader := fragmentHeader (0x0a :: List.replicate 254 0)

/-- A message of nine fragments of 255 words, 2286 octets behind the first descriptor byte, is
handed to the application in an array of 2000 octets. -/
theorem parseSCTE104_deliversWhole_long :
    ¬∀ (ctx : KlvancContext) (hdrs pre middles : List KlvancPacketHeader)
      (first hdr : KlvancPacketHeader), ctx.registered (·.scte104) = true → ctx.scte104 = {} →
      (∀ h ∈ hdrs, h.payloadLengthWords ≤ 255) →
      hdrs.filter (fragmentKind · ≠ .ignored) = pre ++ first :: middles →
      fragmentKind first = .first → (∀ m ∈ middles, fragmentKind m = .middle) →
      middles.length ≤ 8 → hdr.payloadLengthWords ≤ 255 → fragmentKind hdr = .last →
      DeliversWhole (parseSCTE104s (.start ctx) hdrs) hdr
        (messageWords (assembledHeader first middles hdr)) := by
  intro h
  have hsmall : ∀ h ∈ longFirst :: List.replicate 7 longMiddle, h.payloadLengthWords ≤ 255 := by
    decide +kernel
  have hdecomp : (longFirst :: List.replicate 7 longMiddle).filter (fragmentKind · ≠ .ignored) =
      [] ++ longFirst :: List.replicate 7 longMiddle := by
    decide +kernel
  have hfirst : fragmentKind longFirst = .first := by decide +kernel
  have hmiddles : ∀ m ∈ List.replicate 7 longMiddle, fragmentKind m = .middle := by decide +kernel
  have hlast : fragmentKind longLast = .last := by decide +kernel
  have hwhole := h scte104Context (longFirst :: List.replicate 7 longMiddle) []
    (List.replicate 7 longMiddle) longFirst longLast rfl rfl hsmall hdecomp hfirst hmiddles
    (by decide) (by decide +kernel) hlast
  refine (deliversWhole_assembled rfl rfl hsmall hdecomp hfirst hmiddles (by decide)
    (by decide +kernel) hlast).mp hwhole ⟨?_, ?_⟩
  · decide +kernel
  · exact Or.inl (by decide +kernel)

end Libklvanc
