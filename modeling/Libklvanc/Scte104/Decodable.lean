import Libklvanc.Core.LineRoundTrip
import Libklvanc.Scte104.RoundTrip

/-!
# Success of the conversion to words

`klvanc_convert_SCTE_104_packetbytes_to_SMPTE_2010` admits messages of up to 2000 octets, the data
count of an ancillary data packet holds no more than 255, and nothing between the two compares the
one with the other. A successful conversion yields a packet that can be decoded exactly when the
message has at most 254 octets and the encoder reads no DTMF character past its array
(`klvancConvertScte104ToWords_decodable_iff`).
-/

namespace Libklvanc

/-- `klvanc_packet_parse` on the words `words` finds one packet, whose checksum is valid and whose
payload carries the octets `octets`. -/
def DecodesAs (words : List Word) (octets : List Byte) : Prop :=
  ∀ lineNr, (klvancPacketParse lineNr words words.length (.start allContext)).1 = 1 ∧
    ∃ hdr, (klvancPacketParse lineNr words words.length (.start allContext)).2.allHeaders = [hdr] ∧
      hdr.checksumValid = true ∧ hdr.payload.map lowByte = octets

/-- When `klvanc_convert_SCTE_104_to_words` returns zero, the words hold a packet that can be
decoded and that carries the descriptor byte and all octets of the message; otherwise the return
value is negative. -/
def SuccessMeansDecodable (pkt : KlvancPacketScte104) : Prop :=
  (klvancConvertScte104ToWords pkt).Safe ∧
    ((klvancConvertScte104ToWords pkt).val.1 = 0 →
      ∃ words bytes byteCount, (klvancConvertScte104ToWords pkt).val.2 = some words ∧
        klvancConvertScte104ToPacketBytes pkt = ⟨.ok (bytes, byteCount), []⟩ ∧
        DecodesAs words (0x08 :: bytes.take byteCount)) ∧
    ((klvancConvertScte104ToWords pkt).val.1 ≠ 0 → (klvancConvertScte104ToWords pkt).val.1 < 0)

/-! ### Packets that can be decoded -/

/-- A header reported by `klvanc_packet_parse` has at most 255 payload words. -/
lemma payload_length_le_of_allHeaders {lineNr : ℕ} {words : List Word} {ctx : KlvancContext}
    (hall : ctx.registered (·.all) = true) (h7 : 7 ≤ words.length)
    (hmax : words.length ≤ packetMaxPayload) {hdr : KlvancPacketHeader}
    (h : hdr ∈ (klvancPacketParse lineNr words words.length (.start ctx)).2.allHeaders) :
    hdr.payload.length ≤ 255 := by
  rw [klvancPacketParse_eq h7 le_rfl hmax, visits_allHeaders hall] at h
  have hstart : (KlvancRun.start ctx).allHeaders = [] := rfl
  rw [hstart, List.nil_append, List.mem_filter] at h
  obtain ⟨i, -, rfl⟩ := List.mem_map.mp h.1
  exact headerAt_payloadLengthWords_le _ _ _ _

/-- The words of a well-formed packet decode as its octets. -/
lemma SdiPacket.decodesAs (p : SdiPacket) : DecodesAs p.words p.bytes := by
  intro lineNr
  have hheaders := processPacket_allHeaders (.start allContext) (p.header lineNr p.words 0) rfl
  rw [klvancPacketParse_words]
  refine ⟨rfl, p.header lineNr p.words 0, hheaders, rfl, ?_⟩
  exact (p.reportedBy_header lineNr p.words (by norm_num)).payload

section Convert

variable {pkt : KlvancPacketScte104}

/-- A conversion that meets no fault serialises all operations into the buffer of 2000 octets. -/
lemma klvancConvertScte104ToWords_encodes (hopID : pkt.soMsg.opID = 0xffff)
    (hops : pkt.moMsg.ops.length = pkt.moMsg.numOps.toNat)
    (h : (klvancConvertScte104ToWords pkt).Safe) :
    (∀ o ∈ pkt.moMsg.ops, OperationEncodes o) ∧ pkt.moMsg.wireSize ≤ 2000 := by
  rw [klvancConvertScte104ToWords, Checked.safe_bind] at h
  exact (klvancConvertScte104ToPacketBytes_safe hopID hops).mp h.1

/-- The words made of a packet that can be serialised carry all octets of its message exactly when
these are at most 254. -/
lemma successMeansDecodable_of_encodes (hopID : pkt.soMsg.opID = 0xffff)
    (hops : pkt.moMsg.ops.length = pkt.moMsg.numOps.toNat)
    (henc : ∀ o ∈ pkt.moMsg.ops, OperationEncodes o) (hsize : pkt.moMsg.wireSize ≤ 2000) :
    SuccessMeansDecodable pkt ↔ pkt.moMsg.wireSize ≤ 254 := by
  have hwords := klvancConvertScte104ToWords_eq hopID hops henc hsize
  have hbytes := klvancConvertScte104ToPacketBytes_eq hopID hops henc hsize
  have hlen : pkt.moMsg.wire.length = pkt.moMsg.wireSize :=
    MultipleOperationMessage.wireWith_length henc pkt.moMsg.wireSize
  have htake : (pkt.moMsg.wire ++ List.replicate (2000 - pkt.moMsg.wireSize) 0).take
      pkt.moMsg.wireSize = pkt.moMsg.wire := by
    rw [← hlen, List.take_left]
  unfold SuccessMeansDecodable
  rw [hwords, hbytes]
  constructor
  · rintro ⟨-, hsuccess, -⟩
    obtain ⟨words, bytes, byteCount, hcreate, hconvert, hdecodes⟩ := hsuccess rfl
    have hval := congrArg Checked.val hconvert
    simp only [Except.ok.injEq, Prod.mk.injEq] at hval
    obtain ⟨rfl, rfl⟩ := hval
    rw [htake] at hdecodes
    -- the words are as many as the octets and seven more
    have hlength : words.length = pkt.moMsg.wireSize + 8 := by
      simp only [Checked.pure_val, klvancSdiCreatePayload] at hcreate
      split_ifs at hcreate
      rw [← Option.some.inj hcreate]
      simp [sdiBody, hlen]
    obtain ⟨-, hdr, hheaders, -, hpayload⟩ := hdecodes 0
    have hle := @payload_length_le_of_allHeaders 0 words allContext rfl
      (by omega) (by rw [packetMaxPayload]; omega) hdr (hheaders ▸ List.mem_singleton_self hdr)
    have hcount := congrArg List.length hpayload
    rw [List.length_map, List.length_cons, hlen] at hcount
    omega
  · intro hle
    have hcreate := (messagePacket pkt.moMsg (hlen.trans_le hle)).create_eq
    refine ⟨rfl, fun _ => ⟨_, _, _, hcreate, rfl, ?_⟩, fun h => absurd rfl h⟩
    rw [htake]
    exact (messagePacket pkt.moMsg (hlen.trans_le hle)).decodesAs

/-- Success of `klvanc_convert_SCTE_104_to_words` means a packet that can be decoded if and only if
the serialised message has at most 254 octets and no DTMF length exceeds the DTMF characters. -/
theorem klvancConvertScte104ToWords_decodable_iff (hopID : pkt.soMsg.opID = 0xffff)
    (hops : pkt.moMsg.ops.length = pkt.moMsg.numOps.toNat) :
    SuccessMeansDecodable pkt ↔ pkt.moMsg.wireSize ≤ 254 ∧
      ∀ o ∈ pkt.moMsg.ops, ∀ k, MomOperation.ofID o.opID = some k → o.DtmfHolds k := by
  constructor
  · intro h
    obtain ⟨henc, hsize⟩ := klvancConvertScte104ToWords_encodes hopID hops h.1
    exact ⟨(successMeansDecodable_of_encodes hopID hops henc hsize).mp h,
      fun o ho k hk => (henc o ho k hk).2⟩
  · rintro ⟨hsize, hdtmf⟩
    have henc : ∀ o ∈ pkt.moMsg.ops, OperationEncodes o := fun o ho k hk =>
      ⟨(dataSize_le_wireSize ho hk).trans (hsize.trans (by norm_num)), hdtmf o ho k hk⟩
    exact (successMeansDecodable_of_encodes hopID hops henc (hsize.trans (by norm_num))).mpr hsize

end Convert

/-- A message with one proprietary command of `dataLength` octets. -/
def proprietaryPacket (dataLength : BitVec 32) : KlvancPacketScte104 where
  soMsg := { opID := 0xffff }
  moMsg :=
    { numOps := 1
      ops := [{ opID := 0x10c, proprietaryData := { dataLength } }] }

/-- A message of 254 octets is made into a packet that can be decoded. -/
theorem klvancConvertScte104ToWords_decodable_254 : SuccessMeansDecodable (proprietaryPacket 233) :=
  (klvancConvertScte104ToWords_decodable_iff rfl rfl).mpr (by decide)

/-- A message of 255 octets is made into words whose data count is zero, although the conversion
succeeds. -/
theorem klvancConvertScte104ToWords_undecodable_255 :
    ¬∀ pkt : KlvancPacketScte104, pkt.soMsg.opID = 0xffff →
      pkt.moMsg.ops.length = pkt.moMsg.numOps.toNat →
      (∀ o ∈ pkt.moMsg.ops, OperationSupported o) → pkt.moMsg.wireSize ≤ 2000 →
      SuccessMeansDecodable pkt := by
  intro h
  have hdecodable := h (proprietaryPacket 234) rfl rfl (by decide) (by decide)
  have hle := (successMeansDecodable_of_encodes rfl rfl (by decide) (by decide)).mp hdecodable
  exact absurd hle (by decide)

end Libklvanc
