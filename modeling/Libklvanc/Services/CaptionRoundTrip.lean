import Libklvanc.Core.PacketRoundTrip
import Libklvanc.Services.CaptionWire

/-!
# Caption distribution packets survive encoding and parsing

The octets of a caption distribution packet, taken apart again. The encoder writes a section if its
flag is set, the parser reads one if its id comes next; so the id of the footer must not be taken
for that of a section that is not there (`FooterSetApart`). Then the header, the captions, the
services and the footer come back (`klvancConvertEIA708BToWords_roundTrip`).

A time code comes back only with its drop frame flag set: the encoder writes a reserved one where
the parser reads the flag (`parseEIA708B_timeCode_iff`).
-/

namespace Libklvanc

open KlbsDecoder

namespace KlvancPacketEia708b

variable (pkt : KlvancPacketEia708b)

/-! ### What comes back -/

/-- The time code section that comes back. -/
def decodedTimeCode : Eia708bTimeCodeSection :=
  if pkt.WritesTimeCode then { pkt.tc with dropFrameFlag := 1 } else {}

/-- The caption section that comes back. -/
def decodedCcdata : Eia708bCcdataSection := if pkt.WritesCcdata then pkt.ccdata else {}

/-- The service section that comes back, with what is decoded from the raw bytes of its entries. -/
def decodedCcsvcinfo : Eia708bCcsvcinfoSection :=
  if pkt.WritesCcsvcinfo then { pkt.ccsvc with svc := pkt.ccsvc.svc.map (·.decoded) } else {}

/-- The footer that comes back. -/
def decodedFooter : Eia708bCdpFooter :=
  if pkt.footer.cdpFooterId = 0x74 then { pkt.footer with packetChecksum := pkt.checksum } else {}

/-- The packet that comes back, with the header `header`. -/
def decoded (payload : List Byte) (header : Eia708bCdpHeader) : KlvancPacketEia708b where
  payload := payload
  payloadLengthBytes := pkt.wire.length
  checksumValid := true
  header := header
  tc := pkt.decodedTimeCode
  ccdata := pkt.decodedCcdata
  ccsvc := pkt.decodedCcsvcinfo
  footer := pkt.decodedFooter

/-- The id of the footer is not taken for that of a section that is not written. -/
structure FooterSetApart : Prop where
  timeCode : pkt.footer.cdpFooterId = 0x71 →
    pkt.WritesTimeCode ∨ pkt.WritesCcdata ∨ pkt.WritesCcsvcinfo
  ccdata : pkt.footer.cdpFooterId = 0x72 → pkt.WritesCcdata ∨ pkt.WritesCcsvcinfo
  ccsvc : pkt.footer.cdpFooterId = 0x73 → pkt.WritesCcsvcinfo

/-! ### The ids and what stands behind them -/

/-- The bits behind the id of the footer. -/
def footerBits : List Bool :=
  Bits.ofFields [(pkt.footer.cdpFtrSequenceCntr.toNat, 16), (pkt.checksum.toNat, 8)]

/-- The id at the place of the services. -/
def servicesId : Byte :=
  if pkt.WritesCcsvcinfo then pkt.ccsvc.ccsvcinfoId else pkt.footer.cdpFooterId

/-- The bits behind the id at the place of the services. -/
def servicesBits : List Bool :=
  if pkt.WritesCcsvcinfo then
    Bits.ofFields (ccsvcinfoFields pkt.ccsvc 0x01) ++
      (Bits.ofBytes [pkt.footer.cdpFooterId] ++ pkt.footerBits)
  else pkt.footerBits

/-- The id at the place of the captions. -/
def captionsId : Byte := if pkt.WritesCcdata then pkt.ccdata.ccdataId else pkt.servicesId

/-- The bits behind the id at the place of the captions. -/
def captionsBits : List Bool :=
  if pkt.WritesCcdata then
    Bits.ofFields (ccdataFields pkt.ccdata 0x07) ++
      (Bits.ofBytes [pkt.servicesId] ++ pkt.servicesBits)
  else pkt.servicesBits

/-- The id behind the header. -/
def timeCodeId : Byte := if pkt.WritesTimeCode then pkt.tc.timeCodeSectionId else pkt.captionsId

/-- The bits behind the first id. -/
def timeCodeBits : List Bool :=
  if pkt.WritesTimeCode then
    Bits.ofFields (writtenTimeCodeFields pkt.tc) ++
      (Bits.ofBytes [pkt.captionsId] ++ pkt.captionsBits)
  else pkt.captionsBits

variable {pkt}

/-- The bits of a packet are those of its header, the first id and what stands behind it. -/
lemma ofBytes_wire (h : pkt.SectionsFit) : Bits.ofBytes pkt.wire =
    Bits.ofFields (cdpHeaderFields
      { pkt.header with cdpLength := BitVec.ofNat 8 pkt.wire.length } 0x0f 0x01) ++
        (Bits.ofBytes [pkt.timeCodeId] ++ pkt.timeCodeBits) := by
  have hservices : Bits.ofFields pkt.servicesFields ++ Bits.ofBytes [pkt.checksum] =
      Bits.ofBytes [pkt.servicesId] ++ pkt.servicesBits := by
    unfold servicesFields servicesId servicesBits
    split_ifs
    · simp [footerFields, footerBits]
    · simp [footerFields, footerBits]
  have hcaptions : Bits.ofFields pkt.captionsFields ++ Bits.ofBytes [pkt.checksum] =
      Bits.ofBytes [pkt.captionsId] ++ pkt.captionsBits := by
    unfold captionsFields captionsId captionsBits
    split_ifs
    · rw [Bits.ofFields_append, List.append_assoc, hservices]
      simp
    · exact hservices
  have htimeCode : Bits.ofFields pkt.timeCodeOnFields ++ Bits.ofBytes [pkt.checksum] =
      Bits.ofBytes [pkt.timeCodeId] ++ pkt.timeCodeBits := by
    unfold timeCodeOnFields timeCodeId timeCodeBits
    split_ifs
    · rw [Bits.ofFields_append, List.append_assoc, hcaptions]
      simp
    · exact hcaptions
  rw [wire, Bits.ofBytes_append, ofBytes_body h.holds, bodyFields, Bits.ofFields_append,
    List.append_assoc, htimeCode, ← wire, wire_length h.holds]

end KlvancPacketEia708b

open KlvancPacketEia708b

/-! ### Reading the sections back -/

section Sections

variable {pkt : KlvancPacketEia708b} {payload : List Byte} {n : ℕ} {header : Eia708bCdpHeader}
  {tc : Eia708bTimeCodeSection} {ccdata : Eia708bCcdataSection} {ccsvc : Eia708bCcsvcinfoSection}

/-- A section that is there. -/
lemma sectionIf_of_eq {α : Type} {sectionId : Byte} {parse : Byte → KlbsDecoder (α × Byte)}
    {absent : α} {next : Byte} (h : next = sectionId) :
    sectionIf sectionId parse absent next = parse next := if_pos h

/-- A section that is not there. -/
lemma sectionIf_of_ne {α : Type} {sectionId : Byte} {parse : Byte → KlbsDecoder (α × Byte)}
    {absent : α} {next : Byte} (h : next ≠ sectionId) :
    sectionIf sectionId parse absent next = pure (absent, next) := if_neg h

/-- The footer comes back. -/
lemma readFooter_delivers : (readFooter payload n header tc ccdata ccsvc
    pkt.footer.cdpFooterId).Delivers pkt.footerBits
      { payload, payloadLengthBytes := n
        checksumValid := (payload.take n).foldl (· + ·) (0 : Byte) == 0
        header, tc, ccdata, ccsvc, footer := pkt.decodedFooter } := by
  unfold readFooter decodedFooter
  by_cases hid : pkt.footer.cdpFooterId = 0x74
  · rw [if_pos hid, if_pos hid]
    have hfooter := parseCdpFooter_yields { pkt.footer with packetChecksum := pkt.checksum }
    have h := hfooter.bind_delivers (f := fun footer => pure (KlvancPacketEia708b.mk payload n
      ((payload.take n).foldl (· + ·) (0 : Byte) == 0) header tc ccdata ccsvc footer)) (.pure [] _)
    rwa [List.append_nil] at h
  · rw [if_neg hid, if_neg hid, pure_bind]
    exact .pure _ _

/-- The footer ends with more than an octet behind its id. -/
lemma footerBits_length : pkt.footerBits.length = 24 := by simp [footerBits]

/-- The services come back, and the footer. -/
lemma readServices_delivers (h : pkt.SectionsFit)
    (hid : pkt.footer.cdpFooterId = 0x73 → pkt.WritesCcsvcinfo) :
    (readServices payload n header tc ccdata pkt.servicesId).Delivers pkt.servicesBits
      { payload, payloadLengthBytes := n
        checksumValid := (payload.take n).foldl (· + ·) (0 : Byte) == 0
        header, tc, ccdata, ccsvc := pkt.decodedCcsvcinfo, footer := pkt.decodedFooter } := by
  unfold readServices servicesId servicesBits decodedCcsvcinfo
  split_ifs with hwrites
  · rw [sectionIf_of_eq hwrites.2]
    exact parseCcsvcinfoSection_bind_delivers (h.ccsvc hwrites) 0x01 _ readFooter_delivers
      (by rw [footerBits_length]; norm_num)
  · rw [sectionIf_of_ne fun h => hwrites (hid h), pure_bind]
    exact readFooter_delivers

/-- The captions are read back, and what stands at the place of the services comes next. -/
lemma readCaptions_run (h : pkt.SectionsFit)
    (hid : pkt.footer.cdpFooterId = 0x72 → pkt.WritesCcdata ∨ pkt.WritesCcsvcinfo)
    {ctx : KlbsContext} (hreads : ctx.Reads pkt.captionsBits) :
    ∃ ctx', (readCaptions payload n header tc pkt.captionsId).run.run ctx =
        (readServices payload n header tc pkt.decodedCcdata pkt.servicesId).run.run ctx' ∧
      ctx'.Reads pkt.servicesBits ∧ ctx'.faults = ctx.faults := by
  unfold readCaptions captionsId decodedCcdata
  unfold captionsBits at hreads
  split_ifs at hreads ⊢ with hwrites
  · rw [sectionIf_of_eq hwrites.2]
    rw [← List.append_assoc] at hreads
    obtain ⟨ctx', hrun, h', hfaults, -⟩ := (parseCcdataSection_yields (h.ccdata hwrites) 0x07
      pkt.servicesId).run_bind (f := fun x => readServices payload n header tc x.1 x.2) hreads
    exact ⟨ctx', hrun, h', hfaults⟩
  · have hne : pkt.servicesId ≠ 0x72 := by
      unfold servicesId
      split_ifs with hsvc
      · rw [hsvc.2]
        decide
      · exact fun hfooter => (hid hfooter).elim hwrites hsvc
    rw [sectionIf_of_ne hne, pure_bind]
    exact ⟨ctx, rfl, hreads, rfl⟩

/-- The captions, the services and the footer come back. -/
lemma readCaptions_delivers (h : pkt.SectionsFit)
    (hccdata : pkt.footer.cdpFooterId = 0x72 → pkt.WritesCcdata ∨ pkt.WritesCcsvcinfo)
    (hccsvc : pkt.footer.cdpFooterId = 0x73 → pkt.WritesCcsvcinfo) :
    (readCaptions payload n header tc pkt.captionsId).Delivers pkt.captionsBits
      { payload, payloadLengthBytes := n
        checksumValid := (payload.take n).foldl (· + ·) (0 : Byte) == 0
        header, tc, ccdata := pkt.decodedCcdata, ccsvc := pkt.decodedCcsvcinfo
        footer := pkt.decodedFooter } := by
  intro ctx hreads
  obtain ⟨ctx₁, hrun₁, h₁, hfaults₁⟩ := @readCaptions_run _ payload n header tc h hccdata _ hreads
  obtain ⟨ctx₂, hrun₂, hfaults₂⟩ := readServices_delivers h hccsvc ctx₁ h₁
  exact ⟨ctx₂, hrun₁.trans hrun₂, hfaults₂.trans hfaults₁⟩

/-- A written time code is a time code with the drop frame flag set. -/
lemma ofFields_writtenTimeCodeFields {t : Eia708bTimeCodeSection} (h : t.tc10fr.toNat < 2 ^ 2) :
    Bits.ofFields (writtenTimeCodeFields t) =
      Bits.ofFields (timeCodeFields { t with dropFrameFlag := 1 } 0x03 0x01 0) := by
  have h10fr : Bits.ofNat 3 t.tc10fr.toNat = Bits.ofNat 1 0 ++ Bits.ofNat 2 t.tc10fr.toNat := by
    rw [Bits.ofNat_add 1 2, Nat.shiftRight_eq_div_pow, Nat.div_eq_of_lt h]
  simp only [writtenTimeCodeFields, timeCodeFields, Bits.ofFields_cons, h10fr, List.append_assoc]
  rfl

/-- Every header that is written is read back as some header. -/
lemma exists_parseCdpHeader_yields (h : Eia708bCdpHeader) (r₁ r₂ : ℕ) :
    ∃ header, parseCdpHeader.Yields (Bits.ofFields (cdpHeaderFields h r₁ r₂)) header := by
  obtain ⟨f, hf, htakes⟩ := parseCdpHeader_takes
  obtain ⟨header, hheader⟩ := htakes.yields _ (cdpHeaderFields_length h r₁ r₂)
  rw [hf]
  exact ⟨header, hheader.needOctets_bind _ (by rw [cdpHeaderFields_length])⟩

/-- The header and the time code are read back, and what stands at the place of the captions comes
next. -/
lemma parseCdp_run (htc : pkt.WritesTimeCode → pkt.tc.Fits)
    (hid : pkt.footer.cdpFooterId = 0x71 →
      pkt.WritesTimeCode ∨ pkt.WritesCcdata ∨ pkt.WritesCcsvcinfo)
    {bits : List Bool} (hheader : parseCdpHeader.Yields bits header) {ctx : KlbsContext}
    (hreads : ctx.Reads (bits ++ (Bits.ofBytes [pkt.timeCodeId] ++ pkt.timeCodeBits))) :
    ∃ ctx', (parseCdp payload n).run.run ctx =
        (readCaptions payload n header pkt.decodedTimeCode pkt.captionsId).run.run ctx' ∧
      ctx'.Reads pkt.captionsBits ∧ ctx'.faults = ctx.faults := by
  obtain ⟨ctx₁, hrun₁, h₁, hfaults₁, -⟩ := hheader.run_bind (f := fun header =>
    needOctets 1 (-enomem) >>= fun _ => readBits 8 8 >>= fun next =>
      sectionIf 0x71 parseTimeCodeSection {} next >>= fun x =>
        readCaptions payload n header x.1 x.2) hreads
  obtain ⟨ctx₂, hrun₂, h₂, hfaults₂, -⟩ := (Yields.octet pkt.timeCodeId).run_bind (f := fun next =>
    sectionIf 0x71 parseTimeCodeSection {} next >>= fun x =>
      readCaptions payload n header x.1 x.2) h₁
  have hfree : 1 ≤ klbsGetByteCountFree ctx₁ := by
    rw [h₁.byteCountFree_eq, List.length_append, Bits.ofBytes_length, List.length_singleton]
    omega
  have hfirst : (parseCdp payload n).run.run ctx =
      (sectionIf 0x71 parseTimeCodeSection {} pkt.timeCodeId >>= fun x =>
        readCaptions payload n header x.1 x.2).run.run ctx₂ := by
    rw [parseCdp_eq, hrun₁, needOctets_bind_run hfree, hrun₂]
  rw [hfirst, ← hfaults₁, ← hfaults₂]
  clear hfirst hrun₁ hrun₂ hreads h₁
  unfold timeCodeBits at h₂
  unfold timeCodeId decodedTimeCode
  split_ifs at h₂ ⊢ with hwrites
  · have hfits : Eia708bTimeCodeSection.Fits { pkt.tc with dropFrameFlag := 1 } :=
      { htc hwrites with dropFrameFlag := (by decide : (1 : Byte).toNat < 2 ^ 1) }
    rw [ofFields_writtenTimeCodeFields (htc hwrites).tc10fr, ← List.append_assoc] at h₂
    obtain ⟨ctx₃, hrun₃, h₃, hfaults₃, -⟩ := (parseTimeCodeSection_yields hfits 0x03 0x01 0
      pkt.captionsId).run_bind (f := fun x => readCaptions payload n header x.1 x.2) h₂
    rw [sectionIf_of_eq hwrites.2]
    exact ⟨ctx₃, hrun₃, h₃, hfaults₃⟩
  · have hne : pkt.captionsId ≠ 0x71 := by
      unfold captionsId servicesId
      split_ifs with hcc hsvc
      · rw [hcc.2]
        decide
      · rw [hsvc.2]
        decide
      · exact fun hfooter => (hid hfooter).elim hwrites fun h => h.elim hcc hsvc
    rw [sectionIf_of_ne hne, pure_bind]
    exact ⟨ctx₂, rfl, h₂, rfl⟩

end Sections

/-! ### Reading a packet back -/

section Packet

variable {pkt : KlvancPacketEia708b} {hdr : KlvancPacketHeader} {header : Eia708bCdpHeader}

/-- The reader has the header, the first id and what stands behind it to consume. -/
lemma payloadReader_wire (h : pkt.SectionsFit) (hcarry : hdr.payload.map lowByte = pkt.wire) :
    (payloadReader hdr).Reads (Bits.ofFields (cdpHeaderFields
      { pkt.header with cdpLength := BitVec.ofNat 8 pkt.wire.length } 0x0f 0x01) ++
        (Bits.ofBytes [pkt.timeCodeId] ++ pkt.timeCodeBits)) := by
  have hlen : hdr.payload.length = pkt.wire.length := by
    rw [← hcarry, List.length_map]
  have hlt := bodySize_lt h.holds
  rw [wire_length h.holds] at hlen
  rw [← ofBytes_wire h, ← hcarry]
  exact payloadReader_reads (by omega)

/-- The octets of a packet come back as the packet with the header that is read from them. -/
lemma parseEIA708B_wire (h : pkt.SectionsFit) (htc : pkt.WritesTimeCode → pkt.tc.Fits)
    (hfooter : pkt.FooterSetApart) (hcarry : hdr.payload.map lowByte = pkt.wire)
    (hheader : parseCdpHeader.Yields (Bits.ofFields (cdpHeaderFields
      { pkt.header with cdpLength := BitVec.ofNat 8 pkt.wire.length } 0x0f 0x01)) header) :
    parseEIA708B hdr =
      pure (.ok (pkt.decoded ((List.range 256).map hdr.payloadByte) header)) := by
  have hlen : hdr.payloadLengthWords = pkt.wire.length := by
    rw [← hcarry, List.length_map, KlvancPacketHeader.payloadLengthWords]
  have hle : hdr.payload.length ≤ 256 := by
    have hlt := bodySize_lt h.holds
    rw [← KlvancPacketHeader.payloadLengthWords, hlen, wire_length h.holds]
    omega
  have hsum : ((((List.range 256).map hdr.payloadByte).take hdr.payloadLengthWords).foldl (· + ·)
      (0 : Byte) == 0) = true := by
    rw [payloadByte_take hle, hcarry, wire_sum]
    rfl
  obtain ⟨ctx₁, hrun₁, h₁, hfaults₁⟩ := @parseCdp_run pkt ((List.range 256).map hdr.payloadByte)
    hdr.payloadLengthWords header htc hfooter.timeCode _ hheader _ (payloadReader_wire h hcarry)
  obtain ⟨ctx₂, hrun₂, hfaults₂⟩ := readCaptions_delivers h hfooter.ccdata hfooter.ccsvc ctx₁ h₁
  have hrun := hrun₁.trans hrun₂
  rw [hsum] at hrun
  have hrunOn : parseEIA708B hdr = ⟨((parseCdp ((List.range 256).map hdr.payloadByte)
      hdr.payloadLengthWords).run.run (payloadReader hdr)).1,
    ((parseCdp ((List.range 256).map hdr.payloadByte) hdr.payloadLengthWords).run.run
      (payloadReader hdr)).2.faults⟩ := rfl
  rw [hrunOn, hrun, decoded, ← hlen]
  exact congrArg (Checked.mk _) (hfaults₂.trans hfaults₁)

end Packet

/-! ### Encoding again what came back -/

namespace KlvancPacketEia708b

section Returned

variable (pkt : KlvancPacketEia708b) (payload : List Byte)

/-- The packet that comes back when its header fits: the length has been filled in. -/
def returned : KlvancPacketEia708b :=
  pkt.decoded payload { pkt.header with cdpLength := BitVec.ofNat 8 pkt.wire.length }

variable {pkt payload}

lemma decodedCcdata_of_writes (h : pkt.WritesCcdata) : pkt.decodedCcdata = pkt.ccdata := if_pos h

lemma decodedCcsvcinfo_of_writes (h : pkt.WritesCcsvcinfo) :
    pkt.decodedCcsvcinfo = { pkt.ccsvc with svc := pkt.ccsvc.svc.map (·.decoded) } := if_pos h

/-- No time code comes back from a packet without one. -/
lemma not_returned_writesTimeCode (h : ¬pkt.WritesTimeCode) :
    ¬(pkt.returned payload).WritesTimeCode := by
  have hid : pkt.decodedTimeCode.timeCodeSectionId = 0 := by
    rw [decodedTimeCode, if_neg h]
  rintro ⟨-, hid'⟩
  exact absurd (hid.symm.trans hid') (by decide)

/-- The captions that come back are written if those of the packet are. -/
lemma returned_writesCcdata : (pkt.returned payload).WritesCcdata ↔ pkt.WritesCcdata := by
  constructor
  · intro h
    by_contra hnot
    have hid : pkt.decodedCcdata.ccdataId = 0 := by
      rw [decodedCcdata, if_neg hnot]
    exact absurd (hid.symm.trans h.2) (by decide)
  · intro h
    exact ⟨h.1, (congrArg (·.ccdataId) (decodedCcdata_of_writes h)).trans h.2⟩

/-- The services that come back are written if those of the packet are. -/
lemma returned_writesCcsvcinfo : (pkt.returned payload).WritesCcsvcinfo ↔ pkt.WritesCcsvcinfo := by
  constructor
  · intro h
    by_contra hnot
    have hid : pkt.decodedCcsvcinfo.ccsvcinfoId = 0 := by
      rw [decodedCcsvcinfo, if_neg hnot]
    exact absurd (hid.symm.trans h.2) (by decide)
  · intro h
    exact ⟨h.1, (congrArg (·.ccsvcinfoId) (decodedCcsvcinfo_of_writes h)).trans h.2⟩

/-- The services that come back are written as they were. -/
lemma returned_servicesFields (hfooter : pkt.footer.cdpFooterId = 0x74) :
    (pkt.returned payload).servicesFields = pkt.servicesFields := by
  have hfields : (pkt.returned payload).footerFields = pkt.footerFields := by
    simp only [footerFields, returned, decoded, decodedFooter, if_pos hfooter]
  unfold servicesFields
  simp only [returned_writesCcsvcinfo, hfields]
  split_ifs with hwrites
  · have hsvc : (pkt.returned payload).ccsvc = _ := decodedCcsvcinfo_of_writes hwrites
    have hflat : (pkt.ccsvc.svc.map (·.decoded)).flatMap svcEntryFields =
        pkt.ccsvc.svc.flatMap svcEntryFields := by
      rw [List.flatMap_map]
      rfl
    simp only [hsvc, ccsvcinfoFields, hflat]
  · rfl

/-- The captions that come back are written as they were. -/
lemma returned_captionsFields (hfooter : pkt.footer.cdpFooterId = 0x74) :
    (pkt.returned payload).captionsFields = pkt.captionsFields := by
  unfold captionsFields
  simp only [returned_writesCcdata, returned_servicesFields hfooter]
  split_ifs with hwrites
  · have hcc : (pkt.returned payload).ccdata = _ := decodedCcdata_of_writes hwrites
    rw [hcc]
  · rfl

/-- What comes back takes as many octets as before. -/
lemma returned_bodySize (htc : ¬pkt.WritesTimeCode) :
    (pkt.returned payload).bodySize = pkt.bodySize := by
  unfold bodySize
  simp only [returned_writesCcdata, returned_writesCcsvcinfo, if_neg htc,
    if_neg (not_returned_writesTimeCode htc)]
  congr 2
  · split_ifs with hwrites
    · have hcc : (pkt.returned payload).ccdata = _ := decodedCcdata_of_writes hwrites
      rw [hcc]
    · rfl
  · split_ifs with hwrites
    · have hsvc : (pkt.returned payload).ccsvc = _ := decodedCcsvcinfo_of_writes hwrites
      rw [hsvc, List.length_map]
    · rfl

/-- The sections that come back fit. -/
lemma returned_sectionsFit (h : pkt.SectionsFit) : (pkt.returned payload).SectionsFit where
  ccdata hwrites := by
    have hwrites := returned_writesCcdata.mp hwrites
    have hcc : (pkt.returned payload).ccdata = _ := decodedCcdata_of_writes hwrites
    rw [hcc]
    exact h.ccdata hwrites
  ccsvc hwrites := by
    have hwrites := returned_writesCcsvcinfo.mp hwrites
    have hfits := h.ccsvc hwrites
    have hsvc : (pkt.returned payload).ccsvc = _ := decodedCcsvcinfo_of_writes hwrites
    rw [hsvc]
    refine { hfits with svc_length := ?_, svc := ?_ }
    · rw [List.length_map]
      exact hfits.svc_length
    · intro e he
      obtain ⟨e', he', rfl⟩ := List.mem_map.mp he
      exact ⟨(hfits.svc e' he').captionServiceNumber, (hfits.svc e' he').svcDataByte⟩

/-- A packet that comes back without a time code is encoded as before. -/
lemma returned_wire (htc : ¬pkt.WritesTimeCode) (hfooter : pkt.footer.cdpFooterId = 0x74) :
    (pkt.returned payload).wire = pkt.wire := by
  have hbody : (pkt.returned payload).body = pkt.body := by
    rw [body, body, returned_bodySize htc, bodyFields, bodyFields, timeCodeOnFields,
      timeCodeOnFields, if_neg htc, if_neg (not_returned_writesTimeCode htc),
      returned_captionsFields hfooter]
    rfl
  rw [wire, wire, checksum, checksum, hbody]

end Returned

end KlvancPacketEia708b

/-! ### Through the VANC layer -/

lemma eia708bDid_ne : (0x61 : Byte) ≠ 0 := by decide

lemma eia708bSdid_ne : (0x01 : Byte) ≠ 0 := by decide

/-- The ancillary data packet that carries a caption distribution packet. -/
def captionPacket (pkt : KlvancPacketEia708b) (h : pkt.SectionsFit) : SdiPacket where
  did := 0x61
  sdid := 0x01
  bytes := pkt.wire
  did_ne := eia708bDid_ne
  sdid_ne := eia708bSdid_ne
  bytes_pos := by rw [wire_length h.holds]; omega
  bytes_le := by
    have hlt := bodySize_lt h.holds
    rw [wire_length h.holds]
    omega

/-- A caption distribution packet that decodes without a fault is handed to the `eia_708b` callback,
once. -/
lemma processPacket_eia708b {run : KlvancRun} {hdr : KlvancPacketHeader} {pkt : KlvancPacketEia708b}
    (hreg : run.ctx.registered (·.eia708b) = true) (hvalid : hdr.checksumValid = true)
    (htype : hdr.type = .eia708b) (hpkt : parseEIA708B hdr = pure (.ok pkt)) :
    (processPacket run hdr).eia708bPackets = run.eia708bPackets ++ [pkt] ∧
      (processPacket run hdr).faults = run.faults := by
  obtain ⟨run', hprocess, hregistered, hfaults, -, hpackets⟩ := processPacket_valid run hdr hvalid
  have hreg' : run'.ctx.registered (·.eia708b) = true := by rwa [hregistered]
  rw [hprocess, ← hpackets, ← hfaults]
  unfold parseByType
  rw [htype]
  dsimp only
  rw [runDecoder, if_pos hreg', hpkt]
  exact ⟨by simp [KlvancRun.eia708bPackets], List.append_nil _⟩

/-- A caption distribution packet without a time code, whose fields fit the wire and whose footer
has its id, is converted to VANC words, and `klvanc_packet_parse` on these words hands a packet to
the `eia_708b` callback, exactly once. This packet has the header of the first one, with the byte
count as its length, its captions, the numbers and data bytes of its services and its sequence
counters, and a valid checksum, and it is converted to the same words again. Nothing meets a fault
on the way. -/
theorem klvancConvertEIA708BToWords_roundTrip {pkt : KlvancPacketEia708b}
    (hheader : pkt.header.Fits) (htc : ¬pkt.WritesTimeCode) (hfit : pkt.SectionsFit)
    (hfooter : pkt.footer.cdpFooterId = 0x74) (lineNr : ℕ) {run : KlvancRun}
    (hreg : run.ctx.registered (·.eia708b) = true) :
    ∃ bytes byteCount words pkt',
      klvancConvertEIA708BToPacketBytes pkt = ⟨(0, bytes, byteCount), []⟩ ∧
      klvancConvertEIA708BToWords pkt = ⟨(0, some words), []⟩ ∧
      (klvancPacketParse lineNr words words.length run).1 = 1 ∧
      (klvancPacketParse lineNr words words.length run).2.eia708bPackets =
        run.eia708bPackets ++ [pkt'] ∧
      (klvancPacketParse lineNr words words.length run).2.faults = run.faults ∧
      (klvancPacketParse lineNr words words.length run).2.lineFaults = run.lineFaults ∧
      pkt'.header = { pkt.header with cdpLength := BitVec.ofNat 8 byteCount } ∧
      pkt'.header.cdpLength.toNat = byteCount ∧
      pkt'.footer.cdpFtrSequenceCntr = pkt.footer.cdpFtrSequenceCntr ∧
      (pkt'.ccdata = if pkt.WritesCcdata then pkt.ccdata else {}) ∧
      (pkt'.ccsvc = if pkt.WritesCcsvcinfo then
        { pkt.ccsvc with svc := pkt.ccsvc.svc.map (·.decoded) } else {}) ∧
      pkt'.checksumValid = true ∧
      klvancConvertEIA708BToWords pkt' = ⟨(0, some words), []⟩ := by
  have hlt := bodySize_lt hfit.holds
  have hlen := wire_length hfit.holds
  let p := captionPacket pkt hfit
  have hcarry : (p.header lineNr p.words 0).payload.map lowByte = pkt.wire :=
    p.header_payload_lowByte lineNr p.words 0
  let pkt' := pkt.returned ((List.range 256).map (p.header lineNr p.words 0).payloadByte)
  have hfooterApart : pkt.FooterSetApart := by
    constructor
    all_goals
      intro hid
      exact absurd (hfooter.symm.trans hid) (by decide)
  have hheader' : Eia708bCdpHeader.Fits
    { pkt.header with cdpLength := BitVec.ofNat 8 pkt.wire.length } := { hheader with }
  have hpkt : parseEIA708B (p.header lineNr p.words 0) = pure (.ok pkt') :=
    parseEIA708B_wire hfit (fun h => absurd h htc) hfooterApart hcarry
      (parseCdpHeader_yields hheader' 0x0f 0x01)
  obtain ⟨hpackets, hfaults⟩ := @processPacket_eia708b run _ _ hreg rfl rfl hpkt
  have hwords : klvancSdiCreatePayload 0x01 0x61 pkt.wire 10 = some p.words := p.create_eq
  have hagain : klvancConvertEIA708BToWords pkt' = ⟨(0, some p.words), []⟩ := by
    rw [klvancConvertEIA708BToWords_eq (returned_sectionsFit hfit).holds, returned_wire htc hfooter,
      hwords]
    rfl
  refine ⟨_, pkt.wire.length, p.words, pkt', klvancConvertEIA708BToPacketBytes_eq hfit.holds,
    ?_, ?_⟩
  · rw [klvancConvertEIA708BToWords_eq hfit.holds, hwords]
    rfl
  · rw [klvancPacketParse_words]
    refine ⟨rfl, hpackets, hfaults, processPacket_lineFaults _ _, rfl, ?_, ?_, rfl, rfl, rfl,
      hagain⟩
    · exact Nat.mod_eq_of_lt (by omega)
    · have hback : pkt.decodedFooter = { pkt.footer with packetChecksum := pkt.checksum } :=
        if_pos hfooter
      exact (congrArg Eia708bCdpFooter.cdpFtrSequenceCntr hback).trans rfl

/-- A packet with two captions and one service in English. -/
def englishPacket : KlvancPacketEia708b where
  payload := []
  payloadLengthBytes := 0
  checksumValid := false
  header :=
    { cdpIdentifier := 0x9669, cdpLength := 0, cdpFrameRate := 4, timeCodePresent := 0
      ccdataPresent := 1, svcinfoPresent := 1, svcInfoStart := 1, svcInfoChange := 0
      svcInfoComplete := 1, captionServiceActive := 1, cdpHdrSequenceCntr := 0xbc95 }
  tc := {}
  ccdata :=
    { ccdataId := 0x72, ccCount := 2
      cc := [{ ccValid := 1, ccType := 0, ccData := (0x80, 0x80) },
        { ccValid := 1, ccType := 3, ccData := (0x41, 0x42) }] }
  ccsvc :=
    { ccsvcinfoId := 0x73, svcInfoStart := 1, svcInfoChange := 0, svcInfoComplete := 1
      svcCount := 1
      svc := [decodeSvcEntry 1 [0x65, 0x6e, 0x67, 0xc1, 0x7f, 0xff]] }
  footer := { cdpFooterId := 0x74, cdpFtrSequenceCntr := 0xbc95, packetChecksum := 0 }

lemma englishPacket_sectionsFit : englishPacket.SectionsFit where
  ccdata _ :=
    { ccCount := by decide
      cc_length := rfl
      cc := by
        intro e he
        rcases List.mem_pair.mp he with rfl | rfl
        · exact ⟨by decide, by decide⟩
        · exact ⟨by decide, by decide⟩ }
  ccsvc _ :=
    { svcInfoStart := by decide
      svcInfoChange := by decide
      svcInfoComplete := by decide
      svcCount := by decide
      svc_length := rfl
      svc := by
        intro e he
        rw [List.mem_singleton.mp he]
        exact ⟨by decide, rfl⟩ }

/-- The packet in English is handed to the callback with its captions. -/
theorem klvancConvertEIA708BToWords_roundTrip_english :
    ∃ words pkt', klvancConvertEIA708BToWords englishPacket = ⟨(0, some words), []⟩ ∧
      (klvancPacketParse 9 words words.length (.start
        { callbacks := some { eia708b := true } })).2.eia708bPackets = [pkt'] ∧
      pkt'.ccdata = englishPacket.ccdata ∧ pkt'.checksumValid = true := by
  obtain ⟨-, -, words, pkt', -, hwords, -, hpackets, -, -, -, -, -, hccdata, -, hvalid, -⟩ :=
    @klvancConvertEIA708BToWords_roundTrip englishPacket
      ⟨by decide, by decide, by decide, by decide, by decide, by decide, by decide, by decide⟩
      (by decide) englishPacket_sectionsFit rfl 9
      (.start { callbacks := some { eia708b := true } }) rfl
  exact ⟨words, pkt', hwords, hpackets, hccdata, hvalid⟩

end Libklvanc
