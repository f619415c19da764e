import Libklvanc.Services.CaptionRoundTrip

/-!
# The time code of a caption distribution packet

The parser reads the drop frame flag and a zero in front of the tens of frames. The encoder writes a
reserved one there and the tens of frames in three bits, so that the flag comes back set, whatever
it was, and all other fields come back as they were (`parseEIA708B_timeCode_iff`).
-/

namespace Libklvanc

open KlbsDecoder KlvancPacketEia708b

/-! ### What the parser returns in any case -/

section Ensures

variable {payload : List Byte} {n : ℕ} {header : Eia708bCdpHeader} {tc : Eia708bTimeCodeSection}
  {ccdata : Eia708bCcdataSection} {ccsvc : Eia708bCcsvcinfoSection} {next : Byte}

/-- A section that is there has its id. -/
lemma sectionIf_ensures {α : Type} {sectionId : Byte} {parse : Byte → KlbsDecoder (α × Byte)}
    {absent : α} {P : α → Prop} (h : (parse sectionId).Ensures fun x => P x.1) :
    (sectionIf sectionId parse absent next).Ensures fun x => next = sectionId → P x.1 := by
  by_cases hid : next = sectionId
  · subst hid
    rw [sectionIf_of_eq rfl]
    exact fun ctx a ctx' hrun _ => h ctx a ctx' hrun
  · exact fun _ _ _ _ hid' => absurd hid' hid

/-- A caption section keeps the id that was read before it. -/
lemma parseCcdataSection_ensures (sectionId : Byte) :
    (parseCcdataSection sectionId).Ensures fun x => x.1.ccdataId = sectionId := by
  rw [parseCcdataSection_eq]
  exact .bind_right fun _ => .bind_right fun _ => .bind_right fun _ => .bind_right fun _ =>
    .bind_right fun _ => .bind_right fun _ => .pure rfl

/-- A service section keeps the id that was read before it. -/
lemma parseCcsvcinfoSection_ensures (sectionId : Byte) :
    (parseCcsvcinfoSection sectionId).Ensures fun x => x.1.ccsvcinfoId = sectionId := by
  rw [parseCcsvcinfoSection_eq]
  exact .bind_right fun _ => .bind_right fun _ => .bind_right fun _ => .bind_right fun _ =>
    .bind_right fun _ => .bind_right fun _ => .bind_right fun _ => .bind_right fun _ =>
      .bind_right fun _ => .pure rfl

/-- From the services on the parser keeps the time code and the captions, and takes services from
their id on. -/
lemma readServices_ensures : (readServices payload n header tc ccdata next).Ensures fun pkt =>
    pkt.tc = tc ∧ pkt.ccdata = ccdata ∧ (next = 0x73 → pkt.ccsvc.ccsvcinfoId = 0x73) :=
  .bind (sectionIf_ensures (P := fun s => s.ccsvcinfoId = 0x73)
    (parseCcsvcinfoSection_ensures 0x73))
    fun _ hsvc => .bind_right fun _ => .pure ⟨rfl, rfl, hsvc⟩

/-- From the captions on the parser keeps the time code, and takes captions from their id on. -/
lemma readCaptions_ensures : (readCaptions payload n header tc next).Ensures fun pkt =>
    pkt.tc = tc ∧ (next = 0x72 → pkt.ccdata.ccdataId = 0x72) := by
  refine .bind (sectionIf_ensures (P := fun s => s.ccdataId = 0x72)
    (parseCcdataSection_ensures 0x72)) fun x hcc => ?_
  intro ctx pkt ctx' hrun
  obtain ⟨htc, hccdata, -⟩ := readServices_ensures ctx pkt ctx' hrun
  exact ⟨htc, fun hid => (congrArg (·.ccdataId) hccdata).trans (hcc hid)⟩

end Ensures

/-! ### When a time code survives -/

section Survives

variable {pkt : KlvancPacketEia708b} {hdr : KlvancPacketHeader}

/-- The parser accepts the payload of `hdr` and finds the time code of `pkt` and the sections behind
it as `pkt` has them. -/
def TimeCodeSurvives (pkt : KlvancPacketEia708b) (hdr : KlvancPacketHeader) : Prop :=
  ∃ pkt', parseEIA708B hdr = pure (.ok pkt') ∧ pkt'.tc = pkt.tc ∧
    (pkt'.ccdata = if pkt.WritesCcdata then pkt.ccdata else {}) ∧
    (pkt'.ccsvc = if pkt.WritesCcsvcinfo then
      { pkt.ccsvc with svc := pkt.ccsvc.svc.map (·.decoded) } else {})

/-- With the drop frame flag set, and a footer that is not taken for a section, the time code
survives. -/
lemma timeCodeSurvives_of_dropFrameFlag (hwrites : pkt.WritesTimeCode) (htc : pkt.tc.Fits)
    (h : pkt.SectionsFit) (hcarry : hdr.payload.map lowByte = pkt.wire)
    (hdrop : pkt.tc.dropFrameFlag = 1) (hfooter : pkt.FooterSetApart) :
    TimeCodeSurvives pkt hdr := by
  obtain ⟨header, hheader⟩ := exists_parseCdpHeader_yields
    { pkt.header with cdpLength := BitVec.ofNat 8 pkt.wire.length } 0x0f 0x01
  have htimeCode : pkt.decodedTimeCode = pkt.tc := by
    rw [decodedTimeCode, if_pos hwrites, ← hdrop]
  exact ⟨_, parseEIA708B_wire h (fun _ => htc) hfooter hcarry hheader, htimeCode, rfl, rfl⟩

/-- A time code that survives has its drop frame flag set, and no footer is taken for a section
behind it. -/
lemma dropFrameFlag_of_timeCodeSurvives (hwrites : pkt.WritesTimeCode) (htc : pkt.tc.Fits)
    (h : pkt.SectionsFit) (hcarry : hdr.payload.map lowByte = pkt.wire)
    (hsurvives : TimeCodeSurvives pkt hdr) : pkt.tc.dropFrameFlag = 1 ∧ pkt.FooterSetApart := by
  obtain ⟨pkt', hparse, htc', hccdata, hccsvc⟩ := hsurvives
  obtain ⟨header, hheader⟩ := exists_parseCdpHeader_yields
    { pkt.header with cdpLength := BitVec.ofNat 8 pkt.wire.length } 0x0f 0x01
  obtain ⟨ctx₁, hrun₁, h₁, -⟩ := @parseCdp_run pkt ((List.range 256).map hdr.payloadByte)
    hdr.payloadLengthWords header (fun _ => htc) (fun _ => Or.inl hwrites) _ hheader _
    (payloadReader_wire h hcarry)
  have hrun : ∃ ctx₂, (readCaptions ((List.range 256).map hdr.payloadByte) hdr.payloadLengthWords
      header pkt.decodedTimeCode pkt.captionsId).run.run ctx₁ = (.ok pkt', ctx₂) := by
    rw [← hrun₁]
    exact ⟨_, Prod.ext (congrArg Checked.val hparse) rfl⟩
  obtain ⟨ctx₂, hrun₂⟩ := hrun
  obtain ⟨htcKept, hccdataId⟩ := readCaptions_ensures ctx₁ pkt' ctx₂ hrun₂
  have hccdataApart : pkt.footer.cdpFooterId = 0x72 → pkt.WritesCcdata ∨ pkt.WritesCcsvcinfo := by
    intro hid
    by_contra hnot
    obtain ⟨hnotCc, hnotSvc⟩ := not_or.mp hnot
    have hnext : pkt.captionsId = 0x72 := by
      rw [captionsId, if_neg hnotCc, servicesId, if_neg hnotSvc, hid]
    rw [if_neg hnotCc] at hccdata
    have hread := hccdataId hnext
    rw [hccdata] at hread
    exact absurd hread (by decide)
  refine ⟨?_, fun _ => Or.inl hwrites, hccdataApart, ?_⟩
  · rw [← htc', htcKept, decodedTimeCode, if_pos hwrites]
  · intro hid
    by_contra hnot
    obtain ⟨ctx₃, hrun₃, -, -⟩ := @readCaptions_run pkt ((List.range 256).map hdr.payloadByte)
      hdr.payloadLengthWords header pkt.decodedTimeCode h hccdataApart ctx₁ h₁
    have hnext : pkt.servicesId = 0x73 := by rw [servicesId, if_neg hnot, hid]
    obtain ⟨-, -, hccsvcId⟩ := readServices_ensures ctx₃ pkt' ctx₂ (hrun₃.symm.trans hrun₂)
    rw [if_neg hnot] at hccsvc
    have hread := hccsvcId hnext
    rw [hccsvc] at hread
    exact absurd hread (by decide)

/-- A packet with a time code and with sections behind it that fit is converted to octets without a
fault, and the parser finds the same time code and the same sections in a payload that carries these
octets exactly when the drop frame flag is set and the id of the footer is not that of a section
that is missing. -/
theorem parseEIA708B_timeCode_iff (hwrites : pkt.WritesTimeCode) (htc : pkt.tc.Fits)
    (h : pkt.SectionsFit) :
    ∃ bytes byteCount, klvancConvertEIA708BToPacketBytes pkt = ⟨(0, bytes, byteCount), []⟩ ∧
      ∀ hdr : KlvancPacketHeader, hdr.payload.map lowByte = bytes.take byteCount →
        (TimeCodeSurvives pkt hdr ↔
          pkt.tc.dropFrameFlag = 1 ∧
            (pkt.footer.cdpFooterId = 0x72 → pkt.WritesCcdata ∨ pkt.WritesCcsvcinfo) ∧
            (pkt.footer.cdpFooterId = 0x73 → pkt.WritesCcsvcinfo)) := by
  refine ⟨_, pkt.wire.length, klvancConvertEIA708BToPacketBytes_eq h.holds, fun hdr hcarry => ?_⟩
  rw [List.take_left] at hcarry
  constructor
  · intro hsurvives
    obtain ⟨hdrop, hfooter⟩ := dropFrameFlag_of_timeCodeSurvives hwrites htc h hcarry hsurvives
    exact ⟨hdrop, hfooter.ccdata, hfooter.ccsvc⟩
  · rintro ⟨hdrop, hccdata, hccsvc⟩
    exact timeCodeSurvives_of_dropFrameFlag hwrites htc h hcarry hdrop
      ⟨fun _ => Or.inl hwrites, hccdata, hccsvc⟩

end Survives

/-- A packet with a time code, 01:02:03:04 in the first field, and nothing behind it but the
footer. -/
def timeCodePacket (dropFrameFlag : Byte) : KlvancPacketEia708b where
  payload := []
  payloadLengthBytes := 0
  checksumValid := false
  header :=
    { cdpIdentifier := 0x9669, cdpLength := 0, cdpFrameRate := 4, timeCodePresent := 1
      ccdataPresent := 0, svcinfoPresent := 0, svcInfoStart := 0, svcInfoChange := 0
      svcInfoComplete := 0, captionServiceActive := 0, cdpHdrSequenceCntr := 1 }
  tc :=
    { timeCodeSectionId := 0x71, tc1hrs := 1, tc1min := 2, tc1sec := 3, dropFrameFlag, tc1fr := 4 }
  ccdata := {}
  ccsvc := {}
  footer := { cdpFooterId := 0x74, cdpFtrSequenceCntr := 1, packetChecksum := 0 }

lemma timeCodePacket_tc_fits {dropFrameFlag : Byte} (h : dropFrameFlag = 0 ∨ dropFrameFlag = 1) :
    (timeCodePacket dropFrameFlag).tc.Fits := by
  rcases h with rfl | rfl
  · constructor <;> decide
  · constructor <;> decide

lemma timeCodePacket_sectionsFit (dropFrameFlag : Byte) :
    (timeCodePacket dropFrameFlag).SectionsFit where
  ccdata h := absurd h.2 (by decide : (0 : Byte) ≠ 0x72)
  ccsvc h := absurd h.2 (by decide : (0 : Byte) ≠ 0x73)

/-- The drop frame time code survives. -/
theorem parseEIA708B_timeCode_iff_dropFrame :
    ∃ bytes byteCount, klvancConvertEIA708BToPacketBytes (timeCodePacket 1) =
        ⟨(0, bytes, byteCount), []⟩ ∧
      ∀ hdr : KlvancPacketHeader, hdr.payload.map lowByte = bytes.take byteCount →
        TimeCodeSurvives (timeCodePacket 1) hdr := by
  obtain ⟨bytes, byteCount, hconvert, hiff⟩ := @parseEIA708B_timeCode_iff (timeCodePacket 1)
    (by decide) (timeCodePacket_tc_fits (Or.inr rfl)) (timeCodePacket_sectionsFit 1)
  exact ⟨bytes, byteCount, hconvert, fun hdr hcarry =>
    (hiff hdr hcarry).mpr
      ⟨rfl, fun hid => absurd hid (by decide), fun hid => absurd hid (by decide)⟩⟩

/-- The time code without drop frames does not. -/
theorem not_timeCodeSurvives_nonDropFrame :
    (timeCodePacket 0).header.timeCodePresent = 1 ∧ (timeCodePacket 0).tc.timeCodeSectionId = 0x71 ∧
      (timeCodePacket 0).tc.Fits ∧ (timeCodePacket 0).SectionsFit ∧
      ∃ (bytes : List Byte) (byteCount : ℕ) (hdr : KlvancPacketHeader),
        klvancConvertEIA708BToPacketBytes (timeCodePacket 0) = ⟨(0, bytes, byteCount), []⟩ ∧
        hdr.payload.map lowByte = bytes.take byteCount ∧
        ¬TimeCodeSurvives (timeCodePacket 0) hdr := by
  have hfits := timeCodePacket_tc_fits (Or.inl rfl : (0 : Byte) = 0 ∨ (0 : Byte) = 1)
  have h := timeCodePacket_sectionsFit 0
  have hcarry : (captionPacket _ h).onLine.payload.map lowByte = (timeCodePacket 0).wire :=
    (captionPacket _ h).header_payload_lowByte _ _ _
  refine ⟨rfl, rfl, hfits, h, _, (timeCodePacket 0).wire.length, (captionPacket _ h).onLine,
    klvancConvertEIA708BToPacketBytes_eq h.holds, ?_, fun hsurvives => ?_⟩
  · rw [List.take_left, hcarry]
  · obtain ⟨hdrop, -⟩ := dropFrameFlag_of_timeCodeSurvives (by decide) hfits h hcarry hsurvives
    exact absurd hdrop (by decide)

end Libklvanc
