import Libklvanc.Services.CaptionEncode
import Libklvanc.Services.Captions

/-!
# Caption distribution packets on the wire

The octets that `klvanc_convert_EIA_708B_to_packetBytes` puts out for a packet whose arrays hold
what is counted (`KlvancPacketEia708b.wire`): the fields of the header, of the sections that are
written and of the footer, one behind the other, with the number of octets at the third place, and a
last octet that makes the sum of all of them zero (`klvancConvertEIA708BToPacketBytes_eq`).
-/

namespace Libklvanc

/-! ### The sections -/

/-- The arrays of a caption section hold as many entries as counted. -/
structure Eia708bCcdataSection.Holds (s : Eia708bCcdataSection) : Prop where
  ccCount : s.ccCount.toNat ≤ maxCcCount
  cc_length : s.cc.length = s.ccCount.toNat

lemma Eia708bCcdataSection.Fits.holds {s : Eia708bCcdataSection} (h : s.Fits) : s.Holds :=
  ⟨h.ccCount, h.cc_length⟩

/-- The arrays of a service section hold as many entries as counted, each with its six octets. -/
structure Eia708bCcsvcinfoSection.Holds (s : Eia708bCcsvcinfoSection) : Prop where
  svcCount : s.svcCount.toNat < 2 ^ 4
  svc_length : s.svc.length = s.svcCount.toNat
  svcDataByte : ∀ e ∈ s.svc, e.svcDataByte.length = 6

lemma Eia708bCcsvcinfoSection.Fits.holds {s : Eia708bCcsvcinfoSection} (h : s.Fits) : s.Holds :=
  ⟨h.svcCount, h.svc_length, fun e he => (h.svc e he).svcDataByte⟩

section Sections

variable {bs : KlbsContext}

/-- A cell on the list of an array. -/
lemma cellAt_eq {α : Type} {obj : MemObject} {size i : ℕ} {unset : α} {cells : List α}
    (hi : i < cells.length) (hsize : cells.length ≤ size) :
    cellAt obj size unset cells i = pure cells[i] := by
  rw [cellAt, if_pos (hi.trans_le hsize), List.getD_eq_getElem _ _ hi]

/-- The caption entries on the list are written one behind the other. -/
lemma klbsWriteCcEntries_eq {s : Eia708bCcdataSection} (hsize : s.cc.length ≤ maxCcCount)
    {i count : ℕ} (h : i + count = s.cc.length) :
    klbsWriteCcEntries s i count bs =
      klbsWriteFields bs ((s.cc.drop i).flatMap ccEntryFields) := by
  induction count generalizing i bs with
  | zero =>
    rw [List.drop_eq_nil_of_le (by omega)]
    rfl
  | succ count ih =>
    have hi : i < s.cc.length := by omega
    have hentry : s.entry i = pure s.cc[i] := cellAt_eq hi hsize
    rw [List.drop_eq_getElem_cons hi, List.flatMap_cons, klbsWriteFields_append,
      ← ih (by omega : i + 1 + count = _), klbsWriteCcEntries, hentry]
    simp only [Checked.pure_val, Checked.pure_faults, KlbsContext.addFaults_nil]
    rfl

/-- The caption section is written as its fields. -/
lemma klbsWriteCcdata_eq {s : Eia708bCcdataSection} (hs : s.Holds) :
    klbsWriteCcdata bs s =
      klbsWriteFields bs ((s.ccdataId.toNat, 8) :: ccdataFields s 0x07) := by
  have hcount := hs.cc_length
  rw [klbsWriteCcdata, ← hcount, klbsWriteCcEntries_eq (hcount.trans_le hs.ccCount) (by omega),
    List.drop_zero, hcount]
  exact (klbsWriteFields_append bs [_, _, _] _).symm

/-- The octets of a service entry, cell by cell. -/
lemma svcDataByte_eq {e : Eia708bCcsvcinfoEntry} (h : e.svcDataByte.length = 6) :
    (List.range 6).map (fun n => ((e.svcDataByte.getD n 0).toNat, 8)) =
      e.svcDataByte.map fun b => (b.toNat, 8) := by
  apply List.ext_getElem
  · simp [h]
  · intro i h₁ h₂
    rw [List.length_map] at h₂
    simp [List.getD, h₂]

/-- The service entries on the list are written one behind the other. -/
lemma klbsWriteSvcEntries_eq {s : Eia708bCcsvcinfoSection} (hs : s.Holds) {i count : ℕ}
    (h : i + count = s.svc.length) :
    klbsWriteSvcEntries s i count bs =
      klbsWriteFields bs ((s.svc.drop i).flatMap svcEntryFields) := by
  have hsize : s.svc.length ≤ maxCcsvcCount := by
    have hlt := hs.svcCount
    rw [hs.svc_length, maxCcsvcCount]
    omega
  induction count generalizing i bs with
  | zero =>
    rw [List.drop_eq_nil_of_le (by omega)]
    rfl
  | succ count ih =>
    have hi : i < s.svc.length := by omega
    have hentry : s.entry i = pure s.svc[i] := cellAt_eq hi hsize
    rw [List.drop_eq_getElem_cons hi, List.flatMap_cons, klbsWriteFields_append,
      ← ih (by omega : i + 1 + count = _), klbsWriteSvcEntries, hentry]
    simp only [Checked.pure_val, Checked.pure_faults, KlbsContext.addFaults_nil,
      svcDataByte_eq (hs.svcDataByte _ (List.getElem_mem hi)), ← klbsWriteFields_append]
    rfl

/-- The service section is written as its fields. -/
lemma klbsWriteCcsvcinfo_eq {s : Eia708bCcsvcinfoSection} (hs : s.Holds) :
    klbsWriteCcsvcinfo bs s =
      klbsWriteFields bs ((s.ccsvcinfoId.toNat, 8) :: ccsvcinfoFields s 0x01) := by
  have hcount := hs.svc_length
  rw [klbsWriteCcsvcinfo, ← hcount, klbsWriteSvcEntries_eq hs (by omega), List.drop_zero, hcount]
  exact (klbsWriteFields_append bs [_, _, _, _, _, _] _).symm

/-- The fields of a time code section behind its id, as they are written. -/
def writtenTimeCodeFields (t : Eia708bTimeCodeSection) : List (ℕ × ℕ) :=
  [(0x03, 2), (t.tc10hrs.toNat, 2), (t.tc1hrs.toNat, 4), (0x01, 1), (t.tc10min.toNat, 3),
    (t.tc1min.toNat, 4), (t.tcFieldFlag.toNat, 1), (t.tc10sec.toNat, 3), (t.tc1sec.toNat, 4),
    (0x01, 1), (t.tc10fr.toNat, 3), (t.tc1fr.toNat, 4)]

lemma writtenTimeCodeFields_length (t : Eia708bTimeCodeSection) :
    (Bits.ofFields (writtenTimeCodeFields t)).length = 32 := by
  rw [Bits.ofFields_length]
  rfl

end Sections

/-! ### The whole packet -/

namespace KlvancPacketEia708b

variable (pkt : KlvancPacketEia708b)

/-- The sections that are written fit. -/
structure SectionsFit : Prop where
  ccdata : pkt.WritesCcdata → pkt.ccdata.Fits
  ccsvc : pkt.WritesCcsvcinfo → pkt.ccsvc.Fits

/-- The arrays of the sections that are written hold as many entries as counted. -/
structure SectionsHold : Prop where
  ccdata : pkt.WritesCcdata → pkt.ccdata.Holds
  ccsvc : pkt.WritesCcsvcinfo → pkt.ccsvc.Holds

/-- The number of octets in front of the checksum. -/
def bodySize : ℕ :=
  7 + (if pkt.WritesTimeCode then 5 else 0) +
    (if pkt.WritesCcdata then 2 + 3 * pkt.ccdata.cc.length else 0) +
    (if pkt.WritesCcsvcinfo then 2 + 7 * pkt.ccsvc.svc.length else 0) + 3

/-- The fields of the footer in front of the checksum. -/
def footerFields : List (ℕ × ℕ) :=
  [(pkt.footer.cdpFooterId.toNat, 8), (pkt.footer.cdpFtrSequenceCntr.toNat, 16)]

/-- The fields of the service section, if it is written, and behind it. -/
def servicesFields : List (ℕ × ℕ) :=
  if pkt.WritesCcsvcinfo then
    (pkt.ccsvc.ccsvcinfoId.toNat, 8) :: ccsvcinfoFields pkt.ccsvc 0x01 ++ pkt.footerFields
  else pkt.footerFields

/-- The fields of the caption section, if it is written, and behind it. -/
def captionsFields : List (ℕ × ℕ) :=
  if pkt.WritesCcdata then
    (pkt.ccdata.ccdataId.toNat, 8) :: ccdataFields pkt.ccdata 0x07 ++ pkt.servicesFields
  else pkt.servicesFields

/-- The fields of the time code section, if it is written, and behind it. -/
def timeCodeOnFields : List (ℕ × ℕ) :=
  if pkt.WritesTimeCode then
    (pkt.tc.timeCodeSectionId.toNat, 8) :: writtenTimeCodeFields pkt.tc ++ pkt.captionsFields
  else pkt.captionsFields

/-- The fields in front of the checksum, with the length `n`. -/
def bodyFields (n : Byte) : List (ℕ × ℕ) :=
  cdpHeaderFields { pkt.header with cdpLength := n } 0x0f 0x01 ++ pkt.timeCodeOnFields

/-- The octets in front of the checksum. -/
def body : List Byte :=
  Bits.toBytes (Bits.ofFields (pkt.bodyFields (BitVec.ofNat 8 (pkt.bodySize + 1))))

/-- The octet that makes the sum of all octets zero. -/
def checksum : Byte := ~~~(pkt.body.foldl (· + ·) 0) + 1

/-- The octets of the packet. -/
def wire : List Byte := pkt.body ++ [pkt.checksum]

variable {pkt}

lemma SectionsFit.holds (h : pkt.SectionsFit) : pkt.SectionsHold :=
  ⟨fun hwrites => (h.ccdata hwrites).holds, fun hwrites => (h.ccsvc hwrites).holds⟩

/-- The fields in front of the checksum are as long as the octets there. -/
lemma bodyFields_length (h : pkt.SectionsHold) (n : Byte) :
    (Bits.ofFields (pkt.bodyFields n)).length = 8 * pkt.bodySize := by
  have hservices : (Bits.ofFields pkt.servicesFields).length =
      8 * ((if pkt.WritesCcsvcinfo then 2 + 7 * pkt.ccsvc.svc.length else 0) + 3) := by
    unfold servicesFields
    split_ifs with hwrites
    · simp only [Bits.ofFields_append, Bits.ofFields_cons, List.length_append, Bits.ofNat_length,
        ccsvcinfoFields_length (h.ccsvc hwrites).svcDataByte, footerFields, Bits.ofFields_nil,
        List.length_nil]
      omega
    · rfl
  have hcaptions : (Bits.ofFields pkt.captionsFields).length =
      8 * (if pkt.WritesCcdata then 2 + 3 * pkt.ccdata.cc.length else 0) +
        (Bits.ofFields pkt.servicesFields).length := by
    unfold captionsFields
    split_ifs
    · simp only [Bits.ofFields_append, Bits.ofFields_cons, List.length_append, Bits.ofNat_length,
        ccdataFields_length]
      omega
    · simp
  have htimeCode : (Bits.ofFields pkt.timeCodeOnFields).length =
      8 * (if pkt.WritesTimeCode then 5 else 0) + (Bits.ofFields pkt.captionsFields).length := by
    unfold timeCodeOnFields
    split_ifs
    · simp only [Bits.ofFields_append, Bits.ofFields_cons, List.length_append, Bits.ofNat_length,
        writtenTimeCodeFields_length]
    · simp
  rw [bodyFields, Bits.ofFields_append, List.length_append, cdpHeaderFields_length, htimeCode,
    hcaptions, hservices, bodySize]
  omega

/-- A packet fits its buffer. -/
lemma bodySize_lt (h : pkt.SectionsHold) : pkt.bodySize < 255 := by
  have hcc : (if pkt.WritesCcdata then 2 + 3 * pkt.ccdata.cc.length else 0) ≤ 92 := by
    split_ifs with hwrites
    · have hcount := (h.ccdata hwrites).ccCount
      rw [(h.ccdata hwrites).cc_length]
      rw [maxCcCount] at hcount
      omega
    · omega
  have hsvc : (if pkt.WritesCcsvcinfo then 2 + 7 * pkt.ccsvc.svc.length else 0) ≤ 107 := by
    split_ifs with hwrites
    · have hcount := (h.ccsvc hwrites).svcCount
      rw [(h.ccsvc hwrites).svc_length]
      omega
    · omega
  have htc : (if pkt.WritesTimeCode then 5 else 0) ≤ 5 := by split_ifs <;> omega
  unfold bodySize
  omega

lemma ofBytes_body (h : pkt.SectionsHold) : Bits.ofBytes pkt.body =
    Bits.ofFields (pkt.bodyFields (BitVec.ofNat 8 (pkt.bodySize + 1))) :=
  Bits.ofBytes_toBytes ⟨_, bodyFields_length h _⟩

lemma body_length (h : pkt.SectionsHold) : pkt.body.length = pkt.bodySize := by
  rw [body, Bits.toBytes_length, bodyFields_length h]
  omega

lemma wire_length (h : pkt.SectionsHold) : pkt.wire.length = pkt.bodySize + 1 := by
  rw [wire, List.length_append, body_length h]
  rfl

/-- Octets closed by the complement of their sum sum up to zero. -/
lemma wire_sum (pkt : KlvancPacketEia708b) : pkt.wire.foldl (· + ·) (0 : Byte) = 0 := by
  have hneg : ∀ b : Byte, b + (~~~b + 1) = 0 := by decide +kernel
  rw [wire, List.foldl_append, List.foldl_cons, List.foldl_nil, checksum]
  exact hneg _

end KlvancPacketEia708b

open KlvancPacketEia708b

section Encode

variable {pkt : KlvancPacketEia708b} {bs : KlbsContext}

/-- From the services on a packet is written as its fields. -/
lemma klbsWriteServices_eq (h : pkt.SectionsHold) :
    klbsWriteCdpFooter (if pkt.WritesCcsvcinfo then klbsWriteCcsvcinfo bs pkt.ccsvc else bs)
      pkt.footer =
        klbsWriteFields bs (pkt.servicesFields ++ [(pkt.footer.packetChecksum.toNat, 8)]) := by
  have hfooter : ∀ bs : KlbsContext, klbsWriteCdpFooter bs pkt.footer =
      klbsWriteFields bs (pkt.footerFields ++ [(pkt.footer.packetChecksum.toNat, 8)]) :=
    fun _ => rfl
  rw [hfooter, servicesFields]
  split_ifs with hwrites
  · rw [klbsWriteCcsvcinfo_eq (h.ccsvc hwrites), ← klbsWriteFields_append, ← List.append_assoc]
  · rfl

/-- A packet whose arrays hold what is counted is written as its fields, without a length. -/
lemma klbsWriteCdp_eq (h : pkt.SectionsHold) :
    klbsWriteCdp pkt bs = klbsWriteBufferComplete (klbsWriteFields bs
      (pkt.bodyFields 0 ++ [(pkt.footer.packetChecksum.toNat, 8)])) := by
  have hcaptions : ∀ bs : KlbsContext,
      klbsWriteFields (if pkt.WritesCcdata then klbsWriteCcdata bs pkt.ccdata else bs)
        (pkt.servicesFields ++ [(pkt.footer.packetChecksum.toNat, 8)]) =
          klbsWriteFields bs (pkt.captionsFields ++ [(pkt.footer.packetChecksum.toNat, 8)]) := by
    intro bs
    unfold captionsFields
    split_ifs with hwrites
    · rw [klbsWriteCcdata_eq (h.ccdata hwrites), ← klbsWriteFields_append, ← List.append_assoc]
    · rfl
  have htimeCode : ∀ bs : KlbsContext,
      klbsWriteFields (if pkt.WritesTimeCode then klbsWriteTimeCode bs pkt.tc else bs)
        (pkt.captionsFields ++ [(pkt.footer.packetChecksum.toNat, 8)]) =
          klbsWriteFields bs (pkt.timeCodeOnFields ++ [(pkt.footer.packetChecksum.toNat, 8)]) := by
    intro bs
    have hwritten : klbsWriteTimeCode bs pkt.tc = klbsWriteFields bs
      ((pkt.tc.timeCodeSectionId.toNat, 8) :: writtenTimeCodeFields pkt.tc) := rfl
    unfold timeCodeOnFields
    split_ifs
    · rw [hwritten, ← klbsWriteFields_append, ← List.append_assoc]
    · rfl
  have hheader : klbsWriteCdpHeader bs pkt.header =
    klbsWriteFields bs (cdpHeaderFields { pkt.header with cdpLength := 0 } 0x0f 0x01) := rfl
  unfold klbsWriteCdp
  dsimp only
  rw [klbsWriteServices_eq h, hcaptions, htimeCode, hheader, bodyFields]
  simp only [klbsWriteFields_append]

/-- Storing the length among the octets of a packet. -/
lemma toBytes_bodyFields_set (h : pkt.SectionsHold) (n : Byte) :
    (Bits.toBytes (Bits.ofFields (pkt.bodyFields 0))).set 2 n =
      Bits.toBytes (Bits.ofFields (pkt.bodyFields n)) := by
  have hsplit : ∀ m : Byte, ∃ post, Bits.ofFields (pkt.bodyFields m) =
      Bits.ofNat 16 pkt.header.cdpIdentifier.toNat ++ (Bits.ofNat 8 m.toNat ++ post) ∧
        post = (Bits.ofFields (pkt.bodyFields 0)).drop 24 := by
    intro m
    refine ⟨_, rfl, ?_⟩
    rfl
  obtain ⟨post, h₀, hpost⟩ := hsplit 0
  obtain ⟨post', hₙ, hpost'⟩ := hsplit n
  apply Bits.ofBytes_injective
  rw [Bits.ofBytes_toBytes ⟨_, bodyFields_length h n⟩, hₙ, hpost', ← hpost]
  exact Bits.ofBytes_set n ((Bits.ofBytes_toBytes ⟨_, bodyFields_length h 0⟩).trans h₀) (by simp)

/-- The octets written for a packet, in which the length is still missing. -/
lemma klbsWriteCdp_writes (h : pkt.SectionsHold) {cap : ℕ} {orig : List Byte}
    (hcap : cap ≤ orig.length) :
    (klbsWriteCdp pkt (klbsWriteSetBuffer orig cap)).WritesBytes cap orig
      (Bits.toBytes (Bits.ofFields (pkt.bodyFields 0)) ++ [pkt.footer.packetChecksum]) := by
  have hfields := (KlbsContext.Writes.setBuffer hcap).writeFields
    (pkt.bodyFields 0 ++ [(pkt.footer.packetChecksum.toNat, 8)])
  have hbits : [] ++ Bits.ofFields (pkt.bodyFields 0 ++ [(pkt.footer.packetChecksum.toNat, 8)]) =
      Bits.ofBytes
        (Bits.toBytes (Bits.ofFields (pkt.bodyFields 0)) ++ [pkt.footer.packetChecksum]) := by
    rw [List.nil_append, Bits.ofFields_append, Bits.ofBytes_append,
      Bits.ofBytes_toBytes ⟨_, bodyFields_length h 0⟩]
    rfl
  rw [hbits] at hfields
  have hwrites : KlbsContext.WritesBytes cap orig _ _ := hfields
  rw [klbsWriteCdp_eq h, hwrites.writeBufferComplete]
  exact hwrites

/-- A packet whose arrays hold what is counted is converted to its octets, without a fault. -/
theorem klvancConvertEIA708BToPacketBytes_eq (h : pkt.SectionsHold) :
    klvancConvertEIA708BToPacketBytes pkt =
      pure (0, pkt.wire ++ List.replicate (255 - pkt.wire.length) 0, pkt.wire.length) := by
  have hlt := bodySize_lt h
  have hlen := wire_length h
  have hbody := body_length h
  have hbuf : (List.replicate 255 (0 : Byte)).length = 255 := List.length_replicate
  have hwrites := klbsWriteCdp_writes h hbuf.ge
  unfold klvancConvertEIA708BToPacketBytes
  generalize klbsWriteCdp pkt (klbsWriteSetBuffer (List.replicate 255 0) 255) = bs at hwrites
  have hset := toBytes_bodyFields_set h (BitVec.ofNat 8 (pkt.bodySize + 1))
  have hraw : (Bits.toBytes (Bits.ofFields (pkt.bodyFields 0))).length = pkt.bodySize := by
    rw [Bits.toBytes_length, bodyFields_length h]
    omega
  generalize Bits.toBytes (Bits.ofFields (pkt.bodyFields 0)) = raw at hwrites hset hraw
  have hsize : (raw ++ [pkt.footer.packetChecksum]).length = pkt.bodySize + 1 := by simp [hraw]
  have hcount : klbsGetByteCount bs = pkt.bodySize + 1 := hwrites.byteCount.trans hsize
  have hfaults : bs.faults = [] := (hwrites.faults_eq_nil_iff hbuf).mpr (by omega)
  have hstored : bs.buf.set 2 (BitVec.ofNat 8 (pkt.bodySize + 1)) =
      pkt.body ++ (pkt.footer.packetChecksum :: List.replicate (255 - pkt.wire.length) 0) := by
    rw [hwrites.buf_eq (by omega), hsize, List.append_assoc,
      List.set_append_left _ _ (by rw [hraw, bodySize]; omega), hset, List.drop_replicate, hlen]
    rfl
  dsimp only
  rw [hcount, hstored, hfaults, Nat.add_sub_cancel, ← hbody, List.take_left,
    List.set_append_right _ _ le_rfl, Nat.sub_self, List.set_cons_zero, Nat.mod_eq_of_lt (by omega),
    hbody, ← hlen]
  simp only [wire, List.append_assoc]
  rfl

/-- `klvanc_convert_EIA_708B_to_words` makes the octets of a packet into VANC words. -/
lemma klvancConvertEIA708BToWords_eq (h : pkt.SectionsHold) :
    klvancConvertEIA708BToWords pkt = pure (0, klvancSdiCreatePayload 0x01 0x61 pkt.wire 10) := by
  unfold klvancConvertEIA708BToWords
  rw [klvancConvertEIA708BToPacketBytes_eq h, pure_bind]
  dsimp only
  rw [List.take_left, if_neg (not_not.mpr rfl)]

end Encode

end Libklvanc
