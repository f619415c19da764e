import Libklvanc.Bitstream.Writer
import Libklvanc.Core.SdiPayload
import Libklvanc.Services.Bitstream

/-!
# Encoding CEA-708 caption distribution packets

`klvanc_convert_EIA_708B_to_packetBytes` and `klvanc_convert_EIA_708B_to_words` of
`core-packet-eia_708b.c`. A section is written when its flag is set in the header and its id is the
one of CEA-708; the parser looks at the id alone. The length in the header and the checksum at the
end are filled in behind the last section.

The fresh buffer is taken to be zeroed; no octet is read from it before it is written.
-/

namespace Libklvanc

/-- Cell `i` of an array of `size` cells. The cells that are not on the list hold `unset`. -/
def cellAt {α : Type} (obj : MemObject) (size : ℕ) (unset : α) (cells : List α) (i : ℕ) :
    Checked Fault α :=
  if i < size then pure (cells.getD i unset) else Checked.fault (Fault.read obj i) unset

/-- `ccdata.cc[i]`. -/
def Eia708bCcdataSection.entry (s : Eia708bCcdataSection) (i : ℕ) :
    Checked Fault Eia708bCcdataEntry :=
  cellAt .ccEntries maxCcCount { ccValid := 0, ccType := 0, ccData := (0, 0) } s.cc i

/-- `ccsvc.svc[i]`. -/
def Eia708bCcsvcinfoSection.entry (s : Eia708bCcsvcinfoSection) (i : ℕ) :
    Checked Fault Eia708bCcsvcinfoEntry :=
  cellAt .svcEntries maxCcsvcCount
    { captionServiceNumber := 0, svcDataByte := [], language := [], digitalCc := 0, csn := 0,
      line21Field := 0, easyReader := 0, wideAspectRatio := 0 } s.svc i

section Sections

variable (bs : KlbsContext)

/-- The CDP header (Sec 11.2.2). The length is filled in later. -/
def klbsWriteCdpHeader (h : Eia708bCdpHeader) : KlbsContext :=
  klbsWriteFields bs
    [(h.cdpIdentifier.toNat, 16), (0x00, 8), (h.cdpFrameRate.toNat, 4), (0x0f, 4),
      (h.timeCodePresent.toNat, 1), (h.ccdataPresent.toNat, 1), (h.svcinfoPresent.toNat, 1),
      (h.svcInfoStart.toNat, 1), (h.svcInfoChange.toNat, 1), (h.svcInfoComplete.toNat, 1),
      (h.captionServiceActive.toNat, 1), (0x01, 1), (h.cdpHdrSequenceCntr.toNat, 16)]

/-- The time code section (Sec 11.2.3). -/
def klbsWriteTimeCode (t : Eia708bTimeCodeSection) : KlbsContext :=
  klbsWriteFields bs
    [(t.timeCodeSectionId.toNat, 8), (0x03, 2), (t.tc10hrs.toNat, 2), (t.tc1hrs.toNat, 4),
      (0x01, 1), (t.tc10min.toNat, 3), (t.tc1min.toNat, 4), (t.tcFieldFlag.toNat, 1),
      (t.tc10sec.toNat, 3), (t.tc1sec.toNat, 4), (0x01, 1), (t.tc10fr.toNat, 3), (t.tc1fr.toNat, 4)]

/-- The caption entries `i`, ..., `i + count - 1`. -/
def klbsWriteCcEntries (s : Eia708bCcdataSection) (i : ℕ) : ℕ → KlbsContext → KlbsContext
  | 0, bs => bs
  | count + 1, bs =>
    let e := s.entry i
    let bs := klbsWriteFields (bs.addFaults e.faults)
      [(0x1f, 5), (e.val.ccValid.toNat, 1), (e.val.ccType.toNat, 2), (e.val.ccData.1.toNat, 8),
        (e.val.ccData.2.toNat, 8)]
    klbsWriteCcEntries s (i + 1) count bs

/-- The caption data section (Sec 11.2.4). -/
def klbsWriteCcdata (s : Eia708bCcdataSection) : KlbsContext :=
  let bs := klbsWriteFields bs [(s.ccdataId.toNat, 8), (0x07, 3), (s.ccCount.toNat, 5)]
  klbsWriteCcEntries s 0 s.ccCount.toNat bs

/-- The service entries `i`, ..., `i + count - 1`. -/
def klbsWriteSvcEntries (s : Eia708bCcsvcinfoSection) (i : ℕ) : ℕ → KlbsContext → KlbsContext
  | 0, bs => bs
  | count + 1, bs =>
    let e := s.entry i
    let bs := klbsWriteFields (bs.addFaults e.faults)
      [(0x07, 3), (e.val.captionServiceNumber.toNat, 5)]
    let bs := klbsWriteFields bs
      ((List.range 6).map fun n => ((e.val.svcDataByte.getD n 0).toNat, 8))
    klbsWriteSvcEntries s (i + 1) count bs

/-- The service information section (Sec 11.2.5). -/
def klbsWriteCcsvcinfo (s : Eia708bCcsvcinfoSection) : KlbsContext :=
  let bs := klbsWriteFields bs
    [(s.ccsvcinfoId.toNat, 8), (0x01, 1), (s.svcInfoStart.toNat, 1), (s.svcInfoChange.toNat, 1),
      (s.svcInfoComplete.toNat, 1), (s.svcCount.toNat, 4)]
  klbsWriteSvcEntries s 0 s.svcCount.toNat bs

/-- The CDP footer (Sec 11.2.6). -/
def klbsWriteCdpFooter (f : Eia708bCdpFooter) : KlbsContext :=
  klbsWriteFields bs
    [(f.cdpFooterId.toNat, 8), (f.cdpFtrSequenceCntr.toNat, 16), (f.packetChecksum.toNat, 8)]

end Sections

namespace KlvancPacketEia708b

variable (pkt : KlvancPacketEia708b)

/-- The time code section is written. -/
def WritesTimeCode : Prop := pkt.header.timeCodePresent ≠ 0 ∧ pkt.tc.timeCodeSectionId = 0x71

/-- The caption data section is written. -/
def WritesCcdata : Prop := pkt.header.ccdataPresent ≠ 0 ∧ pkt.ccdata.ccdataId = 0x72

/-- The service information section is written. -/
def WritesCcsvcinfo : Prop := pkt.header.svcinfoPresent ≠ 0 ∧ pkt.ccsvc.ccsvcinfoId = 0x73

instance : Decidable pkt.WritesTimeCode := inferInstanceAs (Decidable (_ ∧ _))

instance : Decidable pkt.WritesCcdata := inferInstanceAs (Decidable (_ ∧ _))

instance : Decidable pkt.WritesCcsvcinfo := inferInstanceAs (Decidable (_ ∧ _))

end KlvancPacketEia708b

/-- What `klvanc_convert_EIA_708B_to_packetBytes` writes into its buffer. -/
def klbsWriteCdp (pkt : KlvancPacketEia708b) (bs : KlbsContext) : KlbsContext :=
  let bs := klbsWriteCdpHeader bs pkt.header
  let bs := if pkt.WritesTimeCode then klbsWriteTimeCode bs pkt.tc else bs
  let bs := if pkt.WritesCcdata then klbsWriteCcdata bs pkt.ccdata else bs
  let bs := if pkt.WritesCcsvcinfo then klbsWriteCcsvcinfo bs pkt.ccsvc else bs
  klbsWriteBufferComplete (klbsWriteCdpFooter bs pkt.footer)

/-- `klvanc_convert_EIA_708B_to_packetBytes`: the return value, the octets of the buffer and their
number. The length is stored in the third octet, and then the sum of all octets is made zero by the
last one. The accesses are inside the buffer unless the writer has left it. -/
def klvancConvertEIA708BToPacketBytes (pkt : KlvancPacketEia708b) :
    Checked Fault (ℤ × List Byte × ℕ) :=
  let bs := klbsWriteCdp pkt (klbsWriteSetBuffer (List.replicate 255 0) 255)
  let byteCount := klbsGetByteCount bs
  let bytes := bs.buf.set 2 (BitVec.ofNat 8 byteCount)
  let sum := (bytes.take (byteCount - 1)).foldl (· + ·) (0 : Byte)
  let bytes := bytes.set (byteCount - 1) (~~~sum + 1)
  ⟨(0, bytes, byteCount % 2 ^ 16), bs.faults⟩

/-- `klvanc_convert_EIA_708B_to_words`: the return value and the words, which stay unset when
`klvanc_sdi_create_payload` fails. -/
def klvancConvertEIA708BToWords (pkt : KlvancPacketEia708b) :
    Checked Fault (ℤ × Option (List Word)) := do
  let (ret, buf, byteCount) ← klvancConvertEIA708BToPacketBytes pkt
  if ret ≠ 0 then pure (ret, none)
  else pure (0, klvancSdiCreatePayload 0x01 0x61 (buf.take byteCount) 10)

end Libklvanc
