import Libklvanc.Bitstream.Decoder
import Libklvanc.Core.Packet

/-!
# Services read through the bitstream reader

The decoders of CEA-708 caption distribution packets (`core-packet-eia_708b.c`) and of HDR metadata
(`core-packet-smpte_2108_1.c`). Both copy the payload into an array of 256 octets and clock their
fields out of it with `klbs_read_bits`. A decoder runs on a bitstream context, which keeps the
faults met, also those of writes to the fixed arrays of the decoded packet.
-/

namespace Libklvanc

namespace KlbsDecoder

/-- Reject the packet with `-ENOMEM` when fewer than `count` octets are left. -/
def needBytes (count : ℕ) : KlbsDecoder Unit := needOctets count (-enomem)

/-- Record a write to cell `i` of an array of `size` cells. -/
def storeAt (obj : MemObject) (size i : ℕ) : KlbsDecoder Unit :=
  if i < size then pure ()
  else modify fun ctx => { ctx with faults := ctx.faults ++ [Fault.write obj i] }

/-- Run a decoder on the payload of a header. The buffer is an array of 256 octets. -/
def runOnPayload {α : Type} (decode : KlbsDecoder α) (hdr : KlvancPacketHeader) :
    Checked Fault (Except ℤ α) :=
  let buf := (List.range 256).map hdr.payloadByte
  let (result, ctx) := decode (klbsReadSetBuffer buf hdr.payloadLengthWords)
  ⟨result, ctx.faults⟩

/-! ### Storing -/

variable {obj : MemObject} {size i : ℕ}

/-- Storing inside the array meets no fault. -/
lemma storeAt_of_lt (h : i < size) : storeAt obj size i = pure () := if_pos h

/-- Storing outside the array meets one. -/
lemma storeAt_run_of_le (h : size ≤ i) (ctx : KlbsContext) :
    (storeAt obj size i).run.run ctx =
      (.ok (), { ctx with faults := ctx.faults ++ [Fault.write obj i] }) := by
  rw [storeAt, if_neg (not_lt.mpr h)]
  rfl

lemma storeAt_faulty (h : size ≤ i) : (storeAt obj size i).Faulty := by
  intro ctx
  rw [storeAt_run_of_le h]
  simp

lemma storeAt_progresses (obj : MemObject) (size i : ℕ) : (storeAt obj size i).Progresses := by
  intro ctx
  by_cases h : i < size
  · rw [storeAt_of_lt h]
    exact .refl ctx
  · rw [storeAt_run_of_le (not_lt.mp h)]
    exact .addFaults ctx _

end KlbsDecoder

open KlbsDecoder

/-! ### The reader on a payload -/

/-- The reader on the payload of a header. -/
def payloadReader (hdr : KlvancPacketHeader) : KlbsContext :=
  klbsReadSetBuffer ((List.range 256).map hdr.payloadByte) hdr.payloadLengthWords

/-- The octets of a payload stand at the beginning of the array. -/
lemma payloadByte_take {hdr : KlvancPacketHeader} (h : hdr.payload.length ≤ 256) :
    ((List.range 256).map hdr.payloadByte).take hdr.payloadLengthWords =
      hdr.payload.map lowByte := by
  apply List.ext_getElem
  · simp [KlvancPacketHeader.payloadLengthWords, h]
  · intro i h₁ h₂
    rw [List.length_map] at h₂
    simp [KlvancPacketHeader.payloadByte, KlvancPacketHeader.payloadWord, List.getD, h₂]

/-- The reader has the octets of the payload to consume. -/
lemma payloadReader_reads {hdr : KlvancPacketHeader} (h : hdr.payload.length ≤ 255) :
    (payloadReader hdr).Reads (Bits.ofBytes (hdr.payload.map lowByte)) := by
  rw [← payloadByte_take (by omega)]
  refine KlbsContext.Reads.setBuffer_take ?_ ?_
  · rw [List.length_map, List.length_range, KlvancPacketHeader.payloadLengthWords]
    omega
  · rw [KlvancPacketHeader.payloadLengthWords]
    omega

/-! ### CEA-708 caption distribution packets -/

/-- `struct klvanc_packet_eia_708b_cdp_header`. -/
structure Eia708bCdpHeader where
  cdpIdentifier : Word
  cdpLength : Byte
  cdpFrameRate : Byte
  timeCodePresent : Byte
  ccdataPresent : Byte
  svcinfoPresent : Byte
  svcInfoStart : Byte
  svcInfoChange : Byte
  svcInfoComplete : Byte
  captionServiceActive : Byte
  cdpHdrSequenceCntr : Word
  deriving DecidableEq

/-- `struct klvanc_packet_eia_708b_time_code_section`. -/
structure Eia708bTimeCodeSection where
  timeCodeSectionId : Byte := 0
  tc10hrs : Byte := 0
  tc1hrs : Byte := 0
  tc10min : Byte := 0
  tc1min : Byte := 0
  tcFieldFlag : Byte := 0
  tc10sec : Byte := 0
  tc1sec : Byte := 0
  dropFrameFlag : Byte := 0
  tc10fr : Byte := 0
  tc1fr : Byte := 0
  deriving DecidableEq

/-- `struct klvanc_packet_eia_708b_ccdata_entry`. -/
structure Eia708bCcdataEntry where
  ccValid : Byte
  ccType : Byte
  ccData : Byte × Byte
  deriving DecidableEq

/-- `KLVANC_MAX_CC_COUNT`. -/
def maxCcCount : ℕ := 30

/-- `struct klvanc_packet_eia_708b_ccdata_section`; `cc` holds the entries written. -/
structure Eia708bCcdataSection where
  ccdataId : Byte := 0
  ccCount : Byte := 0
  cc : List Eia708bCcdataEntry := []
  deriving DecidableEq

/-- `struct klvanc_packet_eia_708b_ccsvcinfo_entry`; `language` is the first three raw bytes. -/
structure Eia708bCcsvcinfoEntry where
  captionServiceNumber : Byte
  svcDataByte : List Byte
  language : List Byte
  digitalCc : Byte
  csn : Byte
  line21Field : Byte
  easyReader : Byte
  wideAspectRatio : Byte
  deriving DecidableEq

/-- `KLVANC_MAX_CCSVC_COUNT`. -/
def maxCcsvcCount : ℕ := 16

/-- `struct klvanc_packet_eia_708b_ccsvcinfo_section`; `svc` holds the entries written. -/
structure Eia708bCcsvcinfoSection where
  ccsvcinfoId : Byte := 0
  svcInfoStart : Byte := 0
  svcInfoChange : Byte := 0
  svcInfoComplete : Byte := 0
  svcCount : Byte := 0
  svc : List Eia708bCcsvcinfoEntry := []
  deriving DecidableEq

/-- `struct klvanc_packet_eia_708b_cdp_footer`. -/
structure Eia708bCdpFooter where
  cdpFooterId : Byte := 0
  cdpFtrSequenceCntr : Word := 0
  packetChecksum : Byte := 0
  deriving DecidableEq

/-- `struct klvanc_packet_eia_708b_s`, without the header. -/
structure KlvancPacketEia708b where
  payload : List Byte
  payloadLengthBytes : ℕ
  checksumValid : Bool
  header : Eia708bCdpHeader
  tc : Eia708bTimeCodeSection
  ccdata : Eia708bCcdataSection
  ccsvc : Eia708bCcsvcinfoSection
  footer : Eia708bCdpFooter
  deriving DecidableEq

/-- The CDP header (Sec 11.2.2). -/
def parseCdpHeader : KlbsDecoder Eia708bCdpHeader := do
  needBytes 7
  let cdpIdentifier ← readBits 16 16
  let cdpLength ← readBits 8 8
  let cdpFrameRate ← readBits 8 4
  skipBits 4
  let timeCodePresent ← readBits 8 1
  let ccdataPresent ← readBits 8 1
  let svcinfoPresent ← readBits 8 1
  let svcInfoStart ← readBits 8 1
  let svcInfoChange ← readBits 8 1
  let svcInfoComplete ← readBits 8 1
  let captionServiceActive ← readBits 8 1
  skipBits 1
  let cdpHdrSequenceCntr ← readBits 16 16
  pure
    { cdpIdentifier, cdpLength, cdpFrameRate, timeCodePresent, ccdataPresent, svcinfoPresent,
      svcInfoStart, svcInfoChange, svcInfoComplete, captionServiceActive, cdpHdrSequenceCntr }

/-- The time code section (Sec 11.2.3) and the next section's id. -/
def parseTimeCodeSection (sectionId : Byte) : KlbsDecoder (Eia708bTimeCodeSection × Byte) := do
  needBytes 5
  skipBits 2
  let tc10hrs ← readBits 8 2
  let tc1hrs ← readBits 8 4
  skipBits 1
  let tc10min ← readBits 8 3
  let tc1min ← readBits 8 4
  let tcFieldFlag ← readBits 8 1
  let tc10sec ← readBits 8 3
  let tc1sec ← readBits 8 4
  let dropFrameFlag ← readBits 8 1
  skipBits 1
  let tc10fr ← readBits 8 2
  let tc1fr ← readBits 8 4
  let nextSectionId ← readBits 8 8
  pure
    ({ timeCodeSectionId := sectionId, tc10hrs, tc1hrs, tc10min, tc1min, tcFieldFlag, tc10sec,
       tc1sec, dropFrameFlag, tc10fr, tc1fr }, nextSectionId)

/-- The caption entries `i`, ..., `i + count - 1`. -/
def parseCcEntries (i : ℕ) : ℕ → KlbsDecoder (List Eia708bCcdataEntry)
  | 0 => pure []
  | count + 1 => do
    skipBits 5
    storeAt .ccEntries maxCcCount i
    let ccValid ← readBits 8 1
    let ccType ← readBits 8 2
    let ccData₀ ← readBits 8 8
    let ccData₁ ← readBits 8 8
    let rest ← parseCcEntries (i + 1) count
    pure ({ ccValid, ccType, ccData := (ccData₀, ccData₁) } :: rest)

/-- The caption data section (Sec 11.2.4) and the next section's id. -/
def parseCcdataSection (sectionId : Byte) : KlbsDecoder (Eia708bCcdataSection × Byte) := do
  needBytes 2
  skipBits 3
  let ccCount ← readBits 8 5
  needBytes (ccCount.toNat * 3)
  let cc ← parseCcEntries 0 ccCount.toNat
  let nextSectionId ← readBits 8 8
  pure ({ ccdataId := sectionId, ccCount, cc }, nextSectionId)

/-- The six raw bytes of one service entry, and the fields decoded from them (ATSC A/65). -/
def decodeSvcEntry (captionServiceNumber : Byte) (bytes : List Byte) : Eia708bCcsvcinfoEntry :=
  let b₃ := bytes.getD 3 0
  let b₄ := bytes.getD 4 0
  { captionServiceNumber
    svcDataByte := bytes
    language := bytes.take 3
    digitalCc := if b₃.getLsbD 7 then 1 else 0
    csn := if b₃.getLsbD 7 then b₃ &&& 0x3f else 0
    line21Field := if b₃.getLsbD 7 then 0 else b₃ &&& 0x01
    easyReader := if b₄.getLsbD 7 then 1 else 0
    wideAspectRatio := if b₄.getLsbD 6 then 1 else 0 }

/-- The service entries `i`, ..., `i + count - 1`. -/
def parseSvcEntries (i : ℕ) : ℕ → KlbsDecoder (List Eia708bCcsvcinfoEntry)
  | 0 => pure []
  | count + 1 => do
    skipBits 3
    storeAt .svcEntries maxCcsvcCount i
    let captionServiceNumber ← readBits 8 5
    let bytes ← (List.replicate 6 8).mapM fun w => readBits 8 w
    let rest ← parseSvcEntries (i + 1) count
    pure (decodeSvcEntry captionServiceNumber bytes :: rest)

/-- The service information section (Sec 11.2.5) and the next section's id. -/
def parseCcsvcinfoSection (sectionId : Byte) : KlbsDecoder (Eia708bCcsvcinfoSection × Byte) := do
  needBytes 3
  skipBits 1
  let svcInfoStart ← readBits 8 1
  let svcInfoChange ← readBits 8 1
  let svcInfoComplete ← readBits 8 1
  let svcCount ← readBits 8 4
  needBytes (svcCount.toNat * 7)
  let svc ← parseSvcEntries 0 svcCount.toNat
  let nextSectionId ← readBits 8 8
  pure
    ({ ccsvcinfoId := sectionId, svcInfoStart, svcInfoChange, svcInfoComplete, svcCount, svc },
      nextSectionId)

/-- The CDP footer (Sec 11.2.6). -/
def parseCdpFooter (sectionId : Byte) : KlbsDecoder Eia708bCdpFooter := do
  needBytes 3
  let cdpFtrSequenceCntr ← readBits 16 16
  let packetChecksum ← readBits 8 8
  pure { cdpFooterId := sectionId, cdpFtrSequenceCntr, packetChecksum }

/-- The sections of a caption distribution packet: each is read if its id comes next. -/
def parseCdp (payload : List Byte) (payloadLengthBytes : ℕ) :
    KlbsDecoder KlvancPacketEia708b := do
  let header ← parseCdpHeader
  needBytes 1
  let nextSectionId ← readBits 8 8
  let (tc, nextSectionId) ←
    if nextSectionId = 0x71 then parseTimeCodeSection nextSectionId else pure ({}, nextSectionId)
  let (ccdata, nextSectionId) ←
    if nextSectionId = 0x72 then parseCcdataSection nextSectionId else pure ({}, nextSectionId)
  let (ccsvc, nextSectionId) ←
    if nextSectionId = 0x73 then parseCcsvcinfoSection nextSectionId else pure ({}, nextSectionId)
  let footer ← if nextSectionId = 0x74 then parseCdpFooter nextSectionId else pure {}
  let sum := (payload.take payloadLengthBytes).foldl (· + ·) (0 : Byte)
  pure
    { payload, payloadLengthBytes, checksumValid := sum == 0, header, tc, ccdata, ccsvc, footer }

/-- `parse_EIA_708B`. -/
def parseEIA708B (hdr : KlvancPacketHeader) : Checked Fault (Except ℤ KlvancPacketEia708b) :=
  (parseCdp ((List.range 256).map hdr.payloadByte) hdr.payloadLengthWords).runOnPayload hdr

/-! ### HDR metadata -/

/-- `MAX_S2108_1_FRAMES`. -/
def maxS2108_1Frames : ℕ := 10

/-- `struct klvanc_packet_smpte_2108_1_static1`. -/
structure Smpte2108_1Static1 where
  displayPrimaries : List (Word × Word)
  whitePointX : Word
  whitePointY : Word
  maxDisplayMasteringLuminance : BitVec 32
  minDisplayMasteringLuminance : BitVec 32
  deriving DecidableEq

/-- `struct klvanc_packet_smpte_2108_1_static2`. -/
structure Smpte2108_1Static2 where
  maxContentLightLevel : Word
  maxPicAverageLightLevel : Word
  deriving DecidableEq

/-- The union of `struct klvanc_s2108_1_frame`, by the member that was written. -/
inductive Smpte2108_1Body
  | static1 (s : Smpte2108_1Static1)
  | static2 (s : Smpte2108_1Static2)
  | other
  deriving DecidableEq

/-- `struct klvanc_s2108_1_frame`. -/
structure KlvancS2108_1Frame where
  frameType : Byte
  frameLength : Byte
  body : Smpte2108_1Body
  deriving DecidableEq

/-- `struct klvanc_packet_smpte_2108_1_s`, without the header: the frames counted by
`num_frames`. -/
structure KlvancPacketSmpte2108_1 where
  payload : List Byte
  payloadLengthBytes : ℕ
  frames : List KlvancS2108_1Frame
  deriving DecidableEq

/-- The body of one frame. The bit count of a frame of another type is a `uint32_t`. -/
def parseS2108_1Body (frameType frameLength : Byte) : KlbsDecoder Smpte2108_1Body := do
  if frameType = 0x00 then
    let displayPrimaries ← (List.replicate 3 16).mapM fun w => do
      let x ← readBits 16 w
      let y ← readBits 16 w
      pure (x, y)
    let whitePointX ← readBits 16 16
    let whitePointY ← readBits 16 16
    let maxDisplayMasteringLuminance ← readBits 32 32
    let minDisplayMasteringLuminance ← readBits 32 32
    pure (.static1
      { displayPrimaries, whitePointX, whitePointY, maxDisplayMasteringLuminance,
        minDisplayMasteringLuminance })
  else if frameType = 0x01 then
    let maxContentLightLevel ← readBits 16 16
    let maxPicAverageLightLevel ← readBits 16 16
    pure (.static2 { maxContentLightLevel, maxPicAverageLightLevel })
  else
    skipBits (8 * (frameLength.toNat + 2 ^ 32 - 2) % 2 ^ 32)
    pure .other

/-- The loop of `parse_SMPTE_2108_1` from frame `numFrames` on. Every round consumes four octets or
more, and a round entered behind the end of the buffer fails an assertion, so that `fuel` bounds the
rounds of every run without a fault. -/
def parseS2108_1Frames (numFrames : ℕ) : ℕ → KlbsDecoder (List KlvancS2108_1Frame)
  | 0 => pure []
  | fuel + 1 => do
    let free ← byteCountFree
    if free < 2 then
      pure []
    else
      storeAt .frames maxS2108_1Frames numFrames
      let frameType ← readBits 8 8
      let frameLength ← readBits 8 8
      let free ← byteCountFree
      if free < frameLength.toNat then
        pure []
      else
        skipBits 16
        let body ← parseS2108_1Body frameType frameLength
        let rest ← parseS2108_1Frames (numFrames + 1) fuel
        pure ({ frameType, frameLength, body } :: rest)

/-- `parse_SMPTE_2108_1`. -/
def parseSMPTE2108_1 (hdr : KlvancPacketHeader) :
    Checked Fault (Except ℤ KlvancPacketSmpte2108_1) :=
  let decode : KlbsDecoder KlvancPacketSmpte2108_1 := do
    let frames ← parseS2108_1Frames 0 (hdr.payloadLengthWords + 2)
    pure
      { payload := hdr.payload.map lowByte
        payloadLengthBytes := hdr.payloadLengthWords
        frames }
  decode.runOnPayload hdr

end Libklvanc
