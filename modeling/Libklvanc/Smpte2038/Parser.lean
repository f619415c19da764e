import Libklvanc.Bitstream.Decoder

/-!
# Parsing SMPTE 2038 packets

`klvanc_smpte2038_parse_pes_packet` of `smpte2038.c`: a PES header with a presentation time stamp is
followed by lines of ancillary data, bit fields of 10 bits and others that add up to any number of
bits. Each line ends with stuffing bits up to the next octet, and the parser also skips stuffing
that other multiplexers put between octet-aligned lines. `klvanc_smpte2038_convert_line_to_words`
makes the words of an ancillary data packet from a line.
-/

namespace Libklvanc.Smpte2038

open KlbsDecoder

/-- `struct klvanc_smpte2038_anc_data_line_s`. The words carry parity bits, those of the identifiers
and of the data count too. -/
structure KlvancSmpte2038AncDataLine where
  reserved000000 : Byte
  cNotYChannelFlag : Byte
  lineNumber : Word
  horizontalOffset : Word
  did : Word
  sdid : Word
  dataCount : Word
  userDataWords : List Word
  checksumWord : Word
  deriving DecidableEq

/-- `struct klvanc_smpte2038_anc_data_packet_s`; `lineCount` is the number of `lines`. The fields
`reserved_10` and `reserved_0010` are never set. -/
structure KlvancSmpte2038AncDataPacket where
  packetStartCodePrefix : BitVec 32 := 0
  streamId : Byte := 0
  pesPacketLength : Word := 0
  pesScramblingControl : Byte := 0
  pesPriority : Byte := 0
  dataAlignmentIndicator : Byte := 0
  copyright : Byte := 0
  originalOrCopy : Byte := 0
  ptsDtsFlags : Byte := 0
  escrFlag : Byte := 0
  esRateFlag : Byte := 0
  dsmTrickModeFlag : Byte := 0
  additionalCopyInfoFlag : Byte := 0
  pesCrcFlag : Byte := 0
  pesExtensionFlag : Byte := 0
  pesHeaderDataLength : Byte := 0
  pts : BitVec 64 := 0
  lines : List KlvancSmpte2038AncDataLine := []
  deriving DecidableEq

/-- `VANC8`. -/
def vanc8 (n : Word) : ℕ := (n &&& 0xff).toNat

/-- `VALIDATE`: give up unless the field has the value it must have. -/
def validate {w : ℕ} (field val : BitVec w) : KlbsDecoder Unit :=
  if field = val then pure () else throw (-1)

/-! ### Lines -/

/-- The loop over the user data words. -/
def readUserDataWords : ℕ → KlbsDecoder (List Word)
  | 0 => pure []
  | count + 1 => do
    let w ← readBits 16 10
    let ws ← readUserDataWords count
    pure (w :: ws)

/-- The fields of a line from the line number to the data count. -/
def readAncDataHeader (reserved000000 cNotYChannelFlag : Byte) :
    KlbsDecoder KlvancSmpte2038AncDataLine := do
  let lineNumber ← readBits 16 11
  let horizontalOffset ← readBits 16 12
  let did ← readBits 16 10
  let sdid ← readBits 16 10
  let dataCount ← readBits 16 10
  pure
    { reserved000000, cNotYChannelFlag, lineNumber, horizontalOffset, did, sdid, dataCount,
      userDataWords := [], checksumWord := 0 }

/-- The rest of a line. -/
def readAncDataWords (l : KlvancSmpte2038AncDataLine) : KlbsDecoder KlvancSmpte2038AncDataLine := do
  let userDataWords ← readUserDataWords (vanc8 l.dataCount)
  let checksumWord ← readBits 16 10
  pure { l with userDataWords, checksumWord }

/-- One round of the loop of `smpte2038_parse_pes_payload_int`, up to the checksum word. The words
are not read unless as many octets are left as they fill, rounded down. -/
def parseAncDataLine : KlbsDecoder KlvancSmpte2038AncDataLine := do
  let reserved000000 ← readBits 8 6
  validate reserved000000 0
  let cNotYChannelFlag ← readBits 8 1
  validate cNotYChannelFlag 0
  let l ← readAncDataHeader reserved000000 cNotYChannelFlag
  needOctets ((vanc8 l.dataCount + 1) * 10 / 8) (-1)
  readAncDataWords l

/-- The value given to `rem`, the difference of two `uint32_t` as an `int`. -/
def byteCountRem (bs : KlbsContext) : ℤ := (BitVec.ofNat 32 (klbsGetByteCountFree bs)).toInt

/-- The inner loop of `smpte2038_parse_pes_payload_int`: discard stuffing bits as long as ones
follow. `rem` lags one bit behind the reader. -/
def skipStuffing : ℕ → ℤ → KlbsContext → ℤ × KlbsContext
  | 0, rem, bs => (rem, bs)
  | fuel + 1, rem, bs =>
    if rem ≠ 0 then
      let (bit, bs) := klbsPeekBits bs 1
      if bit = 1 then skipStuffing fuel (byteCountRem bs) (klbsReadBit bs).2 else (rem, bs)
    else (rem, bs)

/-- What `smpte2038_parse_pes_payload_int` does behind a line: the new `rem` and the context. -/
def alignToLine (fuel : ℕ) (bs : KlbsContext) : ℤ × KlbsContext :=
  let byteAligned := bs.regUsed = 0
  let bs := klbsReadByteStuff bs
  let rem := byteCountRem bs
  if byteAligned ∧ rem ≠ 0 then skipStuffing fuel rem bs else (rem, bs)

/-- The loop of `smpte2038_parse_pes_payload_int`, with the lines `lines` parsed so far. A round of
this loop or of the inner one consumes at least one bit, so that `fuel` need not exceed the number
of bits. -/
def parsePesPayloadLoop : ℕ → List KlvancSmpte2038AncDataLine → ℤ → KlbsContext →
    (ℤ × List KlvancSmpte2038AncDataLine) × KlbsContext
  | 0, lines, _, bs => ((0, lines), bs)
  | fuel + 1, lines, rem, bs =>
    if 4 < rem then
      match parseAncDataLine.run.run bs with
      | (.error ret, bs) => ((ret, lines), bs)
      | (.ok line, bs) =>
        let (rem, bs) := alignToLine fuel bs
        parsePesPayloadLoop fuel (lines ++ [line]) rem bs
    else ((0, lines), bs)

/-- `smpte2038_parse_pes_payload_int`. -/
def parsePesPayloadInt (bs : KlbsContext) :
    (ℤ × List KlvancSmpte2038AncDataLine) × KlbsContext :=
  parsePesPayloadLoop (8 * klbsGetBufferSize bs) [] (byteCountRem bs) bs

/-- `klvanc_smpte2038_parse_pes_payload`. -/
def klvancSmpte2038ParsePesPayload (payload : List Byte) (byteCount : ℕ) :
    Checked Fault (ℤ × KlvancSmpte2038AncDataPacket) :=
  let ((ret, lines), bs) := parsePesPayloadInt (klbsReadSetBuffer payload byteCount)
  ⟨(ret, { lines }), bs.faults⟩

/-! ### Packets -/

/-- The PES packet length and the scrambling control. -/
def readPesPacketLength (h : KlvancSmpte2038AncDataPacket) :
    KlbsDecoder KlvancSmpte2038AncDataPacket := do
  let pesPacketLength ← readBits 16 16
  skipBits 2
  let pesScramblingControl ← readBits 8 2
  pure { h with pesPacketLength, pesScramblingControl }

/-- The flags of the header. -/
def readPesFlags (h : KlvancSmpte2038AncDataPacket) : KlbsDecoder KlvancSmpte2038AncDataPacket := do
  let pesPriority ← readBits 8 1
  let dataAlignmentIndicator ← readBits 8 1
  let copyright ← readBits 8 1
  let originalOrCopy ← readBits 8 1
  let ptsDtsFlags ← readBits 8 2
  let escrFlag ← readBits 8 1
  let esRateFlag ← readBits 8 1
  let dsmTrickModeFlag ← readBits 8 1
  let additionalCopyInfoFlag ← readBits 8 1
  let pesCrcFlag ← readBits 8 1
  let pesExtensionFlag ← readBits 8 1
  pure
    { h with
      pesPriority, dataAlignmentIndicator, copyright, originalOrCopy, ptsDtsFlags, escrFlag,
      esRateFlag, dsmTrickModeFlag, additionalCopyInfoFlag, pesCrcFlag, pesExtensionFlag }

/-- The flags that must have one value, all compared behind the last one of them. -/
def validatePesFlags (h : KlvancSmpte2038AncDataPacket) : KlbsDecoder Unit := do
  validate h.ptsDtsFlags 2
  validate h.escrFlag 0
  validate h.esRateFlag 0
  validate h.dsmTrickModeFlag 0
  validate h.additionalCopyInfoFlag 0
  validate h.pesCrcFlag 0
  validate h.pesExtensionFlag 0

/-- The header data length and the four fixed bits behind it. -/
def readPesHeaderDataLength (h : KlvancSmpte2038AncDataPacket) :
    KlbsDecoder KlvancSmpte2038AncDataPacket := do
  let pesHeaderDataLength ← readBits 8 8
  skipBits 4
  pure { h with pesHeaderDataLength }

/-- The presentation time stamp. -/
def readPts (h : KlvancSmpte2038AncDataPacket) : KlbsDecoder KlvancSmpte2038AncDataPacket := do
  let a ← readBits 64 3
  skipBits 1
  let b ← readBits 64 15
  skipBits 1
  let c ← readBits 64 15
  skipBits 1
  pure { h with pts := a <<< 30 ||| b <<< 15 ||| c }

/-- The header read by `klvanc_smpte2038_parse_pes_packet`. -/
def parsePesHeader : KlbsDecoder KlvancSmpte2038AncDataPacket := do
  let packetStartCodePrefix ← readBits 32 24
  validate packetStartCodePrefix 1
  let streamId ← readBits 8 8
  validate streamId 0xBD
  let h ← readPesPacketLength { packetStartCodePrefix, streamId }
  validate h.pesScramblingControl 0
  let h ← readPesFlags h
  validatePesFlags h
  let h ← readPesHeaderDataLength h
  validate h.pesHeaderDataLength 5
  readPts h

/-- `klvanc_smpte2038_parse_pes_packet`: the return value, and the packet unless a field of the
header is invalid. -/
def klvancSmpte2038ParsePesPacket (sectionBytes : List Byte) (byteCount : ℕ) :
    Checked Fault (ℤ × Option KlvancSmpte2038AncDataPacket) :=
  match parsePesHeader.run.run (klbsReadSetBuffer sectionBytes byteCount) with
  | (.error ret, bs) => ⟨(ret, none), bs.faults⟩
  | (.ok h, bs) =>
    let ((ret, lines), bs) := parsePesPayloadInt bs
    ⟨(ret, some { h with lines }), bs.faults⟩

/-! ### Words -/

/-- `add_parity` of `smpte2038.c`: add the parity bits if they are absent. -/
def addParity (val : Word) : Word :=
  if val &&& 0x300 ≠ 0 then val
  else if builtinParity val then val ||| 0x100 else val ||| 0x200

/-- `klvanc_smpte2038_convert_line_to_words`: the words put out. Parity bits that are already
present are passed through. -/
def klvancSmpte2038ConvertLineToWords (l : KlvancSmpte2038AncDataLine) : List Word :=
  [0, 0x3ff, 0x3ff, addParity l.did, addParity l.sdid, addParity l.dataCount] ++
    l.userDataWords.take (vanc8 l.dataCount) ++ [l.checksumWord]

end Libklvanc.Smpte2038
