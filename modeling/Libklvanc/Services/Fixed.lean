import Libklvanc.Core.Packet

/-!
# Services of fixed layout

The decoders of active format description (`core-packet-afd.c`), EIA-608 captions
(`core-packet-eia_608.c`), subtitling description packets (`core-packet-sdp.c`), the 64-bit counter
(`core-packet-kl_u64le_counter.c`) and ancillary time code (`core-packet-smpte_12_2.c`): each takes
its fields from constant positions of the payload. A decoder returns what the packet handed to the
service's callback holds next to the header, or the error code of a rejected packet.
-/

namespace Libklvanc

/-- The 16-bit value of the octets at `i` and `i + 1` of the payload. -/
def KlvancPacketHeader.payloadBe16 (hdr : KlvancPacketHeader) (i : ℕ) : Word :=
  be16 (hdr.payloadByte i) (hdr.payloadByte (i + 1))

/-! ### Active format description -/

/-- `enum klvanc_payload_aspect_ratio_e`. -/
inductive AspectRatio
  | undefined
  | aspect4x3
  | aspect16x9
  deriving DecidableEq, Repr

/-- `BARS_LEFTRIGHT`. -/
def barsLeftRight : BitVec 32 := 0x03

/-- `BARS_TOPBOTTOM`. -/
def barsTopBottom : BitVec 32 := 0x0c

/-- `struct klvanc_packet_afd_s`, without the header. The value and the flags are stored in
enumerations that do not name all of the numbers that occur. -/
structure KlvancPacketAfd where
  aspectRatio : AspectRatio
  afd : BitVec 32
  barDataFlags : BitVec 32
  top : Word := 0
  bottom : Word := 0
  left : Word := 0
  right : Word := 0
  deriving DecidableEq

/-- `parse_AFD`. -/
def parseAFD (hdr : KlvancPacketHeader) : Except ℤ KlvancPacketAfd :=
  let pkt : KlvancPacketAfd :=
    { aspectRatio := if hdr.payloadByte 0 &&& 0x04 ≠ 0 then .aspect16x9 else .aspect4x3
      afd := (hdr.payloadByte 0 >>> 3 &&& 0x0f).setWidth 32
      barDataFlags := (hdr.payloadByte 3 >>> 4).setWidth 32 }
  if pkt.barDataFlags = barsTopBottom then
    .ok { pkt with top := hdr.payloadBe16 4, bottom := hdr.payloadBe16 6 }
  else if pkt.barDataFlags = barsLeftRight then
    .ok { pkt with left := hdr.payloadBe16 4, right := hdr.payloadBe16 6 }
  else .ok pkt

/-! ### EIA-608 captions -/

/-- `struct klvanc_packet_eia_608_s`, without the header. -/
structure KlvancPacketEia608 where
  payload : Byte × Byte × Byte
  field : BitVec 32
  lineOffset : BitVec 32
  ccData1 : Byte
  ccData2 : Byte
  deriving DecidableEq

/-- `parse_EIA_608`. -/
def parseEIA608 (hdr : KlvancPacketHeader) : Except ℤ KlvancPacketEia608 :=
  .ok
    { payload := (hdr.payloadByte 0, hdr.payloadByte 1, hdr.payloadByte 2)
      field := if hdr.payloadByte 0 &&& 0x80 ≠ 0 then 0 else 1
      lineOffset := (hdr.payloadByte 0 &&& 0x1f).setWidth 32
      ccData1 := hdr.payloadByte 1
      ccData2 := hdr.payloadByte 2 }

/-! ### Subtitling description packets -/

/-- `struct klvanc_sdp_desc_s`. -/
structure KlvancSdpDesc where
  line : Byte := 0
  field : Byte := 0
  data : List Byte := List.replicate 45 0
  deriving DecidableEq

/-- `struct klvanc_packet_sdp_s`, without the header. -/
structure KlvancPacketSdp where
  identifier : Word
  formatCode : Byte
  descriptors : List KlvancSdpDesc
  sequenceCounter : Word
  deriving DecidableEq

/-- The loop of `parse_SDP` over the descriptors `i`, ..., `i + count - 1`; `payloadBIndex` counts
the teletext packets found so far. -/
def parseSDPDescriptors (hdr : KlvancPacketHeader) (payloadBIndex : ℕ) :
    ℕ → ℕ → List KlvancSdpDesc × ℕ
  | _, 0 => ([], payloadBIndex)
  | i, count + 1 =>
    let w := hdr.payloadByte (4 + i)
    let desc : KlvancSdpDesc := { line := w &&& 0x1f, field := w >>> 7 }
    if w ≠ 0 then
      let data := (List.range 45).map fun j => hdr.payloadByte (9 + 45 * payloadBIndex + j)
      let (rest, last) := parseSDPDescriptors hdr (payloadBIndex + 1) (i + 1) count
      ({ desc with data := data } :: rest, last)
    else
      let (rest, last) := parseSDPDescriptors hdr payloadBIndex (i + 1) count
      (desc :: rest, last)

/-- `parse_SDP`. The number of descriptors is `length - 8` in `int`, at least 0 and at most 5. -/
def parseSDP (hdr : KlvancPacketHeader) : Except ℤ KlvancPacketSdp :=
  if hdr.payloadByte 0 ≠ 0x51 ∨ hdr.payloadByte 1 ≠ 0x15 then .error (-einval)
  else
    let count := min ((hdr.payloadByte 2).toNat - 8) 5
    let (descriptors, payloadBIndex) := parseSDPDescriptors hdr 0 0 count
    .ok
      { identifier := hdr.payloadBe16 0
        formatCode := hdr.payloadByte 3
        descriptors := descriptors ++ List.replicate (5 - count) {}
        sequenceCounter := hdr.payloadBe16 (9 + 45 * payloadBIndex + 1) }

/-! ### The 64-bit counter -/

/-- `struct klvanc_packet_kl_u64le_counter_s`, without the header. -/
structure KlvancPacketKlU64leCounter where
  counter : BitVec 64
  deriving DecidableEq

/-- `parse_KL_U64LE_COUNTER`. -/
def parseKLU64LECounter (hdr : KlvancPacketHeader) : Except ℤ KlvancPacketKlU64leCounter :=
  .ok
    { counter := (List.range 8).foldl
        (fun counter i => counter ||| (hdr.payloadByte i).setWidth 64 <<< (56 - 8 * i)) 0 }

/-! ### Ancillary time code -/

/-- `struct klvanc_packet_smpte_12_2_s`, without the header. -/
structure KlvancPacketSmpte12_2 where
  dbb1 : Byte := 0
  dbb2 : Byte := 0
  vitcLineSelect : Byte := 0
  lineDuplicationFlag : Byte := 0
  tcValidityFlag : Byte := 0
  userBitsProcessFlag : Byte := 0
  frames : Byte := 0
  seconds : Byte := 0
  minutes : Byte := 0
  hours : Byte := 0
  flag14 : Byte := 0
  flag15 : Byte := 0
  flag35 : Byte := 0
  flag55 : Byte := 0
  flag74 : Byte := 0
  flag75 : Byte := 0
  deriving DecidableEq

/-- Bit 3 of the eight payload words from `start` on, as an octet with the first one lowest. -/
def parseDbb (hdr : KlvancPacketHeader) (start : ℕ) : Byte :=
  (List.range 8).foldl
    (fun dbb i => dbb ||| (hdr.payloadByte (i + start) >>> 3 &&& 0x01) <<< i) 0

/-- `value` if a bit of `mask` is set in `b`, and 0 otherwise. -/
def ifSet (b mask value : Byte) : Byte := if b &&& mask ≠ 0 then value else 0

/-- `parse_SMPTE_12_2`. -/
def parseSMPTE12_2 (hdr : KlvancPacketHeader) : Except ℤ KlvancPacketSmpte12_2 :=
  if hdr.payloadLengthWords ≠ 0x10 then .error (-einval)
  else
    let dbb1 := parseDbb hdr 0
    let dbb2 := parseDbb hdr 8
    let pkt : KlvancPacketSmpte12_2 :=
      { dbb1 := dbb1
        dbb2 := dbb2
        vitcLineSelect := dbb2 &&& 0x1f
        lineDuplicationFlag := ifSet dbb2 0x20 1
        tcValidityFlag := ifSet dbb2 0x40 1
        userBitsProcessFlag := ifSet dbb2 0x80 1 }
    if dbb1 = 0x00 ∨ dbb1 = 0x01 ∨ dbb1 = 0x02 then
      let p := hdr.payloadByte
      .ok { pkt with
        frames := (p 0 >>> 4 &&& 0x0f) + ifSet (p 2) 0x10 10 + ifSet (p 2) 0x20 20
        flag14 := ifSet (p 2) 0x40 1
        flag15 := ifSet (p 2) 0x80 1
        seconds := (p 4 >>> 4 &&& 0x0f) + ifSet (p 6) 0x10 10 + ifSet (p 6) 0x20 20 +
          ifSet (p 6) 0x40 40
        flag35 := ifSet (p 6) 0x80 1
        minutes := (p 8 >>> 4 &&& 0x0f) + ifSet (p 10) 0x10 10 + ifSet (p 10) 0x20 20 +
          ifSet (p 10) 0x40 40
        flag55 := ifSet (p 10) 0x80 1
        hours := (p 12 >>> 4 &&& 0x0f) + ifSet (p 14) 0x10 10 + ifSet (p 14) 0x20 20
        flag74 := ifSet (p 14) 0x40 1
        flag75 := ifSet (p 14) 0x80 1 }
    else .ok pkt

end Libklvanc
