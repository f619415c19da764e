import Libklvanc.Core.Basic

/-!
# Packet headers

`klvanc_packet_header_s`: what `klvanc_packet_parse` keeps of one ancillary data packet, and
`klvanc_packet_payload_append`, which joins the payloads of two of them. The arrays `payload` and
`raw` of the source have `LIBKLVANC_PACKET_MAX_PAYLOAD` cells and are zeroed before they are filled
from their beginning; here they are the lists of the filled cells, and `payloadWord` reads a zero
behind them. Every index the decoders read the payload at is a constant below the size of the array.
-/

namespace Libklvanc

/-- `LIBKLVANC_PACKET_MAX_PAYLOAD`. -/
def packetMaxPayload : ℕ := 16384

/-- `enum klvanc_packet_type_e`. -/
inductive KlvancPacketType
  | undefined
  | afd
  | eia708b
  | eia608
  | scte104
  | klUint64Counter
  | sdp
  | smpteS12_2
  | smpteS2108_1
  deriving DecidableEq, Repr

/-- `struct klvanc_packet_header_s`. -/
structure KlvancPacketHeader where
  type : KlvancPacketType
  adf : Word × Word × Word
  did : Word
  dbnsdid : Word
  checksum : Word
  /-- The first `payloadLengthWords` words of `payload`; the words behind them are zero. -/
  payload : List Word
  checksumValid : Bool
  /-- The line the packet was found on. -/
  lineNr : ℕ
  /-- The words copied into `raw`; the words behind them are zero. -/
  raw : List Word
  rawLengthWords : ℕ
  /-- Horizontal word where the ADF was detected. -/
  horizontalOffset : ℕ
  deriving DecidableEq

namespace KlvancPacketHeader

/-- `payloadLengthWords`. -/
def payloadLengthWords (hdr : KlvancPacketHeader) : ℕ := hdr.payload.length

/-- `payload[i]`. -/
def payloadWord (hdr : KlvancPacketHeader) (i : ℕ) : Word := hdr.payload.getD i 0

/-- `sanitizeWord(payload[i])`, or `payload[i]` stored in an octet. -/
def payloadByte (hdr : KlvancPacketHeader) (i : ℕ) : Byte := lowByte (hdr.payloadWord i)

end KlvancPacketHeader

/-- The first `n` cells of a zeroed array whose first cells are `l`. -/
def leadingCells (l : List Word) (n : ℕ) : List Word :=
  l.take n ++ List.replicate (n - l.length) 0

/-- `klvanc_packet_payload_append`: append the payload of `src` from `srcOffset` on, and its raw
words, to those of `dst`. -/
def klvancPacketPayloadAppend (dst src : KlvancPacketHeader) (srcOffset : ℕ) :
    Checked Fault (Option KlvancPacketHeader) :=
  if packetMaxPayload + srcOffset < dst.payloadLengthWords + src.payloadLengthWords then
    pure none
  else if packetMaxPayload < dst.rawLengthWords + src.rawLengthWords then
    pure none
  else if src.payloadLengthWords < srcOffset then
    -- the number of octets to copy is negative and `memcpy` takes it as unsigned
    Checked.fault (Fault.read .headerPayload packetMaxPayload) none
  else
    pure (some { dst with
      payload := dst.payload ++ src.payload.drop srcOffset
      raw := leadingCells dst.raw dst.rawLengthWords ++ leadingCells src.raw src.rawLengthWords
      rawLengthWords := dst.rawLengthWords + src.rawLengthWords })

end Libklvanc
