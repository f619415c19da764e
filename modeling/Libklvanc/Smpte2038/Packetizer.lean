import Libklvanc.Bitstream.Writer
import Libklvanc.Core.Packet
import Libklvanc.Smpte2038.Parser

/-!
# Making SMPTE 2038 packets

The packetizer of `smpte2038.c`: packet headers are appended to a growing buffer as lines of
ancillary data, behind the space that the PES header is written into at the end.

`realloc` leaves what it adds to the buffer unspecified: `fresh` gives the octets found there.
-/

namespace Libklvanc.Smpte2038

/-- `struct klvanc_smpte2038_packetizer_s`, without the bitstream context, which every call sets up
anew. -/
structure KlvancSmpte2038Packetizer where
  buf : List Byte
  buflen : ℕ
  bufused : ℕ
  buffree : ℕ

/-- `KLVANC_SMPTE2038_PACKETIZER_BUFFER_RESET_OFFSET`. -/
def packetizerBufferResetOffset : ℕ := 14

/-- `klvanc_smpte2038_buffer_recalc`. -/
def klvancSmpte2038BufferRecalc (ctx : KlvancSmpte2038Packetizer) : KlvancSmpte2038Packetizer :=
  { ctx with buffree := uintSub ctx.buflen ctx.bufused }

/-- `klvanc_smpte2038_packetizer_alloc`: the context put out. -/
def klvancSmpte2038PacketizerAlloc : KlvancSmpte2038Packetizer where
  buf := List.replicate 16384 0
  buflen := 16384
  bufused := packetizerBufferResetOffset
  buffree := 16384 - packetizerBufferResetOffset

/-- `klvanc_smpte2038_buffer_adjust`. -/
def klvancSmpte2038BufferAdjust (fresh : ℕ → Byte) (ctx : KlvancSmpte2038Packetizer)
    (newsizeBytes : ℕ) : Checked Fault KlvancSmpte2038Packetizer :=
  if 128 * 1024 < newsizeBytes then Checked.fault Fault.abort ctx
  else
    pure (klvancSmpte2038BufferRecalc
      { ctx with
        buf := ctx.buf.take newsizeBytes ++
          (List.range' ctx.buf.length (newsizeBytes - ctx.buf.length)).map fresh
        buflen := newsizeBytes
        bufused := if newsizeBytes < ctx.bufused then newsizeBytes else ctx.bufused })

/-- `klvanc_smpte2038_packetizer_begin`. -/
def klvancSmpte2038PacketizerBegin (ctx : KlvancSmpte2038Packetizer) :
    ℤ × KlvancSmpte2038Packetizer :=
  let ctx := klvancSmpte2038BufferRecalc { ctx with bufused := packetizerBufferResetOffset }
  (0, { ctx with buf := List.replicate ctx.buflen 0xff })

/-- The fields of the line that `klvanc_smpte2038_packetizer_append` writes. -/
def lineFields (pkt : KlvancPacketHeader) : List (ℕ × ℕ) :=
  [(0, 6), (0, 1), (pkt.lineNr, 11), (0, 12), ((addParity pkt.did).toNat, 10),
    ((addParity pkt.dbnsdid).toNat, 10),
    ((addParity (BitVec.ofNat 16 pkt.payloadLengthWords)).toNat, 10)] ++
    pkt.payload.map (fun w => (w.toNat, 10)) ++ [(pkt.checksum.toNat, 10)]

/-- The check of the free space in `klvanc_smpte2038_packetizer_append`: grow the buffer unless
`reqd` octets and some headroom are free. -/
def reserve (fresh : ℕ → Byte) (ctx : KlvancSmpte2038Packetizer) (reqd : ℕ) :
    Checked Fault KlvancSmpte2038Packetizer :=
  if ctx.buffree < reqd + 64 then klvancSmpte2038BufferAdjust fresh ctx (ctx.buflen + 16384)
  else pure ctx

/-- The rest of `klvanc_smpte2038_packetizer_append`: write a line. -/
def writeAncDataLine (ctx : KlvancSmpte2038Packetizer) (pkt : KlvancPacketHeader) :
    Checked Fault KlvancSmpte2038Packetizer :=
  let bs := klbsWriteSetBuffer (ctx.buf.drop ctx.bufused) ctx.buffree
  let bs := klbsWriteFields bs (lineFields pkt)
  let bs := klbsWriteBufferComplete (klbsWriteByteStuff bs 1)
  ⟨klvancSmpte2038BufferRecalc
    { ctx with
      buf := ctx.buf.take ctx.bufused ++ bs.buf
      bufused := ctx.bufused + klbsGetByteCount bs }, bs.faults⟩

/-- `klvanc_smpte2038_packetizer_append`. -/
def klvancSmpte2038PacketizerAppend (fresh : ℕ → Byte) (ctx : KlvancSmpte2038Packetizer)
    (pkt : KlvancPacketHeader) : Checked Fault (ℤ × KlvancSmpte2038Packetizer) := do
  let ctx ← reserve fresh ctx (pkt.payloadLengthWords * 2)
  let ctx ← writeAncDataLine ctx pkt
  pure (0, ctx)

/-- The fields of the PES header that `klvanc_smpte2038_packetizer_end` writes, with the packet
length `pesPacketLength`. -/
def headerFields (pesPacketLength : ℕ) (pts : BitVec 64) : List (ℕ × ℕ) :=
  [(1, 24), (0xBD, 8), (pesPacketLength, 16), (2, 2), (0, 2), (0, 1), (1, 1), (0, 1), (0, 1),
    (2, 2), (0, 1), (0, 1), (0, 1), (0, 1), (0, 1), (0, 1), (5, 8), (2, 4),
    ((pts >>> 30).toNat, 3), (1, 1), ((pts >>> 15 &&& 0x7fff).toNat, 15), (1, 1),
    ((pts &&& 0x7fff).toNat, 15), (1, 1)]

/-- `ctx->buf[i] = b`. -/
def storeByte (buf : List Byte) (i : ℕ) (b : Byte) : Checked Fault (List Byte) :=
  ⟨buf.set i b, if i < buf.length then [] else [Fault.write .packetizerBuf i]⟩

/-- `klvanc_smpte2038_packetizer_end`. -/
def klvancSmpte2038PacketizerEnd (ctx : KlvancSmpte2038Packetizer) (pts : BitVec 64) :
    Checked Fault (ℤ × KlvancSmpte2038Packetizer) :=
  if ctx.bufused = packetizerBufferResetOffset then pure (-1, ctx)
  else do
    let bs := klbsWriteFields (klbsWriteSetBuffer ctx.buf 15) (headerFields 0 pts)
    let bs := klbsWriteBufferComplete bs
    let buf ← ⟨bs.buf, bs.faults⟩
    let len := ctx.bufused - 6
    let buf ← storeByte buf 4 (BitVec.ofNat 8 (len >>> 8))
    let buf ← storeByte buf 5 (BitVec.ofNat 8 len)
    pure (0, { ctx with buf })

/-! ### Frames -/

/-- Append several packets. -/
def appendPackets (fresh : ℕ → Byte) (ctx : KlvancSmpte2038Packetizer) :
    List KlvancPacketHeader → Checked Fault KlvancSmpte2038Packetizer
  | [] => pure ctx
  | pkt :: pkts => do
    let (_, ctx) ← klvancSmpte2038PacketizerAppend fresh ctx pkt
    appendPackets fresh ctx pkts

/-- The calls made for one frame. -/
def packetizeFrame (fresh : ℕ → Byte) (ctx : KlvancSmpte2038Packetizer)
    (pkts : List KlvancPacketHeader) (pts : BitVec 64) :
    Checked Fault (ℤ × KlvancSmpte2038Packetizer) := do
  let (_, ctx) := klvancSmpte2038PacketizerBegin ctx
  let ctx ← appendPackets fresh ctx pkts
  klvancSmpte2038PacketizerEnd ctx pts

/-- The packetizers obtained by an allocation and any further calls without a fault. -/
inductive Reachable : KlvancSmpte2038Packetizer → Prop
  | alloc : Reachable klvancSmpte2038PacketizerAlloc
  | packetizerBegin {ctx : KlvancSmpte2038Packetizer} (h : Reachable ctx) :
    Reachable (klvancSmpte2038PacketizerBegin ctx).2
  | packetizerAppend {ctx : KlvancSmpte2038Packetizer} (h : Reachable ctx) (fresh : ℕ → Byte)
    (pkt : KlvancPacketHeader) (hsafe : (klvancSmpte2038PacketizerAppend fresh ctx pkt).Safe) :
    Reachable (klvancSmpte2038PacketizerAppend fresh ctx pkt).val.2
  | packetizerEnd {ctx : KlvancSmpte2038Packetizer} (h : Reachable ctx) (pts : BitVec 64) :
    Reachable (klvancSmpte2038PacketizerEnd ctx pts).val.2

end Libklvanc.Smpte2038
