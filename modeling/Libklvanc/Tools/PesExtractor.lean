import Libklvanc.Tools.RingBuffer

/-!
# The PES extractor

`pes_extractor.c`. The payload of every transport packet goes into a ring buffer. While there is
enough in it, the extractor looks for the header of a private PES packet and calls the callback with
each PES packet that is complete; the functions put out what the callback is called with.
-/

namespace Libklvanc

/-- A transport packet. -/
abbrev TsPacket := Vector Byte 188

/-- `MAX_PES_SIZE`. -/
def maxPesSize : ℕ := 16384

/-- `packet_size`, which `pe_alloc` sets and nothing changes. -/
def packetSize : ℕ := 188

/-- `pes_extractor_s`. -/
structure PesExtractor where
  pid : Word
  rb : KLRingBuffer
  hasSync : Bool

/-- `pe_alloc`. -/
def peAlloc (fresh : ℕ → Byte) (pid : Word) : Option PesExtractor :=
  (rbNew fresh maxPesSize 1048576).map fun rb => { pid, rb, hasSync := false }

/-- `hdr`: the first bytes of a PES packet. -/
def pesHdr : List Byte := [0, 0, 1, 0xbd]

/-- `adaption`. -/
def adaption (pkt : TsPacket) : Byte := (pkt[3] >>> 4) &&& 0x03

/-- `adaptation_field_length`. -/
def adaptationFieldLength (pkt : TsPacket) : ℕ := pkt[4].toNat

/-- `offset`: where the payload of a packet begins. -/
def payloadOffset (pkt : TsPacket) : ℕ :=
  let offset := 4
  if adaption pkt = 2 ∨ adaption pkt = 3 then
    (if offset = 4 then offset + 1 else offset) + adaptationFieldLength pkt
  else offset

/-- The beginning of `pe_processPacket`: whether the payload has been written. -/
def peAppend (fresh : ℕ → Byte) (pe : PesExtractor) (pkt : TsPacket) :
    Checked Fault (Bool × PesExtractor) := do
  let offset := payloadOffset pkt
  let wlen ← sizeOfInt ((packetSize : ℤ) - offset)
  let (l, rb) ← rbWrite fresh pe.rb ⟨.tsPacket, pkt.toList, offset⟩ wlen
  pure (l == wlen, { pe with rb })

/-- The `for` loop of the resynchronisation from `i` on, which ends within `fuel` iterations:
whether `b` has come to hold the header. -/
def peSeek (fresh : ℕ → Byte) : ℕ → ℕ → List Byte → KLRingBuffer →
    Checked Fault (Bool × KLRingBuffer)
  | 0, _, _, rb => pure (false, rb)
  | fuel + 1, i, b, rb =>
    if i < rbUsed rb then
      if b = pesHdr then pure (true, rb)
      else do
        let (next, rb) ← rbRead fresh rb 1
        peSeek fresh fuel (i + 1) (b.drop 1 ++ next) rb
    else pure (false, rb)

/-- The resynchronisation. -/
def peResync (fresh : ℕ → Byte) (pe : PesExtractor) : Checked Fault PesExtractor :=
  if !pe.hasSync ∧ 16 < rbUsed pe.rb then do
    let (b, rb) ← rbRead fresh pe.rb pesHdr.length
    let (hasSync, rb) ← peSeek fresh (rbUsed rb) 0 b rb
    pure { pe with rb, hasSync }
  else pure pe

/-- `pes_length`. -/
def pesLength (l : List Byte) : ℕ := (l.getD 0 0).toNat <<< 8 ||| (l.getD 1 0).toNat

/-- One round of the `while` loop: the PES packet that the callback is called with, if the loop goes
on. -/
def peRound (fresh : ℕ → Byte) (pe : PesExtractor) :
    Checked Fault (Option (List Byte) × PesExtractor) := do
  let pe ← peResync fresh pe
  if !pe.hasSync then pure (none, pe)
  else do
    let (l, rb) ← rbPeek fresh pe.rb 2
    let pe := { pe with rb }
    if l.length ≠ 2 then pure (none, pe)
    else if pesLength l + 2 ≤ rbUsed pe.rb then do
      let (msg, rb) ← rbRead fresh pe.rb (pesLength l + 2)
      pure (some (pesHdr ++ msg), { pe with rb, hasSync := false })
    else pure (none, pe)

/-- The `while` loop, which ends within `fuel` rounds. -/
def peDequeue (fresh : ℕ → Byte) : ℕ → PesExtractor →
    Checked Fault (List (List Byte) × PesExtractor)
  | 0, pe => pure ([], pe)
  | fuel + 1, pe => do
    let (msg, pe) ← peRound fresh pe
    match msg with
    | none => pure ([], pe)
    | some msg => do
      let (msgs, pe) ← peDequeue fresh fuel pe
      pure (msg :: msgs, pe)

/-- `pe_processPacket`. Every round of the loop but the last one takes bytes out of the buffer. -/
def peProcessPacket (fresh : ℕ → Byte) (pe : PesExtractor) (pkt : TsPacket) :
    Checked Fault (List (List Byte) × PesExtractor) := do
  let (written, pe) ← peAppend fresh pe pkt
  if written then peDequeue fresh (rbUsed pe.rb + 1) pe else pure ([], pe)

/-- `pid` of a packet. -/
def packetPid (pkt : TsPacket) : Word :=
  ((pkt[1].setWidth 16 <<< 8) ||| pkt[2].setWidth 16) &&& 0x1fff

/-- `pe_push` of packets that lie behind one another. -/
def pePush (fresh : ℕ → Byte) : PesExtractor → List TsPacket →
    Checked Fault (List (List Byte) × PesExtractor)
  | pe, [] => pure ([], pe)
  | pe, pkt :: pkts => do
    let (msgs, pe) ←
      (if packetPid pkt = pe.pid then peProcessPacket fresh pe pkt else pure ([], pe))
    let (rest, pe) ← pePush fresh pe pkts
    pure (msgs ++ rest, pe)

end Libklvanc
