import Libklvanc.Core.Basic

/-!
# The bitstream reader and writer

`klbitstream_readwriter.h`: a bitstream context is a buffer together with an 8-bit shift register;
bits are clocked into the register from the right when writing and out of it on the left when
reading. The context carries the faults met so far as a ghost field.

`buf` holds the octets of the object the buffer pointer points into, from the pointer on, and
`buflen` the length the caller announced; the two differ when a caller announces more octets than
there are.
-/

namespace Libklvanc

/-- `struct klbs_context_s`. -/
structure KlbsContext where
  /-- The octets that can be reached from the buffer pointer. -/
  buf : List Byte
  /-- The announced buffer size in octets. -/
  buflen : ℕ
  /-- The number of octets read or written so far. -/
  buflenUsed : ℕ
  /-- The number of bits held in the register. -/
  regUsed : ℕ
  /-- The shift register. -/
  reg : Byte
  /-- The faults met so far (ghost). -/
  faults : List Fault
  deriving DecidableEq

/-- Record faults in a bitstream context. -/
def KlbsContext.addFaults (bs : KlbsContext) (fs : List Fault) : KlbsContext :=
  { bs with faults := bs.faults ++ fs }

@[simp] lemma KlbsContext.addFaults_nil (bs : KlbsContext) : bs.addFaults [] = bs := by
  simp [addFaults]

/-- `klbs_write_set_buffer`: a fresh context on the buffer `buf`. -/
def klbsWriteSetBuffer (buf : List Byte) (lengthBytes : ℕ) : KlbsContext where
  buf := buf
  buflen := lengthBytes
  buflenUsed := 0
  regUsed := 0
  reg := 0
  faults := []

/-- `klbs_read_set_buffer`. -/
def klbsReadSetBuffer (buf : List Byte) (lengthBytes : ℕ) : KlbsContext :=
  klbsWriteSetBuffer buf lengthBytes

/-- `klbs_get_byte_count`. -/
def klbsGetByteCount (ctx : KlbsContext) : ℕ := ctx.buflenUsed

/-- `klbs_get_buffer_size`. -/
def klbsGetBufferSize (ctx : KlbsContext) : ℕ := ctx.buflen

/-- `klbs_get_byte_count_free`, a subtraction of two `uint32_t`. -/
def klbsGetByteCountFree (ctx : KlbsContext) : ℕ :=
  uintSub (klbsGetBufferSize ctx) (klbsGetByteCount ctx)

/-- `assert(ctx->buflen_used <= ctx->buflen)`. -/
def klbsAssertUsed (ctx : KlbsContext) : KlbsContext :=
  if ctx.buflenUsed ≤ ctx.buflen then ctx
  else { ctx with faults := ctx.faults ++ [Fault.assertion] }

/-- `*(ctx->buf + ctx->buflen_used++) = ctx->reg`. -/
def klbsStoreReg (ctx : KlbsContext) : KlbsContext :=
  { ctx with
    buf := ctx.buf.set ctx.buflenUsed ctx.reg
    buflenUsed := ctx.buflenUsed + 1
    faults := if ctx.buflenUsed < ctx.buf.length then ctx.faults
      else ctx.faults ++ [Fault.write .bitstream ctx.buflenUsed] }

/-- `klbs_write_bit`: clock the low bit of `bit` into the register and store it when it is full. -/
def klbsWriteBit (ctx : KlbsContext) (bit : ℕ) : KlbsContext :=
  let ctx := klbsAssertUsed ctx
  let ctx :=
    if ctx.regUsed < 8 then
      { ctx with
        reg := ctx.reg <<< 1 ||| BitVec.ofNat 8 (bit &&& 1)
        regUsed := ctx.regUsed + 1 }
    else ctx
  if ctx.regUsed = 8 then { klbsStoreReg ctx with regUsed := 0 } else ctx

/-- `klbs_write_byte_stuff`: write `bit` until the register is empty. A full register is stored at
once, so at most eight bits are needed; `fuel` counts them. -/
def klbsWriteByteStuffLoop (bit : ℕ) : ℕ → KlbsContext → KlbsContext
  | 0, ctx => ctx
  | fuel + 1, ctx =>
    if 0 < ctx.regUsed then klbsWriteByteStuffLoop bit fuel (klbsWriteBit ctx bit) else ctx

@[inherit_doc klbsWriteByteStuffLoop]
def klbsWriteByteStuff (ctx : KlbsContext) (bit : ℕ) : KlbsContext :=
  klbsWriteByteStuffLoop bit 8 ctx

/-- `klbs_write_bits`: write the low `bitcount` bits of `bits`, most significant bit first. -/
def klbsWriteBits (ctx : KlbsContext) (bits : ℕ) : ℕ → KlbsContext
  | 0 => ctx
  | bitcount + 1 => klbsWriteBits (klbsWriteBit ctx (bits >>> bitcount)) bits bitcount

/-- Write `count` zero bits. -/
def klbsWriteZeros : ℕ → KlbsContext → KlbsContext
  | 0, ctx => ctx
  | count + 1, ctx => klbsWriteZeros count (klbsWriteBit ctx 0)

/-- `klbs_write_buffer_complete`. The loop runs from `reg_used` to 8 inclusive. -/
def klbsWriteBufferComplete (ctx : KlbsContext) : KlbsContext :=
  if 0 < ctx.regUsed then klbsWriteZeros (9 - ctx.regUsed) ctx else ctx

/-- `*(ctx->buf + ctx->buflen_used++)`. -/
def klbsLoad (ctx : KlbsContext) : Byte × KlbsContext :=
  let octet := readAt .bitstream ctx.buf ctx.buflenUsed
  (octet.val,
    { ctx with buflenUsed := ctx.buflenUsed + 1, faults := ctx.faults ++ octet.faults })

/-- `klbs_read_bit`: load the register when it is empty and clock its top bit out. -/
def klbsReadBit (ctx : KlbsContext) : Bool × KlbsContext :=
  let ctx := klbsAssertUsed ctx
  let ctx :=
    if ctx.regUsed = 0 then
      let (octet, ctx) := klbsLoad ctx
      { ctx with reg := octet, regUsed := 8 }
    else ctx
  if ctx.regUsed ≤ 8 then
    (ctx.reg.getMsbD 0, { ctx with reg := ctx.reg <<< 1, regUsed := ctx.regUsed - 1 })
  else (false, ctx)

/-- The loop of `klbs_read_bits`: shift `bitcount` further bits into `bits`. -/
def klbsReadBitsLoop : ℕ → KlbsContext → BitVec 64 → BitVec 64 × KlbsContext
  | 0, ctx, bits => (bits, ctx)
  | bitcount + 1, ctx, bits =>
    let (bit, ctx) := klbsReadBit ctx
    klbsReadBitsLoop bitcount ctx (bits <<< 1 ||| (BitVec.ofBool bit).setWidth 64)

/-- `klbs_read_bits`, with its byte-aligned fast path. -/
def klbsReadBits (ctx : KlbsContext) (bitcount : ℕ) : BitVec 64 × KlbsContext :=
  if bitcount = 8 ∧ ctx.regUsed = 0 then
    let (octet, ctx) := klbsLoad ctx
    (octet.setWidth 64, ctx)
  else klbsReadBitsLoop bitcount ctx 0

/-- `klbs_peek_bits`: read from a copy of the context; the faults of the copy are kept. -/
def klbsPeekBits (ctx : KlbsContext) (bitcount : ℕ) : BitVec 64 × KlbsContext :=
  let (bits, copy) := klbsReadBits ctx bitcount
  (bits, { ctx with faults := copy.faults })

/-- `klbs_read_byte_stuff`: discard bits until the register is empty, at most eight of them. -/
def klbsReadByteStuffLoop : ℕ → KlbsContext → KlbsContext
  | 0, ctx => ctx
  | fuel + 1, ctx =>
    if 0 < ctx.regUsed then klbsReadByteStuffLoop fuel (klbsReadBit ctx).2 else ctx

@[inherit_doc klbsReadByteStuffLoop]
def klbsReadByteStuff (ctx : KlbsContext) : KlbsContext :=
  klbsReadByteStuffLoop 8 ctx

end Libklvanc
