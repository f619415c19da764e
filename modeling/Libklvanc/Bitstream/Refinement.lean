import Libklvanc.Bitstream.Writer
import Libklvanc.Foundation.Runs

/-!
# The bitstream writer as a list of bits

`BitWrite.append` says what the three operations of the writer are for: written bits are appended to
a list of bits, stuffing appends the stuffing bit and completion appends zeros up to the next octet.
The writer implements this list as long as it completes at octet boundaries only
(`writes_of_aligned`). The loop of `klbs_write_buffer_complete` runs once too often, and the bit it
writes behind the completed octet stays in the register: the register is not empty after completion,
and what is written next starts one bit late. So a run refines its list of bits exactly when none of
its completions has anything to complete (`refinesBits_iff`).
-/

namespace Libklvanc

/-- An operation on a write context. -/
inductive BitWrite
  /-- `klbs_write_bits`. -/
  | writeBits (bits bitcount : ℕ)
  /-- `klbs_write_byte_stuff`. -/
  | byteStuff (bit : ℕ)
  /-- `klbs_write_buffer_complete`. -/
  | bufferComplete
  deriving DecidableEq, Repr

namespace BitWrite

/-- The operation on a context. -/
def run (ctx : KlbsContext) : BitWrite → KlbsContext
  | .writeBits bits bitcount => klbsWriteBits ctx bits bitcount
  | .byteStuff bit => klbsWriteByteStuff ctx bit
  | .bufferComplete => klbsWriteBufferComplete ctx

/-- The operation on the list of the bits written so far. -/
def append (l : List Bool) : BitWrite → List Bool
  | .writeBits bits bitcount => l ++ Bits.ofNat bitcount bits
  | .byteStuff bit => l ++ List.replicate ((8 - l.length % 8) % 8) (bit.testBit 0)
  | .bufferComplete => l ++ List.replicate ((8 - l.length % 8) % 8) false

end BitWrite

/-- The context after a run of operations on the fresh context of a buffer. -/
def klbsWriteRun (buf : List Byte) (ops : List BitWrite) : KlbsContext :=
  ops.foldl BitWrite.run (klbsWriteSetBuffer buf buf.length)

/-- The list of bits of a run. -/
def bitsOf (ops : List BitWrite) : List Bool := ops.foldl BitWrite.append []

/-- The octets stored are the full octets of a list of bits, and no fault has been met. -/
structure KlbsContext.StoresBits (ctx : KlbsContext) (l : List Bool) : Prop where
  count : klbsGetByteCount ctx = l.length / 8
  octets : Bits.ofBytes (ctx.buf.take (klbsGetByteCount ctx)) = l.take (8 * (l.length / 8))
  safe : ctx.faults = []

/-- The register is empty, and completing once more changes nothing. -/
structure KlbsContext.Completed (ctx : KlbsContext) : Prop where
  regUsed_eq : ctx.regUsed = 0
  complete_eq : klbsWriteBufferComplete ctx = ctx

/-- A run refines its list of bits: after every operation the full octets of the list are stored,
and after every completion the context is completed. -/
structure RefinesBits (buf : List Byte) (ops : List BitWrite) : Prop where
  stores : ∀ pre, pre <+: ops → (klbsWriteRun buf pre).StoresBits (bitsOf pre)
  completed : ∀ pre, pre ++ [.bufferComplete] <+: ops →
    (klbsWriteRun buf (pre ++ [.bufferComplete])).Completed

/-- Every completion of a run comes at an octet boundary. -/
def CompletesAligned (ops : List BitWrite) : Prop :=
  ∀ pre, pre ++ [.bufferComplete] <+: ops → 8 ∣ (bitsOf pre).length

section Run

variable {buf : List Byte} {ops pre : List BitWrite} {op : BitWrite}

lemma klbsWriteRun_append (buf : List Byte) (ops : List BitWrite) (op : BitWrite) :
    klbsWriteRun buf (ops ++ [op]) = op.run (klbsWriteRun buf ops) := by
  simp [klbsWriteRun]

lemma bitsOf_append (ops : List BitWrite) (op : BitWrite) :
    bitsOf (ops ++ [op]) = op.append (bitsOf ops) := by
  simp [bitsOf]

/-- Operations only append bits. -/
lemma bitsOf_length_le (h : pre <+: ops) : (bitsOf pre).length ≤ (bitsOf ops).length := by
  obtain ⟨post, rfl⟩ := h
  induction post using List.reverseRecOn with
  | nil => rw [List.append_nil]
  | append_singleton post op ih =>
    rw [← List.append_assoc, bitsOf_append]
    refine ih.trans ?_
    cases op <;> simp [BitWrite.append]

/-- The completions of a shorter run. -/
lemma CompletesAligned.of_prefix (h : CompletesAligned ops) (hpre : pre <+: ops) :
    CompletesAligned pre :=
  fun pre' hpre' => h pre' (hpre'.trans hpre)

/-- One operation: the context follows the list of bits, unless it completes inside an octet. -/
lemma KlbsContext.Writes.run {cap : ℕ} {orig : List Byte} {ctx : KlbsContext} {l : List Bool}
    (h : ctx.Writes cap orig l) (op : BitWrite) (hop : op = .bufferComplete → 8 ∣ l.length) :
    (op.run ctx).Writes cap orig (op.append l) := by
  cases op with
  | writeBits bits bitcount => exact h.writeBits bits bitcount
  | byteStuff bit => exact h.writeByteStuff bit
  | bufferComplete =>
    have haligned := hop rfl
    have hnothing : (8 - l.length % 8) % 8 = 0 := by omega
    rw [BitWrite.run, h.writeBufferComplete haligned, BitWrite.append, hnothing,
      List.replicate_zero, List.append_nil]
    exact h

/-- A run that completes at octet boundaries only: the context follows the list of bits. -/
lemma writes_of_aligned (h : CompletesAligned ops) :
    (klbsWriteRun buf ops).Writes buf.length buf (bitsOf ops) := by
  induction ops using List.reverseRecOn with
  | nil => exact KlbsContext.Writes.setBuffer le_rfl
  | append_singleton ops op ih =>
    rw [klbsWriteRun_append, bitsOf_append]
    refine (ih (h.of_prefix (List.prefix_append _ _))).run op ?_
    rintro rfl
    exact h ops (List.prefix_refl _)

/-- Completing inside an octet leaves a bit in the register. -/
lemma regUsed_of_unaligned (h : CompletesAligned pre) (hpre : ¬8 ∣ (bitsOf pre).length) :
    (klbsWriteRun buf (pre ++ [.bufferComplete])).regUsed = 1 := by
  have hwrites := (@writes_of_aligned buf pre h).writeBufferComplete_unaligned hpre
  have hreg := hwrites.regUsed_eq
  rw [List.length_append, List.length_replicate] at hreg
  rw [klbsWriteRun_append, BitWrite.run, hreg]
  omega

/-- In a run that refines its list of bits every completion comes at an octet boundary. -/
lemma RefinesBits.completesAligned (h : RefinesBits buf ops) : CompletesAligned ops := by
  -- the completions of the shorter runs are aligned, and so the context follows their bits
  refine Runs.forall_points fun pre hpre haligned => ?_
  by_contra hunaligned
  have hreg := (h.completed pre hpre).regUsed_eq
  rw [regUsed_of_unaligned haligned hunaligned] at hreg
  exact one_ne_zero hreg

/-- A run that completes at octet boundaries only refines its list of bits. -/
lemma refinesBits_of_aligned (hfits : (bitsOf ops).length ≤ 8 * buf.length)
    (h : CompletesAligned ops) : RefinesBits buf ops where
  stores pre hpre := by
    have hw := @writes_of_aligned buf pre (h.of_prefix hpre)
    have hle := (bitsOf_length_le hpre).trans hfits
    have hused := hw.used_eq
    have hinside : (klbsWriteRun buf pre).buflenUsed ≤ buf.length := by omega
    exact ⟨hused, (hw.buf_eq hinside).trans (by rw [hused]), hw.safe hinside⟩
  completed pre hpre := by
    have hw := @writes_of_aligned buf _ (h.of_prefix hpre)
    have haligned := h pre hpre
    have hlen : 8 ∣ (bitsOf (pre ++ [.bufferComplete])).length := by
      rw [bitsOf_append, BitWrite.append, List.length_append, List.length_replicate]
      omega
    refine ⟨?_, hw.writeBufferComplete hlen⟩
    rw [hw.regUsed_eq]
    omega

/-- A run whose bits fit the buffer refines its list of bits exactly when every
`klbs_write_buffer_complete` comes at an octet boundary. -/
theorem refinesBits_iff (hfits : (bitsOf ops).length ≤ 8 * buf.length) :
    RefinesBits buf ops ↔ CompletesAligned ops :=
  ⟨RefinesBits.completesAligned, refinesBits_of_aligned hfits⟩

end Run

/-- The completions of a run, by their positions in it. -/
lemma completesAligned_iff_take {ops : List BitWrite} :
    CompletesAligned ops ↔
      ∀ n < ops.length, ops[n]? = some .bufferComplete → 8 ∣ (bitsOf (ops.take n)).length := by
  constructor
  · intro h n hn hop
    have htake : ops.take n ++ [.bufferComplete] = ops.take (n + 1) := by
      rw [List.take_add_one, hop]
      rfl
    apply h
    rw [htake]
    exact List.take_prefix _ _
  · rintro h pre ⟨post, rfl⟩
    have haligned := h pre.length (by simp) (by simp)
    simpa using haligned

/-- Three bits, stuffed to an octet, completed and followed by an octet. -/
def alignedRun : List BitWrite :=
  [.writeBits 5 3, .byteStuff 1, .bufferComplete, .writeBits 0xff 8]

/-- The run of stuffed bits refines its list of bits. -/
theorem refinesBits_alignedRun : RefinesBits [0, 0] alignedRun :=
  (refinesBits_iff (by decide)).mpr (completesAligned_iff_take.mpr (by decide))

/-- A bit, completed and followed by an octet: the octet is stored as `7f`. -/
theorem not_refinesBits_unaligned :
    ¬∀ (buf : List Byte) (ops : List BitWrite), (bitsOf ops).length ≤ 8 * buf.length →
      RefinesBits buf ops := by
  intro h
  have hstores := (h [0, 0, 0] [.writeBits 1 1, .bufferComplete, .writeBits 0xff 8]
    (by decide)).stores _
    (List.prefix_refl _)
  exact absurd hstores.octets (by decide +kernel)

end Libklvanc
