import Libklvanc.Bitstream.Reader
import Libklvanc.Bitstream.Writer

/-!
# The bitstream reader undoes the writer

Fields written one behind the other with `klbs_write_bits` and completed with
`klbs_write_buffer_complete` are returned by `klbs_read_bits` modulo their widths
(`klbsReadFields_klbsWriteFields`). Writer and reader meet at the bit string of the fields: the
writer leaves it at the beginning of the buffer (`Writes.completed`), and the reader consumes it
field by field (`Reads.readFields`). The zero that completion writes behind the last octet stays in
the register.

The byte-aligned fast path of `klbs_read_bits` leaves the register as it was, the loop leaves it
empty: each of the two can take the place of the other in every read.
-/

namespace Libklvanc

/-- `klbs_read_bits`, or its loop alone if it is kept off the fast path. -/
def klbsReadBitsVia (fast : Bool) (ctx : KlbsContext) (bitcount : ℕ) : BitVec 64 × KlbsContext :=
  if fast then klbsReadBits ctx bitcount else klbsReadBitsLoop bitcount ctx 0

/-- Calls of `klbs_read_bits`, one for each width; the flag says whether the call may take the fast
path. -/
def klbsReadFields : KlbsContext → List (ℕ × Bool) → List (BitVec 64) × KlbsContext
  | ctx, [] => ([], ctx)
  | ctx, (bitcount, fast) :: reads =>
    let (bits, ctx) := klbsReadBitsVia fast ctx bitcount
    let (rest, ctx) := klbsReadFields ctx reads
    (bits :: rest, ctx)

namespace KlbsContext

section Complete

variable {cap : ℕ} {orig : List Byte} {ctx : KlbsContext} {bits : List Bool}

/-- After completion all bits written have been stored, and the octets behind them are untouched. -/
lemma Writes.completed (h : ctx.Writes cap orig bits) (hfits : bits.length ≤ 8 * cap) :
    (klbsWriteBufferComplete ctx).faults = [] ∧
      klbsGetByteCount (klbsWriteBufferComplete ctx) = (bits.length + 7) / 8 ∧
      (klbsWriteBufferComplete ctx).buf.length = orig.length ∧
      (klbsWriteBufferComplete ctx).buf.drop ((bits.length + 7) / 8) =
        orig.drop ((bits.length + 7) / 8) ∧
      bits <+: Bits.ofBytes ((klbsWriteBufferComplete ctx).buf.take ((bits.length + 7) / 8)) := by
  by_cases hbits : 8 ∣ bits.length
  · have hused := h.used_eq
    have hcount : ctx.buflenUsed = (bits.length + 7) / 8 := by omega
    have hbuf := h.buf_eq (by omega)
    rw [h.writeBufferComplete hbits, klbsGetByteCount, ← hcount, hbuf]
    refine ⟨h.safe (by omega), rfl, h.length_eq, h.rest_eq, ?_⟩
    rw [List.take_of_length_le (by omega)]
  · have hw := h.writeBufferComplete_unaligned hbits
    have hused := hw.used_eq
    rw [List.length_append, List.length_replicate] at hused
    have hcount : (klbsWriteBufferComplete ctx).buflenUsed = (bits.length + 7) / 8 := by omega
    have hbuf := hw.buf_eq (by omega)
    rw [klbsGetByteCount, ← hcount, hbuf]
    refine ⟨hw.safe (by omega), rfl, hw.length_eq, hw.rest_eq, ?_⟩
    rw [List.take_append, List.take_of_length_le (by omega)]
    exact List.prefix_append _ _

end Complete

section Read

variable {ctx : KlbsContext} {rest : List Bool}

/-- A field is returned modulo its width, whether or not the fast path is taken. -/
lemma Reads.readBitsVia {w n : ℕ} (h : ctx.Reads (Bits.ofNat w n ++ rest)) (hw : w ≤ 64)
    (fast : Bool) :
    ∃ v ctx', klbsReadBitsVia fast ctx w = (v, ctx') ∧ v.toNat = n % 2 ^ w ∧ ctx'.Reads rest ∧
      ctx'.faults = ctx.faults := by
  cases fast with
  | true =>
    obtain ⟨v, ctx', hread, hv, hrest, hfaults, -, -⟩ := h.readField hw
    exact ⟨v, ctx', hread, hv, hrest, hfaults⟩
  | false =>
    have hzero : (0 : BitVec 64).toNat < 2 ^ 0 := by simp
    obtain ⟨v, ctx', hread, hv, hrest, hfaults, -, -⟩ := h.readBitsLoop hzero (by simpa using hw)
    rw [Bits.ofNat_length, Bits.toNat_ofNat] at hv
    rw [Bits.ofNat_length] at hread
    exact ⟨v, ctx', hread, by simpa using hv, hrest, hfaults⟩

/-- A run of reads returns the fields modulo their widths. -/
lemma Reads.readFields {fields : List (ℕ × ℕ)} (h : ctx.Reads (Bits.ofFields fields ++ rest))
    (hw : ∀ f ∈ fields, f.2 ≤ 64) {reads : List (ℕ × Bool)}
    (hreads : reads.map Prod.fst = fields.map Prod.snd) :
    (klbsReadFields ctx reads).1.map BitVec.toNat = fields.map (fun f => f.1 % 2 ^ f.2) ∧
      (klbsReadFields ctx reads).2.faults = ctx.faults := by
  induction fields generalizing ctx reads with
  | nil =>
    obtain rfl : reads = [] := List.map_eq_nil_iff.mp hreads
    exact ⟨rfl, rfl⟩
  | cons f fields ih =>
    obtain ⟨⟨w, fast⟩, reads, rfl, rfl, hrest⟩ := List.map_eq_cons_iff.mp hreads
    rw [Bits.ofFields_cons, List.append_assoc] at h
    obtain ⟨v, ctx', hread, hv, h', hfaults⟩ := h.readBitsVia (hw f List.mem_cons_self) fast
    obtain ⟨hvs, hfs⟩ := ih h' (fun g hg => hw g (List.mem_cons_of_mem _ hg)) hrest
    simp only [klbsReadFields, hread, List.map_cons, hv, hvs, hfs, hfaults, and_self]

end Read

end KlbsContext

/-- Fields of 1 to 64 bits each that fit a buffer are written with `klbs_write_bits`, one behind the
other, and completed: no fault is met, the byte count is the number of bits divided by 8 and rounded
up, and nothing behind these octets is touched. Reading the same widths back with `klbs_read_bits`,
from any announced size from the byte count up to the buffer's, returns every value modulo its width
and meets no fault, whichever reads take the fast path. -/
theorem klbsReadFields_klbsWriteFields {orig : List Byte} (hsize : orig.length < 2 ^ 32)
    {fields : List (ℕ × ℕ)} (hwidths : ∀ f ∈ fields, 1 ≤ f.2 ∧ f.2 ≤ 64)
    (hfits : (fields.map Prod.snd).sum ≤ 8 * orig.length) :
    ∃ ctx, ctx = klbsWriteBufferComplete
        (klbsWriteFields (klbsWriteSetBuffer orig orig.length) fields) ∧
      ctx.faults = [] ∧ klbsGetByteCount ctx = ((fields.map Prod.snd).sum + 7) / 8 ∧
      ctx.buf.drop (klbsGetByteCount ctx) = orig.drop (klbsGetByteCount ctx) ∧
      ∀ (cap : ℕ) (reads : List (ℕ × Bool)), klbsGetByteCount ctx ≤ cap → cap ≤ ctx.buf.length →
        reads.map Prod.fst = fields.map Prod.snd →
        (klbsReadFields (klbsReadSetBuffer ctx.buf cap) reads).1.map BitVec.toNat =
            fields.map (fun f => f.1 % 2 ^ f.2) ∧
          (klbsReadFields (klbsReadSetBuffer ctx.buf cap) reads).2.faults = [] := by
  refine ⟨_, rfl, ?_⟩
  have hwrites := (KlbsContext.Writes.setBuffer (le_refl orig.length)).writeFields fields
  rw [List.nil_append] at hwrites
  obtain ⟨hfaults, hcount, hlen, hrest, hprefix⟩ := hwrites.completed
    (by rwa [Bits.ofFields_length])
  rw [Bits.ofFields_length] at hcount hrest hprefix
  refine ⟨hfaults, hcount, by rw [hcount]; exact hrest, fun cap reads hle hcap hreads => ?_⟩
  -- the announced octets begin with the bits of the fields
  obtain ⟨post, hpost⟩ : Bits.ofFields fields <+: Bits.ofBytes ((klbsWriteBufferComplete
      (klbsWriteFields (klbsWriteSetBuffer orig orig.length) fields)).buf.take cap) := by
    refine hprefix.trans ?_
    rw [hcount] at hle
    obtain ⟨more, hmore⟩ := List.take_prefix_take_left hle (l := (klbsWriteBufferComplete
      (klbsWriteFields (klbsWriteSetBuffer orig orig.length) fields)).buf)
    rw [← hmore, Bits.ofBytes_append]
    exact List.prefix_append _ _
  have hstart := KlbsContext.Reads.setBuffer_take hcap (by omega)
  rw [← hpost] at hstart
  exact hstart.readFields (fun f hf => (hwidths f hf).2) hreads

/-- Three fields across octets are read back, one of them modulo its width. -/
theorem klbsReadFields_klbsWriteFields_three :
    (klbsReadFields (klbsReadSetBuffer (klbsWriteBufferComplete (klbsWriteFields
        (klbsWriteSetBuffer [0, 0, 0] 3) [(5, 3), (0x3aa, 8), (0x1ff, 9)])).buf 3)
      [(3, true), (8, true), (9, false)]).1.map BitVec.toNat = [5, 0xaa, 0x1ff] := by
  obtain ⟨ctx, hctx, -, hcount, -, hread⟩ := @klbsReadFields_klbsWriteFields [0, 0, 0] (by decide)
    [(5, 3), (0x3aa, 8), (0x1ff, 9)] (by decide) (by decide)
  have hlength : ctx.buf.length = 3 := by
    rw [hctx]
    decide +kernel
  have hfields := (hread 3 [(3, true), (8, true), (9, false)] (hcount.le.trans (by decide))
    hlength.ge rfl).1
  rw [hctx] at hfields
  exact hfields.trans (by decide)

end Libklvanc
