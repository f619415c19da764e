import Libklvanc.Smpte2038.Packetizer

/-!
# What the packetizer puts into its buffer

`Holds ctx bits` says that the buffer of a packetizer carries the bit string `bits` behind the space
for the header. Every packet appended adds the fields of its line and stuffing bits to it
(`Holds.append`), and a packet of up to 255 words always fits, once the buffer has been grown
(`append_safe`). The header is written in front of the lines in the end and leaves them as they are
(`Holds.finish`).
-/

namespace Libklvanc.Smpte2038

/-! ### The bits of a line and of the header -/

/-- The stuffing bits behind fields of `n` bits. -/
def stuffing (n : ℕ) : List Bool := List.replicate ((8 - n % 8) % 8) true

/-- The line made for a packet. -/
def lineBits (pkt : KlvancPacketHeader) : List Bool :=
  Bits.ofFields (lineFields pkt) ++ stuffing (Bits.ofFields (lineFields pkt)).length

/-- The fields of a line. -/
lemma ofFields_lineFields_length (pkt : KlvancPacketHeader) :
    (Bits.ofFields (lineFields pkt)).length = 70 + 10 * pkt.payloadLengthWords := by
  have hwords : ((pkt.payload.map fun w => (w.toNat, 10)).map Prod.snd).sum =
      10 * pkt.payloadLengthWords := by
    simp [List.map_map, Function.comp_def, KlvancPacketHeader.payloadLengthWords, Nat.mul_comm]
  simp only [Bits.ofFields_length, lineFields, List.map_append, List.sum_append, hwords,
    List.map_cons, List.map_nil, List.sum_cons, List.sum_nil]
  omega

/-- The octets of a line. -/
lemma lineBits_length (pkt : KlvancPacketHeader) :
    (lineBits pkt).length = 8 * ((77 + 10 * pkt.payloadLengthWords) / 8) := by
  rw [lineBits, stuffing, List.length_append, List.length_replicate, ofFields_lineFields_length]
  omega

/-- The header takes 14 octets. -/
lemma ofFields_headerFields_length (n : ℕ) (pts : BitVec 64) :
    (Bits.ofFields (headerFields n pts)).length = 112 := by
  simp only [Bits.ofFields_length, headerFields, List.map_cons, List.map_nil, List.sum_cons,
    List.sum_nil, Nat.reduceAdd]

/-! ### The buffer -/

/-- The packetizer is well formed, and its buffer carries the bit string `bits`. -/
structure Holds (ctx : KlvancSmpte2038Packetizer) (bits : List Bool) : Prop where
  length_eq : ctx.buf.length = ctx.buflen
  buflen_le : ctx.buflen ≤ 128 * 1024
  le_buflen : 16384 ≤ ctx.buflen
  offset_le : 14 ≤ ctx.bufused
  bufused_le : ctx.bufused ≤ ctx.buflen
  buffree_eq : ctx.buffree = ctx.buflen - ctx.bufused
  bits_eq : Bits.ofBytes ((ctx.buf.take ctx.bufused).drop 14) = bits

section Holds

variable {ctx : KlvancSmpte2038Packetizer} {bits : List Bool} {fresh : ℕ → Byte}
  {pkt : KlvancPacketHeader}

/-- There is nothing behind the header in the space for the header. -/
lemma nothing_held (buf : List Byte) :
    Bits.ofBytes ((buf.take packetizerBufferResetOffset).drop 14) = [] := by
  rw [packetizerBufferResetOffset, List.drop_take_self, Bits.ofBytes_nil]

/-- A packetizer that has just been allocated holds nothing. -/
lemma holds_alloc : Holds klvancSmpte2038PacketizerAlloc [] where
  length_eq := List.length_replicate
  buflen_le := by norm_num [klvancSmpte2038PacketizerAlloc]
  le_buflen := le_rfl
  offset_le := le_rfl
  bufused_le := by norm_num [klvancSmpte2038PacketizerAlloc, packetizerBufferResetOffset]
  buffree_eq := rfl
  bits_eq := nothing_held _

/-- The free space is the difference of the two counters. -/
lemma buffer_recalc_eq (hle : ctx.bufused ≤ ctx.buflen) (hlt : ctx.buflen ≤ 128 * 1024) :
    klvancSmpte2038BufferRecalc ctx = { ctx with buffree := ctx.buflen - ctx.bufused } := by
  rw [klvancSmpte2038BufferRecalc, uintSub_of_le hle (lt_of_le_of_lt hlt (by norm_num))]

/-- Beginning a frame discards what the packetizer holds. -/
lemma Holds.begin (h : Holds ctx bits) : Holds (klvancSmpte2038PacketizerBegin ctx).2 [] := by
  have hle : packetizerBufferResetOffset ≤ ctx.buflen :=
    le_trans (by norm_num [packetizerBufferResetOffset]) h.le_buflen
  have hctx : (klvancSmpte2038PacketizerBegin ctx).2 =
      { buf := List.replicate ctx.buflen 0xff
        buflen := ctx.buflen
        bufused := packetizerBufferResetOffset
        buffree := ctx.buflen - packetizerBufferResetOffset } := by
    have hrecalc := @buffer_recalc_eq { ctx with bufused := packetizerBufferResetOffset }
      hle h.buflen_le
    rw [klvancSmpte2038PacketizerBegin, hrecalc]
  rw [hctx]
  exact ⟨List.length_replicate, h.buflen_le, h.le_buflen, le_rfl, hle, rfl, nothing_held _⟩

/-- Growing the buffer keeps what it holds. -/
lemma Holds.adjust (h : Holds ctx bits) (fresh : ℕ → Byte)
    (hle : ctx.buflen + 16384 ≤ 128 * 1024) :
    ∃ ctx', klvancSmpte2038BufferAdjust fresh ctx (ctx.buflen + 16384) = pure ctx' ∧
      Holds ctx' bits ∧ 16384 ≤ ctx'.buffree ∧ ctx'.buflen = ctx.buflen + 16384 := by
  have hlen := h.length_eq
  have hused := h.bufused_le
  rw [klvancSmpte2038BufferAdjust, if_neg (not_lt.mpr hle), if_neg (by omega),
    buffer_recalc_eq (by simp only; omega) hle]
  refine ⟨_, rfl, ⟨?_, hle, ?_, h.offset_le, ?_, rfl, ?_⟩, ?_, rfl⟩
  · simp only [List.length_append, List.length_take, List.length_map, List.length_range']
    omega
  · simp only
    omega
  · simp only
    omega
  · simp only
    rw [List.take_append_of_le_length (by rw [List.length_take]; omega), List.take_take,
      min_eq_left (by omega)]
    exact h.bits_eq
  · simp only
    omega

/-- The line that is written for a packet. -/
lemma line_writes (h : Holds ctx bits) (pkt : KlvancPacketHeader) :
    (klbsWriteBufferComplete (klbsWriteByteStuff (klbsWriteFields
      (klbsWriteSetBuffer (ctx.buf.drop ctx.bufused) ctx.buffree) (lineFields pkt)) 1)).Writes
      ctx.buffree (ctx.buf.drop ctx.bufused) (lineBits pkt) := by
  have hcap : ctx.buffree ≤ (ctx.buf.drop ctx.bufused).length := by
    rw [List.length_drop, h.length_eq, h.buffree_eq]
  have hline := ((KlbsContext.Writes.setBuffer hcap).writeFields (lineFields pkt)).writeByteStuff 1
  rw [List.nil_append] at hline
  rw [hline.writeBufferComplete]
  · exact hline
  · have hlen := lineBits_length pkt
    rw [lineBits, stuffing] at hlen
    exact Dvd.intro _ hlen.symm

/-- A line is written without a fault exactly when it fits the free space. -/
lemma safe_writeAncDataLine (h : Holds ctx bits) :
    (writeAncDataLine ctx pkt).Safe ↔ (lineBits pkt).length / 8 ≤ ctx.buffree := by
  have hline := line_writes h pkt
  have hused := hline.used_eq
  have hcap : (ctx.buf.drop ctx.bufused).length = ctx.buffree := by
    rw [List.length_drop, h.length_eq, h.buffree_eq]
  rw [Checked.Safe, writeAncDataLine]
  constructor
  · intro hfaults
    by_contra hlt
    exact hline.unsafe_of_lt (by omega) hfaults
  · intro hle
    exact hline.safe (by omega)

/-- A line that fits is appended to what the packetizer holds. -/
lemma Holds.writeAncDataLine (h : Holds ctx bits)
    (hfit : (lineBits pkt).length / 8 ≤ ctx.buffree) :
    Holds (writeAncDataLine ctx pkt).val (bits ++ lineBits pkt) := by
  have hline := line_writes h pkt
  have hlen := h.length_eq
  have hused := h.bufused_le
  have hfree := h.buffree_eq
  have hoff := h.offset_le
  have hbuf := hline.length_eq
  have hcount := hline.used_eq
  have hdvd : 8 * ((lineBits pkt).length / 8) = (lineBits pkt).length := by
    rw [lineBits_length]
    omega
  have hbits := hline.buf_eq (by omega)
  rw [hcount, hdvd, List.take_length] at hbits
  rw [List.length_drop] at hbuf
  unfold Smpte2038.writeAncDataLine klbsGetByteCount
  dsimp only
  generalize klbsWriteBufferComplete (klbsWriteByteStuff (klbsWriteFields
      (klbsWriteSetBuffer (ctx.buf.drop ctx.bufused) ctx.buffree) (lineFields pkt)) 1) = bs at *
  have htake : (ctx.buf.take ctx.bufused).length = ctx.bufused := by
    rw [List.length_take]
    omega
  have hrecalc := @buffer_recalc_eq
    { ctx with
      buf := ctx.buf.take ctx.bufused ++ bs.buf
      bufused := ctx.bufused + bs.buflenUsed }
    (by simp only; omega) h.buflen_le
  rw [hrecalc]
  refine ⟨?_, h.buflen_le, h.le_buflen, ?_, ?_, rfl, ?_⟩
  · simp only [List.length_append, htake]
    omega
  · simp only
    omega
  · simp only
    omega
  · simp only
    rw [List.take_append, htake, Nat.add_sub_cancel_left, List.take_take,
      min_eq_right (Nat.le_add_right _ _), hcount,
      List.drop_append_of_le_length (by rw [htake]; exact hoff), Bits.ofBytes_append, hbits,
      h.bits_eq]

/-- Making room for a packet keeps what the packetizer holds, unless it aborts. The buffer is grown
only when it is nearly full. -/
lemma Holds.reserve (h : Holds ctx bits) (fresh : ℕ → Byte) (reqd : ℕ) :
    (∃ ctx', Smpte2038.reserve fresh ctx reqd = pure ctx' ∧ Holds ctx' bits ∧
      min (reqd + 64) 16384 ≤ ctx'.buffree ∧
      ctx'.buflen ≤ max ctx.buflen (ctx.bufused + reqd + 64 + 16384)) ∨
    Smpte2038.reserve fresh ctx reqd = Checked.fault Fault.abort ctx ∧
      128 * 1024 < ctx.bufused + reqd + 64 + 16384 := by
  have hused := h.bufused_le
  have hfree' := h.buffree_eq
  unfold Smpte2038.reserve
  split_ifs with hfree
  · by_cases hle : ctx.buflen + 16384 ≤ 128 * 1024
    · obtain ⟨ctx', hadjust, h', hroom, hlen⟩ := h.adjust fresh hle
      exact Or.inl ⟨ctx', hadjust, h', (min_le_right _ _).trans hroom, by omega⟩
    · exact Or.inr ⟨if_pos (not_le.mp hle), by omega⟩
  · exact Or.inl ⟨ctx, rfl, h, (min_le_left _ _).trans (not_lt.mp hfree), le_max_left _ _⟩

/-- Appending a packet without a fault appends its line. -/
lemma Holds.append (h : Holds ctx bits)
    (hsafe : (klvancSmpte2038PacketizerAppend fresh ctx pkt).Safe) :
    Holds (klvancSmpte2038PacketizerAppend fresh ctx pkt).val.2 (bits ++ lineBits pkt) := by
  unfold klvancSmpte2038PacketizerAppend at hsafe ⊢
  rcases h.reserve fresh (pkt.payloadLengthWords * 2) with ⟨ctx', heq, h', -, -⟩ | ⟨heq, -⟩
  · rw [heq] at hsafe ⊢
    rw [pure_bind, Checked.safe_bind] at hsafe
    rw [pure_bind]
    exact h'.writeAncDataLine ((safe_writeAncDataLine h').mp hsafe.1)
  · rw [heq] at hsafe
    exact absurd (Checked.safe_bind.mp hsafe).1 (Checked.not_safe_fault _ _)

/-- A packet of at most 255 words is appended without a fault, unless the buffer cannot grow any
more. -/
lemma append_safe (h : Holds ctx bits) (hpkt : pkt.payloadLengthWords ≤ 255)
    (habort : Fault.abort ∉ (klvancSmpte2038PacketizerAppend fresh ctx pkt).faults) :
    (klvancSmpte2038PacketizerAppend fresh ctx pkt).Safe := by
  unfold klvancSmpte2038PacketizerAppend at habort ⊢
  rcases h.reserve fresh (pkt.payloadLengthWords * 2) with ⟨ctx', heq, h', hroom, -⟩ | ⟨heq, -⟩
  · have hlen := lineBits_length pkt
    rw [heq, pure_bind, Checked.safe_bind, safe_writeAncDataLine h']
    exact ⟨by omega, Checked.safe_pure _⟩
  · rw [heq, Checked.bind_faults] at habort
    simp at habort

/-- Far from the largest size that the buffer can have a packet is appended without a fault. -/
lemma append_safe_of_le (h : Holds ctx bits) (hpkt : pkt.payloadLengthWords ≤ 255)
    (hfit : ctx.bufused + 16958 ≤ 128 * 1024) :
    (klvancSmpte2038PacketizerAppend fresh ctx pkt).Safe := by
  unfold klvancSmpte2038PacketizerAppend
  rcases h.reserve fresh (pkt.payloadLengthWords * 2) with ⟨ctx', heq, h', hfree, -⟩ | ⟨-, habort⟩
  · have hline := lineBits_length pkt
    rw [heq, pure_bind, Checked.safe_bind, safe_writeAncDataLine h']
    exact ⟨by omega, Checked.safe_pure _⟩
  · omega

end Holds

/-! ### The header -/

/-- The fields of the header before and behind the packet length. -/
lemma headerFields_eq (n : ℕ) (pts : BitVec 64) :
    headerFields n pts = [(1, 24), (0xBD, 8)] ++ (n, 16) :: (headerFields 0 pts).drop 3 := rfl

/-- Storing the two octets of the packet length sets its field. -/
lemma ofBytes_set_pesPacketLength {l : List Byte} {pts : BitVec 64}
    (h : Bits.ofBytes l = Bits.ofFields (headerFields 0 pts)) (n : ℕ) :
    Bits.ofBytes ((l.set 4 (BitVec.ofNat 8 (n >>> 8))).set 5 (BitVec.ofNat 8 n)) =
      Bits.ofFields (headerFields n pts) := by
  have hlen : l.length = 14 := by
    have hbits := congrArg List.length h
    rw [Bits.ofBytes_length, ofFields_headerFields_length] at hbits
    omega
  obtain ⟨l₁, x, y, l₂, rfl, hl₁⟩ : ∃ l₁ x y l₂, l = l₁ ++ x :: y :: l₂ ∧ l₁.length = 4 := by
    refine ⟨l.take 4, l[4], l[5], l.drop 6, ?_, by rw [List.length_take]; omega⟩
    rw [List.getElem_cons_drop, List.getElem_cons_drop, List.take_append_drop]
  rw [headerFields_eq 0] at h
  rw [headerFields_eq n]
  rw [Bits.ofBytes_append, Bits.ofFields_append] at h
  obtain ⟨hstart, hrest⟩ := List.append_inj h (by simp [hl₁])
  rw [Bits.ofBytes_cons, Bits.ofBytes_cons, ← List.append_assoc, Bits.ofFields_cons] at hrest
  obtain ⟨-, hend⟩ := List.append_inj hrest (by simp)
  have hset : ((l₁ ++ x :: y :: l₂).set 4 (BitVec.ofNat 8 (n >>> 8))).set 5 (BitVec.ofNat 8 n) =
      l₁ ++ BitVec.ofNat 8 (n >>> 8) :: BitVec.ofNat 8 n :: l₂ := by
    rw [List.set_append_right _ _ (by omega), List.set_append_right _ _ (by omega), hl₁]
    rfl
  have hfield : Bits.ofNat 16 n = Bits.ofNat 8 (n >>> 8) ++ Bits.ofNat 8 n := Bits.ofNat_add 8 8 n
  rw [hset, Bits.ofBytes_append, Bits.ofFields_append, hstart, Bits.ofBytes_cons, Bits.ofBytes_cons,
    Bits.ofFields_cons n 16, hend, hfield, BitVec.toNat_ofNat, BitVec.toNat_ofNat, Bits.ofNat_mod,
    Bits.ofNat_mod, List.append_assoc]

/-- A store inside the buffer. -/
lemma storeByte_of_lt {buf : List Byte} {i : ℕ} (h : i < buf.length) (b : Byte) :
    storeByte buf i b = pure (buf.set i b) :=
  Checked.ext rfl (if_pos h)

section Finish

variable {ctx : KlvancSmpte2038Packetizer} {bits : List Bool}

/-- A packetizer that holds something has gone beyond the space for the header. -/
lemma Holds.bufused_ne (h : Holds ctx bits) (hne : bits ≠ []) :
    ctx.bufused ≠ packetizerBufferResetOffset := by
  intro hused
  refine hne ?_
  rw [← h.bits_eq, hused, nothing_held]

/-- The header is written in front of what the packetizer holds. -/
lemma Holds.finish (h : Holds ctx bits) (hne : ctx.bufused ≠ packetizerBufferResetOffset)
    (pts : BitVec 64) :
    ∃ ctx', klvancSmpte2038PacketizerEnd ctx pts = pure (0, ctx') ∧ Holds ctx' bits ∧
      Bits.ofBytes (ctx'.buf.take ctx'.bufused) =
        Bits.ofFields (headerFields (ctx.bufused - 6) pts) ++ bits := by
  have hle := h.le_buflen
  have hlen := h.length_eq
  have hused := h.bufused_le
  have hoff := h.offset_le
  have hwrites := (KlbsContext.Writes.setBuffer (show 15 ≤ ctx.buf.length by omega)).writeFields
    (headerFields 0 pts)
  rw [List.nil_append] at hwrites
  have hbits := ofFields_headerFields_length 0 pts
  have hcomplete := hwrites.writeBufferComplete (by rw [hbits]; decide)
  unfold klvancSmpte2038PacketizerEnd
  dsimp only
  rw [if_neg hne, hcomplete]
  generalize klbsWriteFields (klbsWriteSetBuffer ctx.buf 15) (headerFields 0 pts) = bs at hwrites ⊢
  have hcount : bs.buflenUsed = 14 := by rw [hwrites.used_eq, hbits]
  have hbuf := hwrites.length_eq
  have hrest := hwrites.rest_eq
  have hsafe := hwrites.safe (by omega)
  have hheader := hwrites.buf_eq (by omega)
  rw [hcount] at hrest hheader
  rw [show 8 * 14 = (Bits.ofFields (headerFields 0 pts)).length from hbits.symm,
    List.take_length] at hheader
  have hset := ofBytes_set_pesPacketLength hheader (ctx.bufused - 6)
  have hdrop : (((bs.buf.set 4 (BitVec.ofNat 8 ((ctx.bufused - 6) >>> 8))).set 5
      (BitVec.ofNat 8 (ctx.bufused - 6))).take ctx.bufused).drop 14 =
        (ctx.buf.take ctx.bufused).drop 14 := by
    rw [List.drop_take, List.drop_set_of_lt (by norm_num), List.drop_set_of_lt (by norm_num), hrest,
      ← List.drop_take]
  refine ⟨{ ctx with
    buf := (bs.buf.set 4 (BitVec.ofNat 8 ((ctx.bufused - 6) >>> 8))).set 5
      (BitVec.ofNat 8 (ctx.bufused - 6)) },
    ?_, ⟨?_, h.buflen_le, hle, hoff, hused, h.buffree_eq, ?_⟩, ?_⟩
  · rw [hsafe]
    change (pure bs.buf >>= fun buf => _) = _
    rw [pure_bind, storeByte_of_lt (by omega), pure_bind,
      storeByte_of_lt (by rw [List.length_set]; omega), pure_bind]
  · rw [List.length_set, List.length_set, hbuf, hlen]
  · exact (congrArg Bits.ofBytes hdrop).trans h.bits_eq
  · dsimp only
    rw [← List.take_append_drop 14 (List.take ctx.bufused _), hdrop, List.take_take,
      min_eq_left hoff, List.take_set, List.take_set, Bits.ofBytes_append, hset, h.bits_eq]

end Finish

end Libklvanc.Smpte2038
