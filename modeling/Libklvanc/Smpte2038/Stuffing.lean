import Libklvanc.Smpte2038.RoundTrip

/-!
# Stuffing behind the lines

Stuffing octets behind the last line are skipped when the fields of this line end with an octet;
otherwise up to four of them are left, and more are taken for a line, which is rejected
(`stuffingIgnored_iff`).
-/

namespace Libklvanc.Smpte2038

/-- The octets that `klvanc_smpte2038_packetizer_append` adds to a packetizer that has just been
allocated. Those added to any other one are the same (`Holds.append`). -/
def appendedOctets (pkt : KlvancPacketHeader) : List Byte :=
  let ctx := (klvancSmpte2038PacketizerAppend (fun _ => 0) klvancSmpte2038PacketizerAlloc pkt).val.2
  (ctx.buf.take ctx.bufused).drop packetizerBufferResetOffset

/-- Stuffing octets behind a payload are ignored: they change neither the return value 0 nor the
lines. -/
def StuffingIgnored (bytes : List Byte) (k : ℕ) : Prop :=
  let alone := klvancSmpte2038ParsePesPayload bytes bytes.length
  let stuffed := klvancSmpte2038ParsePesPayload (bytes ++ List.replicate k 0xff) (bytes.length + k)
  alone.Safe ∧ stuffed.Safe ∧ stuffed.val.1 = 0 ∧ stuffed.val.2.lines = alone.val.2.lines

section Stuffing

variable {pkts : List KlvancPacketHeader} {pkt : KlvancPacketHeader} {k : ℕ}

/-- They are the bits of the line. -/
lemma ofBytes_appendedOctets (hpkt : pkt.payloadLengthWords ≤ 255) :
    Bits.ofBytes (appendedOctets pkt) = lineBits pkt := by
  have hsafe := @append_safe_of_le _ _ (fun _ => 0) pkt holds_alloc hpkt
    (show 14 + 16958 ≤ 128 * 1024 by norm_num)
  exact (holds_alloc.append hsafe).bits_eq

lemma ofBytes_flatMap_appendedOctets (hpkts : ∀ p ∈ pkts, p.payloadLengthWords ≤ 255) :
    Bits.ofBytes (pkts.flatMap appendedOctets) = pkts.flatMap lineBits := by
  induction pkts with
  | nil => rfl
  | cons p ps ih =>
    rw [List.flatMap_cons, List.flatMap_cons, Bits.ofBytes_append,
      ofBytes_appendedOctets (hpkts p List.mem_cons_self),
      ih fun q hq => hpkts q (List.mem_cons_of_mem p hq)]

lemma ofBytes_replicate_ones (k : ℕ) :
    Bits.ofBytes (List.replicate k 0xff) = List.replicate (8 * k) true := by
  induction k with
  | zero => rfl
  | succ k ih =>
    rw [List.replicate_succ, Bits.ofBytes_cons, ih, Nat.mul_succ, Nat.add_comm, List.replicate_add]
    rfl

lemma flatMap_appendedOctets_length (hpkts : ∀ p ∈ pkts, p.payloadLengthWords ≤ 255) :
    (pkts.flatMap appendedOctets).length = lineOctets pkts := by
  have hbits := congrArg List.length (ofBytes_flatMap_appendedOctets hpkts)
  rw [Bits.ofBytes_length, flatMap_lineBits_length] at hbits
  omega

/-- What is made of the lines followed by stuffing. With more octets than an `int` can hold it is
nothing. -/
lemma klvancSmpte2038ParsePesPayload_lines (hpkts : ∀ p ∈ pkts ++ [pkt], p.payloadLengthWords ≤ 255)
    {bytes : List Byte} (hbytes : bytes = (pkts ++ [pkt]).flatMap appendedOctets ++
      List.replicate k 0xff) (hlt : bytes.length < 2 ^ 32) :
    klvancSmpte2038ParsePesPayload bytes bytes.length =
      if bytes.length < 2 ^ 31 then
        pure (if k ≤ 4 ∨ pkt.payloadLengthWords % 4 = 1 then 0 else -1,
          { lines := (pkts ++ [pkt]).map readBack })
      else pure (0, {}) := by
  have hreads := KlbsContext.Reads.setBuffer hlt
  have hbits : Bits.ofBytes bytes =
      (pkts ++ [pkt]).flatMap lineBits ++ List.replicate (8 * k) true := by
    rw [hbytes, Bits.ofBytes_append, ofBytes_flatMap_appendedOctets hpkts, ofBytes_replicate_ones]
  have hlen : bytes.length = lineOctets (pkts ++ [pkt]) + k := by
    rw [hbytes, List.length_append, flatMap_appendedOctets_length hpkts, List.length_replicate]
  split_ifs with hsmall hk
  · rw [hbits] at hreads
    obtain ⟨bs, hfaults, hrun⟩ := parsePesPayloadInt_lines hpkts hreads (by omega)
    rw [if_pos hk] at hrun
    rw [klvancSmpte2038ParsePesPayload, hrun]
    exact Checked.ext rfl hfaults
  · rw [hbits] at hreads
    obtain ⟨bs, hfaults, hrun⟩ := parsePesPayloadInt_lines hpkts hreads (by omega)
    rw [if_neg hk] at hrun
    rw [klvancSmpte2038ParsePesPayload, hrun]
    exact Checked.ext rfl hfaults
  · have hrun : parsePesPayloadInt (klbsReadSetBuffer bytes bytes.length) = ((0, []), _) :=
      parsePesPayloadLoop_huge hreads (by rw [Bits.ofBytes_length]; omega) _
    rw [klvancSmpte2038ParsePesPayload, hrun]
    rfl

/-- Stuffing behind lines is ignored exactly when there are at most four octets of it or the last
line ends with an octet. (An `int` must be able to hold the number of octets, or not even that of
the lines.) -/
theorem stuffingIgnored_iff (hpkts : ∀ p ∈ pkts ++ [pkt], p.payloadLengthWords ≤ 255)
    (hlt : ((pkts ++ [pkt]).flatMap appendedOctets).length + k < 2 ^ 32) :
    StuffingIgnored ((pkts ++ [pkt]).flatMap appendedOctets) k ↔
      2 ^ 31 ≤ ((pkts ++ [pkt]).flatMap appendedOctets).length ∨
        ((pkts ++ [pkt]).flatMap appendedOctets).length + k < 2 ^ 31 ∧
          (k ≤ 4 ∨ pkt.payloadLengthWords % 4 = 1) := by
  have hlen : ((pkts ++ [pkt]).flatMap appendedOctets ++ List.replicate k 0xff).length =
      ((pkts ++ [pkt]).flatMap appendedOctets).length + k := by
    rw [List.length_append, List.length_replicate]
  have halone := klvancSmpte2038ParsePesPayload_lines (k := 0) hpkts (List.append_nil _).symm
    (by omega)
  have hstuffed := klvancSmpte2038ParsePesPayload_lines hpkts rfl (by rw [hlen]; exact hlt)
  rw [if_pos (Or.inl (Nat.zero_le 4))] at halone
  rw [hlen] at hstuffed
  unfold StuffingIgnored
  dsimp only
  rw [halone, hstuffed]
  generalize ((pkts ++ [pkt]).flatMap appendedOctets).length = n at *
  by_cases hn : n < 2 ^ 31
  · by_cases hnk : n + k < 2 ^ 31
    · rw [if_pos hn, if_pos hnk]
      by_cases hk : k ≤ 4 ∨ pkt.payloadLengthWords % 4 = 1
      · rw [if_pos hk]
        exact iff_of_true ⟨rfl, rfl, rfl, rfl⟩ (Or.inr ⟨hnk, hk⟩)
      · rw [if_neg hk]
        refine iff_of_false (fun h => absurd h.2.2.1 (by norm_num)) ?_
        rintro (h | h)
        · omega
        · exact hk h.2
    · -- the lines alone are parsed, those with the stuffing are not
      rw [if_pos hn, if_neg hnk]
      refine iff_of_false (fun h => ?_) (by omega)
      have hlines : [] = (pkts ++ [pkt]).map readBack := h.2.2.2
      rw [List.map_append] at hlines
      exact List.append_ne_nil_of_right_ne_nil _ (List.cons_ne_nil _ _) hlines.symm
  · rw [if_neg hn, if_neg (by omega)]
    exact iff_of_true ⟨rfl, rfl, rfl, rfl⟩ (Or.inl (by omega))

/-- Four octets of stuffing behind the longest line are ignored. -/
theorem stuffingIgnored_four :
    StuffingIgnored (([] ++ [longestHeader]).flatMap appendedOctets) 4 := by
  have hle : ∀ p ∈ [] ++ [longestHeader], p.payloadLengthWords ≤ 255 := fun p h =>
    @replicate_payloadLengthWords_le 1 p h
  have hlen := flatMap_appendedOctets_length hle
  rw [show lineOctets ([] ++ [longestHeader]) = 1 * 328 from lineOctets_replicate 1] at hlen
  refine (stuffingIgnored_iff hle ?_).mpr (Or.inr ⟨?_, Or.inl le_rfl⟩)
  · rw [hlen]
    norm_num
  · rw [hlen]
    norm_num

/-- Five of them are not. -/
theorem not_stuffingIgnored_five :
    ¬StuffingIgnored (([] ++ [longestHeader]).flatMap appendedOctets) 5 := by
  have hle : ∀ p ∈ [] ++ [longestHeader], p.payloadLengthWords ≤ 255 := fun p h =>
    @replicate_payloadLengthWords_le 1 p h
  have hlen := flatMap_appendedOctets_length hle
  rw [show lineOctets ([] ++ [longestHeader]) = 1 * 328 from lineOctets_replicate 1] at hlen
  have hbytes : ((([] ++ [longestHeader]).flatMap appendedOctets) ++ List.replicate 5 0xff).length =
      333 := by
    rw [List.length_append, hlen, List.length_replicate]
  have hstuffed := klvancSmpte2038ParsePesPayload_lines hle rfl (by rw [hbytes]; norm_num)
  rw [hbytes, if_pos (by norm_num), longestHeader_payloadLengthWords,
    if_neg (by norm_num)] at hstuffed
  rintro ⟨-, -, hret, -⟩
  rw [hlen, show 1 * 328 + 5 = 333 from rfl, hstuffed] at hret
  exact absurd hret (by norm_num)

end Stuffing

end Libklvanc.Smpte2038
