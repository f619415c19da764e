import Libklvanc.Core.PacketRoundTrip
import Libklvanc.Smpte2038.Packetized

/-!
# Frames made by the packetizer

A run of the packetizer over a frame (`packetizeFrame`) that does not abort is safe and puts out the
PES header and the lines of the packets appended (`packetizeFrame_eq`). The length in the header has
16 bits, the buffer may hold twice as much and nothing is checked, so that the length is right
exactly for frames that are small enough (`packetizeFrame_pesPacketLength_iff`).
-/

namespace Libklvanc.Smpte2038

/-! ### Appending packets -/

section Append

variable {ctx : KlvancSmpte2038Packetizer} {bits : List Bool} {fresh : ℕ → Byte}
  {pkts : List KlvancPacketHeader}

/-- Appending packets of at most 255 words is safe, unless the buffer cannot grow any more, and
appends their lines. -/
lemma Holds.appendPackets (h : Holds ctx bits) (hpkts : ∀ pkt ∈ pkts, pkt.payloadLengthWords ≤ 255)
    (habort : Fault.abort ∉ (appendPackets fresh ctx pkts).faults) :
    (appendPackets fresh ctx pkts).Safe ∧
      Holds (appendPackets fresh ctx pkts).val (bits ++ pkts.flatMap lineBits) := by
  induction pkts generalizing ctx bits with
  | nil =>
    rw [List.flatMap_nil, List.append_nil]
    exact ⟨Checked.safe_pure _, h⟩
  | cons pkt pkts ih =>
    rw [Smpte2038.appendPackets, Checked.bind_faults, List.mem_append, not_or] at habort
    have hsafe := append_safe h (hpkts pkt List.mem_cons_self) habort.1
    obtain ⟨hsafe', hholds⟩ := ih (h.append hsafe) (fun p hp => hpkts p (List.mem_cons_of_mem _ hp))
      habort.2
    rw [List.flatMap_cons, ← List.append_assoc]
    exact ⟨Checked.safe_bind.mpr ⟨hsafe, hsafe'⟩, hholds⟩

/-- A packetizer that is reached holds some bits. -/
lemma Reachable.holds (h : Reachable ctx) : ∃ bits, Holds ctx bits := by
  induction h with
  | alloc => exact ⟨[], holds_alloc⟩
  | packetizerBegin _ ih =>
    obtain ⟨bits, hholds⟩ := ih
    exact ⟨[], hholds.begin⟩
  | packetizerAppend _ fresh pkt hsafe ih =>
    obtain ⟨bits, hholds⟩ := ih
    exact ⟨bits ++ lineBits pkt, hholds.append hsafe⟩
  | @packetizerEnd ctx _ pts ih =>
    obtain ⟨bits, hholds⟩ := ih
    by_cases hused : ctx.bufused = packetizerBufferResetOffset
    · rw [klvancSmpte2038PacketizerEnd, if_pos hused]
      exact ⟨bits, hholds⟩
    · obtain ⟨ctx', heq, hholds', -⟩ := hholds.finish hused pts
      rw [heq]
      exact ⟨bits, hholds'⟩

/-- The octets used are those of the header and of what is held. -/
lemma Holds.bufused_eq (h : Holds ctx bits) : 8 * (ctx.bufused - 14) = bits.length := by
  have hused := h.bufused_le
  have hlen := h.length_eq
  rw [← h.bits_eq, Bits.ofBytes_length, List.length_drop, List.length_take]
  omega

/-- The octets of the lines of several packets. -/
def lineOctets (pkts : List KlvancPacketHeader) : ℕ :=
  (pkts.map fun pkt => (77 + 10 * pkt.payloadLengthWords) / 8).sum

/-- Every packet has a line. -/
lemma flatMap_lineBits_ne_nil (hne : pkts ≠ []) : pkts.flatMap lineBits ≠ [] := by
  obtain ⟨pkt, pkts, rfl⟩ := List.exists_cons_of_ne_nil hne
  refine List.ne_nil_of_length_pos ?_
  rw [List.flatMap_cons, List.length_append, lineBits_length]
  omega

/-- The bits of the lines of several packets. -/
lemma flatMap_lineBits_length (pkts : List KlvancPacketHeader) :
    (pkts.flatMap lineBits).length = 8 * lineOctets pkts := by
  induction pkts with
  | nil => rfl
  | cons pkt pkts ih =>
    rw [List.flatMap_cons, List.length_append, lineBits_length, ih, lineOctets, lineOctets,
      List.map_cons, List.sum_cons]
    omega

/-- Packets whose lines leave some space below the largest size of the buffer are appended without a
fault. -/
lemma appendPackets_safe_of_le (h : Holds ctx bits)
    (hpkts : ∀ pkt ∈ pkts, pkt.payloadLengthWords ≤ 255)
    (hfit : ctx.bufused + lineOctets pkts + 16958 ≤ 128 * 1024) :
    (appendPackets fresh ctx pkts).Safe := by
  induction pkts generalizing ctx bits with
  | nil => exact Checked.safe_pure _
  | cons pkt pkts ih =>
    rw [lineOctets, List.map_cons, List.sum_cons] at hfit
    have hsafe := @append_safe_of_le ctx bits fresh pkt h (hpkts pkt List.mem_cons_self) (by omega)
    have hholds := h.append hsafe
    have hused := h.bufused_eq
    have hused' := hholds.bufused_eq
    have hoff := h.offset_le
    have hoff' := hholds.offset_le
    rw [List.length_append, lineBits_length] at hused'
    have hrest := ih hholds (fun p hp => hpkts p (List.mem_cons_of_mem _ hp))
      (by rw [lineOctets]; omega)
    exact Checked.safe_bind.mpr ⟨hsafe, hrest⟩

end Append

/-! ### Frames -/

section Frame

variable {ctx : KlvancSmpte2038Packetizer} {bits : List Bool} {fresh : ℕ → Byte}
  {pkts : List KlvancPacketHeader} {pts : BitVec 64}

lemma packetizeFrame_def (fresh : ℕ → Byte) (ctx : KlvancSmpte2038Packetizer)
    (pkts : List KlvancPacketHeader) (pts : BitVec 64) :
    packetizeFrame fresh ctx pkts pts =
      appendPackets fresh (klvancSmpte2038PacketizerBegin ctx).2 pkts >>= fun ctx =>
        klvancSmpte2038PacketizerEnd ctx pts :=
  rfl

/-- A frame with packets is put out as the header and the lines of the packets. -/
theorem packetizeFrame_eq (h : Holds ctx bits) (hne : pkts ≠ [])
    (hpkts : ∀ pkt ∈ pkts, pkt.payloadLengthWords ≤ 255)
    (habort : Fault.abort ∉ (packetizeFrame fresh ctx pkts pts).faults) :
    ∃ ctx', packetizeFrame fresh ctx pkts pts = pure (0, ctx') ∧
      Holds ctx' (pkts.flatMap lineBits) ∧ ctx'.bufused = 14 + lineOctets pkts ∧
      Bits.ofBytes (ctx'.buf.take ctx'.bufused) =
        Bits.ofFields (headerFields (ctx'.bufused - 6) pts) ++ pkts.flatMap lineBits := by
  rw [packetizeFrame_def] at habort ⊢
  rw [Checked.bind_faults, List.mem_append, not_or] at habort
  obtain ⟨hsafe, hholds⟩ := h.begin.appendPackets hpkts habort.1
  rw [List.nil_append] at hholds
  obtain ⟨ctx', hend, hholds', hout⟩ :=
    hholds.finish (hholds.bufused_ne (flatMap_lineBits_ne_nil hne)) pts
  have hpure : appendPackets fresh (klvancSmpte2038PacketizerBegin ctx).2 pkts =
      pure (appendPackets fresh (klvancSmpte2038PacketizerBegin ctx).2 pkts).val :=
    Checked.ext rfl hsafe
  have hused := hholds.bufused_eq
  have hused' := hholds'.bufused_eq
  have hoff := hholds.offset_le
  have hoff' := hholds'.offset_le
  have hlen := flatMap_lineBits_length pkts
  refine ⟨ctx', ?_, hholds', by omega, ?_⟩
  · rw [hpure, pure_bind, hend]
  · rw [hout]
    congr 3
    omega

/-- A frame does not abort when its lines leave some space, whatever the packetizer has been used
for. -/
lemma not_abort_of_le (h : Holds ctx bits) (hne : pkts ≠ [])
    (hpkts : ∀ pkt ∈ pkts, pkt.payloadLengthWords ≤ 255) (hfit : lineOctets pkts ≤ 114100) :
    Fault.abort ∉ (packetizeFrame fresh ctx pkts pts).faults := by
  have hbegin := h.begin
  have hsafe : (appendPackets fresh (klvancSmpte2038PacketizerBegin ctx).2 pkts).Safe :=
    appendPackets_safe_of_le hbegin hpkts (show 14 + lineOctets pkts + 16958 ≤ 128 * 1024 by omega)
  have habort : Fault.abort ∉
      (appendPackets fresh (klvancSmpte2038PacketizerBegin ctx).2 pkts).faults := by
    rw [hsafe]
    exact List.not_mem_nil
  obtain ⟨-, hholds⟩ := hbegin.appendPackets hpkts habort
  rw [List.nil_append] at hholds
  obtain ⟨ctx', hend, -⟩ := hholds.finish (hholds.bufused_ne (flatMap_lineBits_ne_nil hne)) pts
  rw [packetizeFrame_def, Checked.bind_faults, hsafe, hend]
  exact List.not_mem_nil

/-- A frame without packets is not put out. -/
lemma packetizeFrame_nil (fresh : ℕ → Byte) (ctx : KlvancSmpte2038Packetizer) (pts : BitVec 64) :
    (packetizeFrame fresh ctx [] pts).val.1 = -1 := rfl

/-- The octets of the length field. -/
lemma pesPacketLength_eq {l : List Byte} {n : ℕ}
    (h : Bits.ofBytes l = Bits.ofFields (headerFields n pts) ++ bits) :
    (l.getD 4 0).toNat * 256 + (l.getD 5 0).toNat = n % 2 ^ 16 := by
  have hlen := congrArg List.length h
  rw [Bits.ofBytes_length, List.length_append, ofFields_headerFields_length] at hlen
  obtain ⟨l₁, x, y, l₂, rfl, hl₁⟩ : ∃ l₁ x y l₂, l = l₁ ++ x :: y :: l₂ ∧ l₁.length = 4 := by
    refine ⟨l.take 4, l[4], l[5], l.drop 6, ?_, by rw [List.length_take]; omega⟩
    rw [List.getElem_cons_drop, List.getElem_cons_drop, List.take_append_drop]
  rw [headerFields_eq, Bits.ofBytes_append, Bits.ofFields_append, List.append_assoc] at h
  obtain ⟨-, hrest⟩ := List.append_inj h (by simp [hl₁])
  rw [Bits.ofBytes_cons, Bits.ofBytes_cons, Bits.ofFields_cons, ← List.append_assoc,
    List.append_assoc (Bits.ofNat 16 n)] at hrest
  obtain ⟨hfield, -⟩ := List.append_inj hrest (by simp)
  have hvalue := congrArg Bits.toNat hfield
  rw [Bits.toNat_append, Bits.toNat_ofNat, Bits.toNat_ofNat, Bits.toNat_ofNat, Bits.ofNat_length,
    Nat.mod_eq_of_lt x.isLt, Nat.mod_eq_of_lt y.isLt] at hvalue
  rw [← hvalue, List.getD_append_right _ _ _ _ hl₁.le, List.getD_append_right _ _ _ _ (by omega),
    hl₁]
  rfl

/-- The length in the header put out. -/
def storedPesPacketLength (ctx : KlvancSmpte2038Packetizer) : ℕ :=
  (ctx.buf.getD 4 0).toNat * 256 + (ctx.buf.getD 5 0).toNat

/-- The length stored is that of the frame modulo `2 ^ 16`. -/
lemma packetizeFrame_storedPesPacketLength (h : Holds ctx bits) (hne : pkts ≠ [])
    (hpkts : ∀ pkt ∈ pkts, pkt.payloadLengthWords ≤ 255)
    (habort : Fault.abort ∉ (packetizeFrame fresh ctx pkts pts).faults) :
    (packetizeFrame fresh ctx pkts pts).val.1 = 0 ∧
      (packetizeFrame fresh ctx pkts pts).val.2.bufused - 6 = 8 + lineOctets pkts ∧
      storedPesPacketLength (packetizeFrame fresh ctx pkts pts).val.2 =
        (8 + lineOctets pkts) % 2 ^ 16 := by
  obtain ⟨ctx', heq, hholds', hused, hout⟩ := packetizeFrame_eq h hne hpkts habort
  have hlength := pesPacketLength_eq hout
  have hle := hholds'.bufused_le
  have hlen := hholds'.length_eq
  have htake : ∀ i, i < 14 → (ctx'.buf.take ctx'.bufused).getD i 0 = ctx'.buf.getD i 0 := by
    intro i hi
    have hoff := hholds'.offset_le
    rw [List.getD_eq_getElem _ _ (by rw [List.length_take]; omega),
      List.getD_eq_getElem _ _ (by omega), List.getElem_take]
  rw [htake 4 (by norm_num), htake 5 (by norm_num)] at hlength
  rw [heq]
  have hfield : ctx'.bufused - 6 = 8 + lineOctets pkts := by omega
  rw [hfield] at hlength
  exact ⟨rfl, hfield, hlength⟩

/-- A frame put out carries its length exactly when its lines take at most 65527 octets. -/
theorem packetizeFrame_pesPacketLength_iff (hctx : Reachable ctx)
    (hpkts : ∀ pkt ∈ pkts, pkt.payloadLengthWords ≤ 255)
    (habort : Fault.abort ∉ (packetizeFrame fresh ctx pkts pts).faults) :
    ((packetizeFrame fresh ctx pkts pts).val.1 = 0 →
      storedPesPacketLength (packetizeFrame fresh ctx pkts pts).val.2 =
        (packetizeFrame fresh ctx pkts pts).val.2.bufused - 6) ↔ lineOctets pkts ≤ 65527 := by
  obtain ⟨bits, hholds⟩ := hctx.holds
  by_cases hne : pkts = []
  · subst hne
    rw [packetizeFrame_nil]
    exact iff_of_true (fun h => absurd h (by norm_num)) (Nat.zero_le _)
  · obtain ⟨hret, hfield, hstored⟩ := packetizeFrame_storedPesPacketLength hholds hne hpkts habort
    rw [hfield, hstored]
    constructor
    · intro h
      have hmod := h hret
      omega
    · intro hle _
      omega

end Frame

/-- The arguments of the longest packet pass the test. -/
lemma longestPacket_isWellFormed :
    SdiPacket.isWellFormed 0x45 0x01 (List.replicate 255 0) = true := by
  rw [SdiPacket.isWellFormed, List.length_replicate]
  rfl

/-- A packet of 255 octets. -/
def longestPacket : SdiPacket :=
  .ofBytes 0x45 0x01 (List.replicate 255 0) longestPacket_isWellFormed

/-- The header that `klvanc_packet_parse` makes of it on line 9. -/
def longestHeader : KlvancPacketHeader := longestPacket.header 9 longestPacket.words 0

lemma longestHeader_payloadLengthWords : longestHeader.payloadLengthWords = 255 := by
  rw [longestHeader, SdiPacket.header, KlvancPacketHeader.payloadLengthWords, List.length_map]
  exact List.length_replicate

/-- Such packets take 328 octets each. -/
lemma lineOctets_replicate (n : ℕ) : lineOctets (List.replicate n longestHeader) = n * 328 := by
  rw [lineOctets, List.map_replicate, List.sum_replicate, longestHeader_payloadLengthWords]
  rfl

lemma replicate_payloadLengthWords_le {n : ℕ} {pkt : KlvancPacketHeader}
    (h : pkt ∈ List.replicate n longestHeader) : pkt.payloadLengthWords ≤ 255 := by
  rw [List.eq_of_mem_replicate h, longestHeader_payloadLengthWords]

/-- The length of a frame with one packet is right. -/
theorem packetizeFrame_pesPacketLength_one :
    (packetizeFrame (fun _ => 0) klvancSmpte2038PacketizerAlloc [longestHeader] 0).val.1 = 0 ∧
      storedPesPacketLength
          (packetizeFrame (fun _ => 0) klvancSmpte2038PacketizerAlloc [longestHeader] 0).val.2 =
        (packetizeFrame (fun _ => 0) klvancSmpte2038PacketizerAlloc
          [longestHeader] 0).val.2.bufused - 6 := by
  have hlen : lineOctets [longestHeader] = 1 * 328 := lineOctets_replicate 1
  have hle : ∀ pkt ∈ [longestHeader], pkt.payloadLengthWords ≤ 255 := fun pkt h =>
    @replicate_payloadLengthWords_le 1 pkt h
  have hne := List.cons_ne_nil longestHeader []
  have habort := @not_abort_of_le _ _ (fun _ => 0) _ 0 holds_alloc hne hle (by omega)
  have hret := (packetizeFrame_storedPesPacketLength holds_alloc hne hle habort).1
  exact ⟨hret, (packetizeFrame_pesPacketLength_iff .alloc hle habort).mpr (by omega) hret⟩

/-- The length of a frame with 200 packets is not. -/
theorem packetizeFrame_pesPacketLength_wraps :
    (packetizeFrame (fun _ => 0) klvancSmpte2038PacketizerAlloc (List.replicate 200 longestHeader)
        0).val.1 = 0 ∧
      storedPesPacketLength (packetizeFrame (fun _ => 0) klvancSmpte2038PacketizerAlloc
          (List.replicate 200 longestHeader) 0).val.2 ≠
        (packetizeFrame (fun _ => 0) klvancSmpte2038PacketizerAlloc
          (List.replicate 200 longestHeader) 0).val.2.bufused - 6 := by
  have hlen := lineOctets_replicate 200
  have hne : List.replicate 200 longestHeader ≠ [] := List.cons_ne_nil _ _
  have hle : ∀ pkt ∈ List.replicate 200 longestHeader, pkt.payloadLengthWords ≤ 255 :=
    fun pkt h => replicate_payloadLengthWords_le h
  have habort := @not_abort_of_le _ _ (fun _ => 0) _ 0 holds_alloc hne hle (by rw [hlen]; norm_num)
  obtain ⟨hret, hfield, hstored⟩ :=
    packetizeFrame_storedPesPacketLength holds_alloc hne hle habort
  refine ⟨hret, ?_⟩
  rw [hfield, hstored, hlen]
  norm_num

end Libklvanc.Smpte2038
