import Libklvanc.Smpte2038.Frames
import Libklvanc.Smpte2038.Safety

/-!
# Reading back what the packetizer writes

The lines that the packetizer writes are read back one by one (`parsePesPayloadLoop_lines`): the
stuffing behind a line is skipped, and the zero bit that begins the next one is not taken for
stuffing. With the header, a frame comes back as the packets it was made of
(`packetizeFrame_roundTrip`).
-/

namespace Libklvanc.Smpte2038

open KlbsDecoder

/-! ### One line -/

/-- The line that is read back for a packet. -/
def readBack (pkt : KlvancPacketHeader) : KlvancSmpte2038AncDataLine where
  reserved000000 := 0
  cNotYChannelFlag := 0
  lineNumber := BitVec.ofNat 16 (pkt.lineNr % 2 ^ 11)
  horizontalOffset := 0
  did := BitVec.ofNat 16 ((addParity pkt.did).toNat % 2 ^ 10)
  sdid := BitVec.ofNat 16 ((addParity pkt.dbnsdid).toNat % 2 ^ 10)
  dataCount := addParity (BitVec.ofNat 16 pkt.payloadLengthWords)
  userDataWords := pkt.payload.map fun w => BitVec.ofNat 16 (w.toNat % 2 ^ 10)
  checksumWord := BitVec.ofNat 16 (pkt.checksum.toNat % 2 ^ 10)

section Line

variable {pkt : KlvancPacketHeader}

/-- Parity bits are added to the low octet. -/
lemma addParity_octet (b : Byte) :
    (addParity (b.setWidth 16)).toNat < 2 ^ 10 ∧ vanc8 (addParity (b.setWidth 16)) = b.toNat := by
  revert b
  decide +kernel

/-- The data count with parity bits. -/
lemma addParity_count {n : ℕ} (hn : n ≤ 255) :
    (addParity (BitVec.ofNat 16 n)).toNat < 2 ^ 10 ∧ vanc8 (addParity (BitVec.ofNat 16 n)) = n := by
  have hoctet := addParity_octet (BitVec.ofNat 8 n)
  have hwide : (BitVec.ofNat 8 n).setWidth 16 = BitVec.ofNat 16 n := by
    apply BitVec.eq_of_toNat_eq
    simp only [BitVec.toNat_ofNat, BitVec.toNat_setWidth]
    omega
  rw [hwide, BitVec.toNat_ofNat, Nat.mod_eq_of_lt (by omega)] at hoctet
  exact hoctet

/-- The fields before the words are read back. -/
lemma readAncDataHeader_yields_lineFields (hpkt : pkt.payloadLengthWords ≤ 255) :
    (readAncDataHeader 0 0).Yields
      (Bits.ofFields [(pkt.lineNr, 11), (0, 12), ((addParity pkt.did).toNat, 10),
        ((addParity pkt.dbnsdid).toNat, 10),
        ((addParity (BitVec.ofNat 16 pkt.payloadLengthWords)).toNat, 10)])
      { readBack pkt with userDataWords := [], checksumWord := 0 } := by
  have hcount := (addParity_count hpkt).1
  have h := readAncDataHeader_yields 0 0 (Nat.mod_lt pkt.lineNr (Nat.two_pow_pos 11))
    (show 0 < 2 ^ 12 by norm_num) (Nat.mod_lt (addParity pkt.did).toNat (Nat.two_pow_pos 10))
    (Nat.mod_lt (addParity pkt.dbnsdid).toNat (Nat.two_pow_pos 10)) hcount
  simp only [Bits.ofFields_cons, Bits.ofNat_mod, BitVec.ofNat_toNat, BitVec.setWidth_eq] at h ⊢
  exact h

/-- The words are read back. -/
lemma readAncDataWords_yields (hpkt : pkt.payloadLengthWords ≤ 255) :
    (readAncDataWords { readBack pkt with userDataWords := [], checksumWord := 0 }).Yields
      (Bits.ofFields (pkt.payload.map (fun w => (w.toNat, 10)) ++ [(pkt.checksum.toNat, 10)]))
      (readBack pkt) := by
  have hcount : vanc8 (readBack pkt).dataCount = pkt.payload.length := (addParity_count hpkt).2
  rw [readAncDataWords, hcount, Bits.ofFields_append]
  exact (readUserDataWords_yields pkt.payload).bind <|
    (Yields.readBits_mod 16 (by norm_num) pkt.checksum.toNat).bind (.pure _)

/-- The line written for a packet is read back. -/
lemma parseAncDataLine_yields (hpkt : pkt.payloadLengthWords ≤ 255) :
    parseAncDataLine.Yields (Bits.ofFields (lineFields pkt)) (readBack pkt) := by
  have hcount : vanc8 (readBack pkt).dataCount = pkt.payload.length := (addParity_count hpkt).2
  have hwords := readAncDataWords_yields hpkt
  have hlen : (Bits.ofFields (pkt.payload.map (fun w => (w.toNat, 10)) ++
      [(pkt.checksum.toNat, 10)])).length = 10 * (pkt.payload.length + 1) := by
    have hfields := ofFields_lineFields_length pkt
    rw [lineFields, List.append_assoc, Bits.ofFields_append, List.length_append] at hfields
    change 60 + _ = 70 + 10 * pkt.payload.length at hfields
    omega
  have hheader := (readAncDataHeader_yields_lineFields hpkt).bind
    (f := fun l => needOctets ((vanc8 l.dataCount + 1) * 10 / 8) (-1) >>= fun _ =>
      readAncDataWords l)
    (hwords.needOctets_bind (f := fun _ => readAncDataWords _) (-1)
      (show (vanc8 (readBack pkt).dataCount + 1) * 10 / 8 ≤ _ by
        rw [hcount, hlen, Nat.mul_comm]))
  have hflag := (Yields.readBits 8 (show 1 ≤ 64 by norm_num)
    (show 0 < 2 ^ 1 by norm_num)).bind_check
    (f := fun flag => readAncDataHeader 0 flag >>= fun l =>
      needOctets ((vanc8 l.dataCount + 1) * 10 / 8) (-1) >>= fun _ => readAncDataWords l)
    (g := fun flag => validate flag 0) rfl hheader
  have hline := (Yields.readBits 8 (show 6 ≤ 64 by norm_num)
    (show 0 < 2 ^ 6 by norm_num)).bind_check
    (f := fun reserved => readBits 8 1 >>= fun flag => validate flag 0 >>= fun _ =>
      readAncDataHeader reserved flag >>= fun l =>
        needOctets ((vanc8 l.dataCount + 1) * 10 / 8) (-1) >>= fun _ => readAncDataWords l)
    (g := fun reserved => validate reserved 0) rfl hflag
  rw [lineFields, List.append_assoc, Bits.ofFields_append]
  exact hline

end Line

/-! ### The lines -/

/-- What is left behind a line when `tail` follows it: stuffing is removed from an octet boundary on
only if the fields of the line end there. -/
def behindLine (pkt : KlvancPacketHeader) (tail : List Bool) : List Bool :=
  if pkt.payloadLengthWords % 4 = 1 then tail.dropWhile id else tail

section Lines

variable {pkt : KlvancPacketHeader} {pkts : List KlvancPacketHeader} {tail : List Bool}
  {lines : List KlvancSmpte2038AncDataLine} {rem : ℤ} {ctx : KlbsContext}

/-- The stuffing bits of a line are skipped. -/
lemma skipAlignment_stuffing (h8 : 8 ∣ tail.length) :
    skipAlignment (stuffing (Bits.ofFields (lineFields pkt)).length ++ tail) =
      behindLine pkt tail := by
  have hlen : (stuffing (70 + 10 * pkt.payloadLengthWords)).length =
      (8 - (70 + 10 * pkt.payloadLengthWords) % 8) % 8 := List.length_replicate
  have hmod : (stuffing (70 + 10 * pkt.payloadLengthWords) ++ tail).length % 8 =
      (stuffing (70 + 10 * pkt.payloadLengthWords)).length := by
    rw [List.length_append]
    omega
  rw [ofFields_lineFields_length, skipAlignment, behindLine, hmod]
  by_cases halign : pkt.payloadLengthWords % 4 = 1
  · have hnil : stuffing (70 + 10 * pkt.payloadLengthWords) = [] :=
      List.eq_nil_of_length_eq_zero (by omega)
    rw [if_pos (by omega), if_pos halign, hnil, List.nil_append]
  · rw [if_neg (by omega), if_neg halign, List.drop_left]

/-- The zero bit that begins a line is not taken for stuffing. -/
lemma behindLine_lines (pkt : KlvancPacketHeader) (hne : pkts ≠ []) (tail : List Bool) :
    behindLine pkt (pkts.flatMap lineBits ++ tail) = pkts.flatMap lineBits ++ tail := by
  obtain ⟨p, ps, rfl⟩ := List.exists_cons_of_ne_nil hne
  have hzero : ∃ bits, (p :: ps).flatMap lineBits ++ tail = false :: bits := ⟨_, rfl⟩
  obtain ⟨bits, hbits⟩ := hzero
  rw [behindLine, hbits, ite_eq_right_iff]
  exact fun _ => rfl

/-- One round of the loop reads the line written for a packet. -/
lemma parsePesPayloadLoop_lineBits (hpkt : pkt.payloadLengthWords ≤ 255) (h8 : 8 ∣ tail.length)
    (h : Stands rem ctx (lineBits pkt ++ tail)) (hlt : (lineBits pkt ++ tail).length < 2 ^ 34) :
    ∃ rem' ctx', Stands rem' ctx' (behindLine pkt tail) ∧ ctx'.faults = ctx.faults ∧
      ∀ fuel, (lineBits pkt ++ tail).length ≤ fuel + 1 →
        parsePesPayloadLoop (fuel + 1) lines rem ctx =
          parsePesPayloadLoop fuel (lines ++ [readBack pkt]) rem' ctx' := by
  have hlen := ofFields_lineFields_length pkt
  rw [lineBits, List.append_assoc] at h hlt ⊢
  rw [List.length_append] at hlt ⊢
  rcases h with ⟨-, hshort⟩ | ⟨hreads, hrem⟩
  · rw [List.length_append] at hshort
    omega
  · rw [List.length_append] at hrem
    obtain ⟨ctx₁, hparse, h₁, hfaults₁, -⟩ := parseAncDataLine_yields hpkt ctx _ hreads
    obtain ⟨rem', ctx', hstands, hfaults, hrun⟩ :=
      @parsePesPayloadLoop_line lines rem ctx _ _ ctx₁ hparse h₁ (by omega) (by omega)
    rw [skipAlignment_stuffing h8] at hstands
    exact ⟨rem', ctx', hstands, hfaults.trans hfaults₁, fun fuel hfuel => hrun fuel (by omega)⟩

/-- The loop reads the lines written for several packets, the last one `pkt`. -/
lemma parsePesPayloadLoop_lines (hpkts : ∀ p ∈ pkts, p.payloadLengthWords ≤ 255)
    (hpkt : pkt.payloadLengthWords ≤ 255) (h8 : 8 ∣ tail.length)
    (h : Stands rem ctx ((pkts ++ [pkt]).flatMap lineBits ++ tail))
    (hlt : ((pkts ++ [pkt]).flatMap lineBits ++ tail).length < 2 ^ 34) {fuel : ℕ}
    (hfuel : ((pkts ++ [pkt]).flatMap lineBits ++ tail).length ≤ fuel) :
    ∃ rem' ctx' fuel', Stands rem' ctx' (behindLine pkt tail) ∧ ctx'.faults = ctx.faults ∧
      tail.length ≤ fuel' ∧ parsePesPayloadLoop fuel lines rem ctx =
        parsePesPayloadLoop fuel' (lines ++ (pkts ++ [pkt]).map readBack) rem' ctx' := by
  induction pkts generalizing lines rem ctx fuel with
  | nil =>
    rw [List.nil_append, List.flatMap_singleton] at h hlt hfuel
    have hpos := lineBits_length pkt
    obtain ⟨rem', ctx', hstands, hfaults, hrun⟩ :=
      @parsePesPayloadLoop_lineBits pkt tail lines rem ctx hpkt h8 h hlt
    rw [List.length_append] at hfuel hrun
    obtain ⟨fuel, rfl⟩ : ∃ n, fuel = n + 1 := ⟨fuel - 1, by omega⟩
    exact ⟨rem', ctx', fuel, hstands, hfaults, by omega, hrun fuel hfuel⟩
  | cons p ps ih =>
    have hp := hpkts p List.mem_cons_self
    have hps := fun q hq => hpkts q (List.mem_cons_of_mem p hq)
    rw [List.cons_append, List.flatMap_cons, List.append_assoc] at h hlt hfuel
    have hpos := lineBits_length p
    have h8' : 8 ∣ ((ps ++ [pkt]).flatMap lineBits ++ tail).length := by
      rw [List.length_append, flatMap_lineBits_length]
      omega
    obtain ⟨rem₁, ctx₁, hstands₁, hfaults₁, hrun₁⟩ :=
      @parsePesPayloadLoop_lineBits p _ lines rem ctx hp h8' h hlt
    rw [behindLine_lines p
      (List.append_ne_nil_of_right_ne_nil _ (List.cons_ne_nil _ _))] at hstands₁
    rw [List.length_append] at hlt hfuel hrun₁
    obtain ⟨fuel, rfl⟩ : ∃ n, fuel = n + 1 := ⟨fuel - 1, by omega⟩
    obtain ⟨rem', ctx', fuel', hstands, hfaults, hfuel', hrun⟩ :=
      @ih (lines ++ [readBack p]) rem₁ ctx₁ hps hstands₁ (by omega) fuel (by omega)
    refine ⟨rem', ctx', fuel', hstands, hfaults.trans hfaults₁, hfuel', ?_⟩
    rw [hrun₁ fuel hfuel, hrun, List.append_assoc]
    rfl

/-- Stuffing octets behind the last line are skipped or few enough to be left. -/
lemma parsePesPayloadLoop_stuffing {k : ℕ}
    (h : Stands rem ctx (behindLine pkt (List.replicate (8 * k) true)))
    (hk : k ≤ 4 ∨ pkt.payloadLengthWords % 4 = 1) (fuel : ℕ) :
    parsePesPayloadLoop fuel lines rem ctx = ((0, lines), ctx) := by
  refine parsePesPayloadLoop_stop fuel ?_
  have hlen : (behindLine pkt (List.replicate (8 * k) true)).length ≤ 32 := by
    unfold behindLine
    split_ifs with halign
    · have hnil : (List.replicate (8 * k) true).dropWhile id = [] :=
        List.dropWhile_eq_nil_iff.mpr fun b hb => List.eq_of_mem_replicate hb
      rw [hnil]
      exact Nat.zero_le _
    · rw [List.length_replicate]
      omega
  rcases h with ⟨rfl, -⟩ | ⟨-, hrem⟩
  · norm_num
  · omega

/-- Otherwise they are taken for a line, which is rejected. -/
lemma parsePesPayloadLoop_stuffing_rejected {k : ℕ}
    (h : Stands rem ctx (behindLine pkt (List.replicate (8 * k) true)))
    (hk : ¬(k ≤ 4 ∨ pkt.payloadLengthWords % 4 = 1)) {fuel : ℕ} (hfuel : 8 * k ≤ fuel) :
    ∃ ctx', parsePesPayloadLoop fuel lines rem ctx = ((-1, lines), ctx') ∧
      ctx'.faults = ctx.faults := by
  rw [not_or] at hk
  rw [behindLine, if_neg hk.2] at h
  have hlen : (List.replicate (8 * k) true).length = 8 * k := List.length_replicate
  rcases h with ⟨-, hshort⟩ | ⟨hreads, hrem⟩
  · omega
  · have hopens : ¬LineOpens (List.replicate (8 * k) true) := fun hopens =>
      absurd (hopens true (by
        rw [List.take_replicate, List.mem_replicate]
        exact ⟨by omega, rfl⟩)) (by decide)
    obtain ⟨ctx', hparse, hfaults⟩ := parseAncDataLine_rejects hreads (by omega) hopens
    obtain ⟨fuel, rfl⟩ : ∃ n, fuel = n + 1 := ⟨fuel - 1, by omega⟩
    refine ⟨ctx', ?_, hfaults⟩
    rw [parsePesPayloadLoop_succ fuel (by omega), hparse]

/-- The lines written for packets are read, the last one `pkt` followed by `k` octets of
stuffing. -/
lemma parsePesPayloadInt_lines {k : ℕ} (hpkts : ∀ p ∈ pkts ++ [pkt], p.payloadLengthWords ≤ 255)
    (h : ctx.Reads ((pkts ++ [pkt]).flatMap lineBits ++ List.replicate (8 * k) true))
    (hlt : lineOctets (pkts ++ [pkt]) + k < 2 ^ 31) :
    ∃ ctx', ctx'.faults = ctx.faults ∧ parsePesPayloadInt ctx =
      ((if k ≤ 4 ∨ pkt.payloadLengthWords % 4 = 1 then 0 else -1,
        (pkts ++ [pkt]).map readBack), ctx') := by
  have hlen : ((pkts ++ [pkt]).flatMap lineBits ++ List.replicate (8 * k) true).length =
      8 * lineOctets (pkts ++ [pkt]) + 8 * k := by
    rw [List.length_append, flatMap_lineBits_length, List.length_replicate]
  have h8 : 8 ∣ ((pkts ++ [pkt]).flatMap lineBits ++ List.replicate (8 * k) true).length := by
    omega
  obtain ⟨rem', ctx', fuel', hstands, hfaults, hfuel', hrun⟩ :=
    @parsePesPayloadLoop_lines pkt pkts _ [] _ ctx
      (fun p hp => hpkts p (List.mem_append_left _ hp))
      (hpkts pkt (List.mem_append_right _ List.mem_cons_self))
      (show 8 ∣ (List.replicate (8 * k) true).length from ⟨k, List.length_replicate⟩)
      (stands_of_reads h h8 (by omega)) (by omega) _ (length_le_rounds h h8)
  rw [List.length_replicate] at hfuel'
  rw [List.nil_append] at hrun
  by_cases hk : k ≤ 4 ∨ pkt.payloadLengthWords % 4 = 1
  · refine ⟨ctx', hfaults, ?_⟩
    rw [if_pos hk]
    exact hrun.trans (parsePesPayloadLoop_stuffing hstands hk fuel')
  · obtain ⟨ctx'', hreject, hfaults'⟩ :=
      @parsePesPayloadLoop_stuffing_rejected pkt ((pkts ++ [pkt]).map readBack) rem' ctx' k
        hstands hk fuel' hfuel'
    refine ⟨ctx'', hfaults'.trans hfaults, ?_⟩
    rw [if_neg hk]
    exact hrun.trans hreject

end Lines

/-! ### Frames -/

section Header

/-- The time stamp is put together from its three fields. -/
lemma pts_eq (pts : BitVec 64) :
    (BitVec.ofNat 64 ((pts >>> 30).toNat % 2 ^ 3) <<< 30 |||
        BitVec.ofNat 64 ((pts >>> 15 &&& 0x7fff).toNat) <<< 15 |||
          BitVec.ofNat 64 ((pts &&& 0x7fff).toNat)).toNat = pts.toNat % 2 ^ 33 := by
  have hlow : ∀ x : BitVec 64, (x &&& 0x7fff).toNat = x.toNat % 2 ^ 15 := fun x => by
    rw [BitVec.toNat_and]
    exact Nat.and_two_pow_sub_one_eq_mod _ 15
  have hpts := pts.isLt
  rw [hlow, hlow, BitVec.toNat_ushiftRight, BitVec.toNat_ushiftRight, Nat.shiftRight_eq_div_pow,
    Nat.shiftRight_eq_div_pow]
  generalize pts.toNat = n at hpts ⊢
  have ha : n / 2 ^ 30 % 2 ^ 3 < 2 ^ 3 := Nat.mod_lt _ (by norm_num)
  have hb : n / 2 ^ 15 % 2 ^ 15 < 2 ^ 15 := Nat.mod_lt _ (by norm_num)
  have hc : n % 2 ^ 15 < 2 ^ 15 := Nat.mod_lt _ (by norm_num)
  have hsum : n % 2 ^ 33 = (n / 2 ^ 30 % 2 ^ 3) * 2 ^ 30 +
      ((n / 2 ^ 15 % 2 ^ 15) * 2 ^ 15 + n % 2 ^ 15) := by omega
  rw [hsum]
  generalize n / 2 ^ 30 % 2 ^ 3 = a at ha ⊢
  generalize n / 2 ^ 15 % 2 ^ 15 = b at hb ⊢
  generalize n % 2 ^ 15 = c at hc ⊢
  rw [BitVec.or_assoc, BitVec.toNat_or, BitVec.toNat_or, BitVec.toNat_shiftLeft,
    BitVec.toNat_shiftLeft, BitVec.toNat_ofNat, BitVec.toNat_ofNat, BitVec.toNat_ofNat,
    Nat.mod_eq_of_lt (show a < 2 ^ 64 by omega), Nat.mod_eq_of_lt (show b < 2 ^ 64 by omega),
    Nat.mod_eq_of_lt (show c < 2 ^ 64 by omega), Nat.shiftLeft_eq, Nat.shiftLeft_eq,
    Nat.mod_eq_of_lt (show a * 2 ^ 30 < 2 ^ 64 by omega),
    Nat.mod_eq_of_lt (show b * 2 ^ 15 < 2 ^ 64 by omega), ← Nat.shiftLeft_eq, ← Nat.shiftLeft_eq,
    ← Nat.shiftLeft_add_eq_or_of_lt hc, ← Nat.shiftLeft_add_eq_or_of_lt (by
      rw [Nat.shiftLeft_eq]; omega)]

/-- The header that is read back. -/
def readBackHeader (n : ℕ) (pts : BitVec 64) : KlvancSmpte2038AncDataPacket where
  packetStartCodePrefix := 1
  streamId := 0xBD
  pesPacketLength := BitVec.ofNat 16 (n % 2 ^ 16)
  dataAlignmentIndicator := 1
  ptsDtsFlags := 2
  pesHeaderDataLength := 5
  pts := BitVec.ofNat 64 ((pts >>> 30).toNat % 2 ^ 3) <<< 30 |||
    BitVec.ofNat 64 ((pts >>> 15 &&& 0x7fff).toNat) <<< 15 |||
      BitVec.ofNat 64 ((pts &&& 0x7fff).toNat)

/-- The header written is read back. -/
lemma parsePesHeader_yields (n : ℕ) (pts : BitVec 64) :
    parsePesHeader.Yields (Bits.ofFields (headerFields n pts)) (readBackHeader n pts) := by
  have hlow : ∀ x : BitVec 64, (x &&& 0x7fff).toNat < 2 ^ 15 := fun x => by
    rw [BitVec.toNat_and]
    exact (Nat.and_le_right).trans_lt (by decide)
  have hheader : parsePesHeader.Yields (Bits.ofNat 24 1 ++ (Bits.ofNat 8 0xBD ++
      (Bits.ofFields [(n % 2 ^ 16, 16), (2, 2), (0, 2)] ++
      (Bits.ofFields [(0, 1), (1, 1), (0, 1), (0, 1), (2, 2), (0, 1), (0, 1), (0, 1), (0, 1),
        (0, 1), (0, 1)] ++ (Bits.ofFields [(5, 8), (2, 4)] ++
      Bits.ofFields [((pts >>> 30).toNat % 2 ^ 3, 3), (1, 1), ((pts >>> 15 &&& 0x7fff).toNat, 15),
        (1, 1), ((pts &&& 0x7fff).toNat, 15), (1, 1)]))))) (readBackHeader n pts) := by
    unfold parsePesHeader
    refine (Yields.readBits 32 (by norm_num) (by norm_num)).bind_check rfl ?_
    refine (Yields.readBits 8 (by norm_num) (by norm_num)).bind_check rfl ?_
    refine (readPesPacketLength_yields _ (Nat.mod_lt n (Nat.two_pow_pos 16)) (by norm_num)
      (by norm_num)).bind_check rfl ?_
    refine (readPesFlags_yields _ (by norm_num) (by norm_num) (by norm_num) (by norm_num)
      (by norm_num) (by norm_num) (by norm_num) (by norm_num) (by norm_num) (by norm_num)
      (by norm_num)).bind_check rfl ?_
    refine (readPesHeaderDataLength_yields _ (by norm_num) (by norm_num)).bind_check rfl ?_
    exact readPts_yields _ (Nat.mod_lt (pts >>> 30).toNat (Nat.two_pow_pos 3)) (by norm_num)
      (hlow (pts >>> 15)) (by norm_num) (hlow pts) (by norm_num)
  simp only [headerFields, Bits.ofFields_cons, Bits.ofNat_mod, List.append_assoc, Bits.ofFields_nil,
    List.nil_append] at hheader ⊢
  exact hheader

end Header

section Words

/-- The two functions that add parity bits agree on octets, and the one used here leaves the bits
that are present. -/
lemma addParity_addParity (b : Byte) :
    addParity (b.setWidth 16) = Libklvanc.addParity (b.setWidth 16) ∧
      addParity (Libklvanc.addParity (b.setWidth 16)) = Libklvanc.addParity (b.setWidth 16) := by
  revert b
  decide +kernel

/-- A word of ten bits is read back. -/
lemma ofNat_mod_of_lt {w : Word} (h : w.toNat < 2 ^ 10) :
    BitVec.ofNat 16 (w.toNat % 2 ^ 10) = w := by
  rw [Nat.mod_eq_of_lt h, BitVec.ofNat_toNat, BitVec.setWidth_eq]

/-- The line read back for a packet is converted to the words of the packet. -/
lemma klvancSmpte2038ConvertLineToWords_readBack (p : SdiPacket) (lineNr : ℕ) (raw : List Word)
    (off : ℕ) :
    klvancSmpte2038ConvertLineToWords (readBack (p.header lineNr raw off)) = p.words := by
  have hlt : ∀ b : Byte, (Libklvanc.addParity (b.setWidth 16)).toNat < 2 ^ 10 := fun b =>
    (Libklvanc.addParity_octet b).2.1.trans (by norm_num)
  have hid : ∀ b : Byte, addParity (BitVec.ofNat 16 ((addParity (b.setWidth 16)).toNat % 2 ^ 10)) =
      Libklvanc.addParity (b.setWidth 16) := fun b => by
    rw [(addParity_addParity b).1, ofNat_mod_of_lt (hlt b), (addParity_addParity b).2]
  have hlen : (p.header lineNr raw off).payloadLengthWords = p.bytes.length := List.length_map _
  have hdid : addParity (readBack (p.header lineNr raw off)).did =
      Libklvanc.addParity (p.did.setWidth 16) := hid p.did
  have hsdid : addParity (readBack (p.header lineNr raw off)).sdid =
      Libklvanc.addParity (p.sdid.setWidth 16) := hid p.sdid
  have hcount : addParity (readBack (p.header lineNr raw off)).dataCount =
      Libklvanc.addParity ((BitVec.ofNat 8 p.bytes.length).setWidth 16) := by
    rw [readBack, hlen, p.count_eq, (addParity_addParity _).1, (addParity_addParity _).2]
  have hall : vanc8 (readBack (p.header lineNr raw off)).dataCount = p.bytes.length := by
    rw [readBack, hlen]
    exact (addParity_count p.bytes_le).2
  have hwords : (readBack (p.header lineNr raw off)).userDataWords =
      p.bytes.map fun b => Libklvanc.addParity (b.setWidth 16) := by
    rw [readBack, SdiPacket.header, List.map_map]
    exact List.map_congr_left fun b _ => ofNat_mod_of_lt (hlt b)
  have hsum : (readBack (p.header lineNr raw off)).checksumWord = klvancChecksumCalculate p.body :=
    ofNat_mod_of_lt ((klvancChecksumCalculate_bounds _).2.trans (by norm_num))
  rw [klvancSmpte2038ConvertLineToWords, hwords, hsum, hdid, hsdid, hcount, hall, SdiPacket.words,
    SdiPacket.body_eq, List.take_of_length_le (List.length_map _).le]
  rfl

end Words

/-- `hdr` is the header that `klvanc_packet_parse` hands to the `all` callback for the packet that
`klvanc_sdi_create_payload` makes, standing on line `lineNr`. -/
def ParsedOnLine (p : SdiPacket) (lineNr : ℕ) (hdr : KlvancPacketHeader) : Prop :=
  ∃ words run, klvancSdiCreatePayload p.sdid p.did p.bytes 10 = some words ∧
    run.ctx.registered (·.all) = true ∧
    (klvancPacketParse lineNr words words.length run).2.allHeaders = run.allHeaders ++ [hdr]

/-- There is one such header. -/
lemma ParsedOnLine.eq {p : SdiPacket} {lineNr : ℕ} {hdr : KlvancPacketHeader}
    (h : ParsedOnLine p lineNr hdr) : hdr = p.header lineNr p.words 0 := by
  obtain ⟨words, run, hcreate, hall, hheaders⟩ := h
  rw [p.create_eq] at hcreate
  cases hcreate
  have hreports : run.ctx.reports (p.header lineNr p.words 0) = true := by
    rw [KlvancContext.reports]
    rfl
  rw [klvancPacketParse_words, processPacket_allHeaders _ _ hall, hreports, if_pos rfl] at hheaders
  exact (List.singleton_inj.mp (List.append_cancel_left hheaders)).symm

/-- Headers that are parsed have at most 255 words. -/
lemma payloadLengthWords_le_of_parsed {ps : List (SdiPacket × ℕ)} {hdrs : List KlvancPacketHeader}
    (h : List.Forall₂ (fun p hdr => p.2 < 2048 ∧ ParsedOnLine p.1 p.2 hdr) ps hdrs) :
    ∀ hdr ∈ hdrs, hdr.payloadLengthWords ≤ 255 := by
  induction h with
  | nil => exact fun _ h => absurd h List.not_mem_nil
  | @cons p _ _ _ hp _ ih =>
    refine List.forall_mem_cons.mpr ⟨?_, ih⟩
    rw [hp.2.eq]
    exact (List.length_map _).trans_le p.1.bytes_le

/-- The frames that the packetizer makes of parsed packets are read back: the time stamp, and for
each packet, in order, its line number and its words. -/
theorem packetizeFrame_roundTrip {ctx : KlvancSmpte2038Packetizer} (hctx : Reachable ctx)
    (fresh : ℕ → Byte) (pts : BitVec 64) {ps : List (SdiPacket × ℕ)} (hne : ps ≠ [])
    {hdrs : List KlvancPacketHeader}
    (hparsed : List.Forall₂ (fun p hdr => p.2 < 2048 ∧ ParsedOnLine p.1 p.2 hdr) ps hdrs)
    (habort : Fault.abort ∉ (packetizeFrame fresh ctx hdrs pts).faults) :
    ∃ ctx' pkt, packetizeFrame fresh ctx hdrs pts = pure (0, ctx') ∧
      klvancSmpte2038ParsePesPacket (ctx'.buf.take ctx'.bufused) ctx'.bufused = pure (0, some pkt) ∧
      pkt.pts.toNat = pts.toNat % 2 ^ 33 ∧
      List.Forall₂ (fun p l => l.lineNumber.toNat = p.2 ∧
        klvancSdiCreatePayload p.1.sdid p.1.did p.1.bytes 10 =
          some (klvancSmpte2038ConvertLineToWords l)) ps pkt.lines := by
  obtain ⟨bits, hholds⟩ := hctx.holds
  have hne' : hdrs ≠ [] := by
    rintro rfl
    exact hne (List.forall₂_nil_right_iff.mp hparsed)
  have hsmall := payloadLengthWords_le_of_parsed hparsed
  obtain ⟨ctx', hframe, hholds', hused, hout⟩ := packetizeFrame_eq hholds hne' hsmall habort
  have hlen : (ctx'.buf.take ctx'.bufused).length = ctx'.bufused := by
    rw [List.length_take, hholds'.length_eq]
    exact min_eq_left hholds'.bufused_le
  have hle := hholds'.bufused_le
  have hle' := hholds'.buflen_le
  obtain ⟨init, last, rfl⟩ : ∃ init last, hdrs = init ++ [last] :=
    ⟨hdrs.dropLast, hdrs.getLast hne', (List.dropLast_append_getLast hne').symm⟩
  have hreads : (klbsReadSetBuffer (ctx'.buf.take ctx'.bufused)
      (ctx'.buf.take ctx'.bufused).length).Reads _ :=
    KlbsContext.Reads.setBuffer (by omega)
  rw [hout] at hreads
  obtain ⟨bs, hheader, hrest, hfaults, -⟩ := parsePesHeader_yields _ pts _ _ hreads
  rw [← List.append_nil (List.flatMap _ _)] at hrest
  obtain ⟨bs', hfaults', hlines⟩ := @parsePesPayloadInt_lines last init bs 0 hsmall hrest (by omega)
  rw [if_pos (Or.inl (Nat.zero_le 4))] at hlines
  refine ⟨ctx',
    { readBackHeader (ctx'.bufused - 6) pts with lines := (init ++ [last]).map readBack },
    hframe, ?_, pts_eq pts, ?_⟩
  · have hpacket := parsePesPacket_of_ok hheader
    rw [hlen, hlines] at hpacket
    rw [hpacket]
    exact Checked.ext rfl (hfaults'.trans hfaults)
  · refine List.forall₂_map_right_iff.mpr (hparsed.imp fun p hdr hp => ?_)
    obtain ⟨hlt, hp⟩ := hp
    rw [hp.eq, klvancSmpte2038ConvertLineToWords_readBack]
    refine ⟨?_, p.1.create_eq⟩
    change (BitVec.ofNat 16 (p.2 % 2 ^ 11)).toNat = p.2
    rw [BitVec.toNat_ofNat]
    omega

/-- The header of a packet is parsed. -/
lemma parsedOnLine_header (p : SdiPacket) (lineNr : ℕ) :
    ParsedOnLine p lineNr (p.header lineNr p.words 0) := by
  refine ⟨p.words, .start { callbacks := some { all := true } }, p.create_eq, rfl, ?_⟩
  rw [klvancPacketParse_words, processPacket_allHeaders _ _ rfl]
  rfl

/-- A packet of two octets. -/
def shortPacket : SdiPacket := .ofBytes 0x61 0x02 [0x94, 0x2c] rfl

/-- The longest packet and a short one, sixty times, each on a line of its own. -/
def manyPackets : List (SdiPacket × ℕ) :=
  (List.range 60).flatMap fun i => [(longestPacket, 9 + i), (shortPacket, 600 - i)]

/-- Their headers. -/
def manyHeaders : List KlvancPacketHeader := manyPackets.map fun p => p.1.header p.2 p.1.words 0

lemma manyHeaders_parsed :
    List.Forall₂ (fun p hdr => p.2 < 2048 ∧ ParsedOnLine p.1 p.2 hdr) manyPackets manyHeaders := by
  refine List.forall₂_map_right_iff.mpr (List.forall₂_same.mpr fun p hp => ?_)
  refine ⟨?_, parsedOnLine_header p.1 p.2⟩
  obtain ⟨i, hi, hp⟩ := List.mem_flatMap.mp hp
  rw [List.mem_range] at hi
  simp only [List.mem_cons, List.not_mem_nil, or_false] at hp
  rcases hp with rfl | rfl
  · change 9 + i < 2048
    omega
  · change 600 - i < 2048
    omega

lemma lineOctets_manyHeaders : lineOctets manyHeaders = 60 * (328 + 12) := by
  decide +kernel

/-- A frame with many packets, for which the buffer has to grow, is read back. -/
theorem packetizeFrame_roundTrip_many :
    ∃ ctx' pkt, packetizeFrame (fun _ => 0) klvancSmpte2038PacketizerAlloc manyHeaders 0x123456789 =
        pure (0, ctx') ∧
      klvancSmpte2038PacketizerAlloc.buflen < ctx'.buflen ∧
      klvancSmpte2038ParsePesPacket (ctx'.buf.take ctx'.bufused) ctx'.bufused = pure (0, some pkt) ∧
      pkt.pts.toNat = 0x123456789 ∧
      List.Forall₂ (fun p l => l.lineNumber.toNat = p.2 ∧
        klvancSdiCreatePayload p.1.sdid p.1.did p.1.bytes 10 =
          some (klvancSmpte2038ConvertLineToWords l)) manyPackets pkt.lines := by
  have hlen := lineOctets_manyHeaders
  have hle := payloadLengthWords_le_of_parsed manyHeaders_parsed
  have hne : manyHeaders ≠ [] := List.cons_ne_nil _ _
  have habort := @not_abort_of_le _ _ (fun _ => 0) _ 0x123456789 holds_alloc hne hle
    (hlen.trans_le (by norm_num))
  obtain ⟨ctx', pkt, hframe, hpkt, hpts, hlines⟩ :=
    packetizeFrame_roundTrip .alloc (fun _ => 0) 0x123456789 (List.cons_ne_nil _ _)
      manyHeaders_parsed habort
  refine ⟨ctx', pkt, hframe, ?_, hpkt, hpts, hlines⟩
  obtain ⟨ctx'', hframe', hholds, hused, -⟩ := packetizeFrame_eq holds_alloc hne hle habort
  rw [hframe] at hframe'
  obtain rfl : ctx' = ctx'' := congrArg (fun c => c.val.2) hframe'
  have hsize := hholds.bufused_le
  change 16384 < ctx'.buflen
  omega

end Libklvanc.Smpte2038
