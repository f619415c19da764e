import Libklvanc.Smpte2038.Payload

/-!
# Safety of the SMPTE 2038 parser

The parser stays inside its buffer, ends by itself and reports what is cut off, exactly when no line
is cut off unnoticed and, for a packet, the header is complete or rejected before its end
(`parsers_safe_iff`). A line that is cut off goes unnoticed before its data count, and behind it
when the octets left are as many as its words fill, rounded down.
-/

namespace Libklvanc.Smpte2038

open KlbsDecoder

/-! ### What is asked for -/

/-- The loops of `smpte2038_parse_pes_payload_int` end by themselves: with more rounds they do
nothing else. -/
def LoopsEnd (bs : KlbsContext) : Prop :=
  ∀ fuel, 8 * klbsGetBufferSize bs ≤ fuel →
    parsePesPayloadLoop fuel [] (byteCountRem bs) bs = parsePesPayloadInt bs

/-- `klvanc_smpte2038_parse_pes_payload` is safe on the payload: it terminates, stays inside the
payload and returns 0 or an error, and an error when a line is cut off. -/
structure PayloadParsedSafely (payload : List Byte) : Prop where
  ends : LoopsEnd (klbsReadSetBuffer payload payload.length)
  safe : (klvancSmpte2038ParsePesPayload payload payload.length).Safe
  ret_le : (klvancSmpte2038ParsePesPayload payload payload.length).val.1 ≤ 0
  ret_lt : (∃ bits, LineStart (Bits.ofBytes payload) bits ∧ CutLine bits) →
    (klvancSmpte2038ParsePesPayload payload payload.length).val.1 < 0

/-- `klvanc_smpte2038_parse_pes_packet` is safe on the packet: it terminates, stays inside the
packet and returns 0 or an error, and an error when the header or a line behind it is cut off. -/
structure PacketParsedSafely (sectionBytes : List Byte) : Prop where
  ends : ∀ h bs, parsePesHeader.run.run (klbsReadSetBuffer sectionBytes sectionBytes.length) =
    (.ok h, bs) → LoopsEnd bs
  safe : (klvancSmpte2038ParsePesPacket sectionBytes sectionBytes.length).Safe
  ret_le : (klvancSmpte2038ParsePesPacket sectionBytes sectionBytes.length).val.1 ≤ 0
  ret_lt : sectionBytes.length < 14 ∨
      (∃ bits, LineStart ((Bits.ofBytes sectionBytes).drop 112) bits ∧ CutLine bits) →
    (klvancSmpte2038ParsePesPacket sectionBytes sectionBytes.length).val.1 < 0

/-- Every line that is cut off is one whose octets are missed, and there are few enough octets for
an `int`. -/
def CutLinesSeen (bits : List Bool) : Prop :=
  ∀ rest, LineStart bits rest → CutLine rest → bits.length < 2 ^ 34 ∧ MissesOctets rest

/-! ### The lines -/

section Lines

variable {bits : List Bool} {ctx : KlbsContext}

/-- With more octets than an `int` can hold the loop is not entered. -/
lemma byteCountRem_nonpos (h : ctx.Reads bits) (hle : 2 ^ 34 ≤ bits.length) :
    byteCountRem ctx ≤ 0 := by
  have hlen := h.length_eq
  have hlt := h.buflen_lt
  have hreg := h.regUsed_lt
  have hfree := h.byteCountFree_eq
  rw [byteCountRem, hfree, BitVec.toInt_eq_toNat_cond, BitVec.toNat_ofNat,
    Nat.mod_eq_of_lt (by omega), if_neg (by omega)]
  omega

/-- Then nothing is parsed. -/
lemma parsePesPayloadLoop_huge (h : ctx.Reads bits) (hle : 2 ^ 34 ≤ bits.length) (fuel : ℕ) :
    parsePesPayloadLoop fuel [] (byteCountRem ctx) ctx = ((0, []), ctx) := by
  have hrem := byteCountRem_nonpos h hle
  exact parsePesPayloadLoop_stop fuel (by omega)

/-- The loop begins with whole octets. -/
lemma stands_of_reads (h : ctx.Reads bits) (h8 : 8 ∣ bits.length) (hlt : bits.length < 2 ^ 34) :
    Stands (byteCountRem ctx) ctx bits := by
  refine Or.inr ⟨h, ?_⟩
  rw [byteCountRem_eq h hlt]
  omega

/-- The rounds suffice for all bits. -/
lemma length_le_rounds (h : ctx.Reads bits) (h8 : 8 ∣ bits.length) :
    bits.length ≤ 8 * klbsGetBufferSize ctx := by
  have hlen := h.length_eq
  have hreg := h.regUsed_lt
  unfold klbsGetBufferSize
  omega

/-- When every line that is cut off is seen, the loop ends well. -/
lemma parsePesPayloadInt_of_seen (h : ctx.Reads bits) (h8 : 8 ∣ bits.length)
    (hseen : CutLinesSeen bits) :
    LoopsEnd ctx ∧ (parsePesPayloadInt ctx).2.faults = ctx.faults ∧
    (parsePesPayloadInt ctx).1.1 ≤ 0 ∧
      ((∃ rest, LineStart bits rest ∧ CutLine rest) → (parsePesPayloadInt ctx).1.1 < 0) := by
  have hrounds := length_le_rounds h h8
  by_cases hlt : bits.length < 2 ^ 34
  · obtain ⟨ret, ⟨lines, ctx', hfaults, hends⟩, hret, hcut⟩ :=
      @ends_of_cutLinesMissed [] _ ctx bits (stands_of_reads h h8 hlt) hlt fun r hr hrcut =>
        (hseen r hr hrcut).2
    have hrun : parsePesPayloadInt ctx = ((ret, lines), ctx') := hends _ hrounds
    refine ⟨fun fuel hfuel => ?_, ?_⟩
    · rw [hrun, hends fuel (by omega)]
    · rw [hrun]
      exact ⟨hfaults, hret, hcut⟩
  · have hstop := parsePesPayloadLoop_huge h (not_lt.mp hlt)
    have hrun : parsePesPayloadInt ctx = ((0, []), ctx) := hstop _
    refine ⟨fun fuel _ => by rw [hrun, hstop], ?_⟩
    rw [hrun]
    refine ⟨rfl, le_rfl, ?_⟩
    rintro ⟨r, hr, hrcut⟩
    exact absurd (hseen r hr hrcut).1 hlt

/-- When a line is cut off and not seen, the loop returns 0 or reads past the end. -/
lemma parsePesPayloadInt_of_not_seen (h : ctx.Reads bits) (h8 : 8 ∣ bits.length)
    (hseen : ¬CutLinesSeen bits) :
    (∃ rest, LineStart bits rest ∧ CutLine rest) ∧
      ((parsePesPayloadInt ctx).1.1 = 0 ∨ (parsePesPayloadInt ctx).2.Past) := by
  obtain ⟨r, hr, hcut, hnot⟩ : ∃ r, LineStart bits r ∧ CutLine r ∧
      ¬(bits.length < 2 ^ 34 ∧ MissesOctets r) := by
    unfold CutLinesSeen at hseen
    push Not at hseen
    simpa only [not_and] using hseen
  refine ⟨⟨r, hr, hcut⟩, ?_⟩
  by_cases hlt : bits.length < 2 ^ 34
  · exact parsePesPayloadLoop_not_missed (stands_of_reads h h8 hlt) hlt
      (fun hall => hnot ⟨hlt, hall r hr hcut⟩) (length_le_rounds h h8)
  · have hrun : parsePesPayloadInt ctx = ((0, []), ctx) :=
      parsePesPayloadLoop_huge h (not_lt.mp hlt) _
    rw [hrun]
    exact Or.inl rfl

end Lines

/-! ### Payloads and packets -/

section Parsers

variable {buf : List Byte}

/-- The payload is parsed safely when every line that is cut off is seen, and only then. -/
lemma payloadParsedSafely_iff (hlt : buf.length < 2 ^ 32) :
    PayloadParsedSafely buf ↔ CutLinesSeen (Bits.ofBytes buf) := by
  have hreads := KlbsContext.Reads.setBuffer hlt
  have h8 : 8 ∣ (Bits.ofBytes buf).length := ⟨buf.length, Bits.ofBytes_length buf⟩
  constructor
  · intro h
    by_contra hseen
    obtain ⟨hcut, hret | hpast⟩ := parsePesPayloadInt_of_not_seen hreads h8 hseen
    · exact absurd hret (h.ret_lt hcut).ne
    · exact (parsePesPayloadLoop_progress _ _ _ _).faults_ne_nil_of_past le_rfl hpast h.safe
  · intro hseen
    obtain ⟨hends, hfaults, hret, hcut⟩ := parsePesPayloadInt_of_seen hreads h8 hseen
    exact ⟨hends, hfaults, hret, hcut⟩

-- Otherwise the decoder of the header is unfolded too.
attribute [local irreducible] parsePesHeader parsePesPayloadInt in
/-- What is done with a packet. -/
lemma klvancSmpte2038ParsePesPacket_eq (buf : List Byte) :
    klvancSmpte2038ParsePesPacket buf buf.length =
      match parsePesHeader.run.run (klbsReadSetBuffer buf buf.length) with
      | (.error ret, bs) => ⟨(ret, none), bs.faults⟩
      | (.ok h, bs) =>
        ⟨((parsePesPayloadInt bs).1.1, some { h with lines := (parsePesPayloadInt bs).1.2 }),
          (parsePesPayloadInt bs).2.faults⟩ :=
  rfl

/-- The outcome of a packet whose header is accepted. -/
lemma parsePesPacket_of_ok {h : KlvancSmpte2038AncDataPacket} {bs : KlbsContext}
    (hrun : parsePesHeader.run.run (klbsReadSetBuffer buf buf.length) = (.ok h, bs)) :
    klvancSmpte2038ParsePesPacket buf buf.length =
      ⟨((parsePesPayloadInt bs).1.1, some { h with lines := (parsePesPayloadInt bs).1.2 }),
        (parsePesPayloadInt bs).2.faults⟩ := by
  rw [klvancSmpte2038ParsePesPacket_eq, hrun]

/-- The outcome of a packet whose header is rejected. -/
lemma parsePesPacket_of_error {ret : ℤ} {bs : KlbsContext}
    (hrun : parsePesHeader.run.run (klbsReadSetBuffer buf buf.length) = (.error ret, bs)) :
    klvancSmpte2038ParsePesPacket buf buf.length = ⟨(ret, none), bs.faults⟩ := by
  rw [klvancSmpte2038ParsePesPacket_eq, hrun]

/-- A packet whose header goes past the end meets a fault. -/
lemma parsePesPacket_of_past
    (hpast : (parsePesHeader.run.run (klbsReadSetBuffer buf buf.length)).2.Past) :
    ¬(klvancSmpte2038ParsePesPacket buf buf.length).Safe := by
  have hprogress := parsePesHeader_screens.progresses (klbsReadSetBuffer buf buf.length)
  rcases hrun : parsePesHeader.run.run (klbsReadSetBuffer buf buf.length) with ⟨e | h, bs⟩
  · rw [hrun] at hpast hprogress
    rw [parsePesPacket_of_error hrun]
    exact hprogress.faults_ne_nil_of_past le_rfl hpast
  · rw [hrun] at hpast hprogress
    have hloop := parsePesPayloadLoop_progress (8 * klbsGetBufferSize bs) [] (byteCountRem bs) bs
    rw [parsePesPacket_of_ok hrun]
    exact (hprogress.trans hloop).faults_ne_nil_of_past le_rfl (hloop.past hpast)

/-- The packet is parsed safely when its header is rejected or it is complete and every line behind
it that is cut off is seen, and only then. -/
lemma packetParsedSafely_iff (hlt : buf.length < 2 ^ 32) :
    PacketParsedSafely buf ↔ HeaderRejected (Bits.ofBytes buf) ∨
      14 ≤ buf.length ∧ CutLinesSeen ((Bits.ofBytes buf).drop 112) := by
  have hreads := KlbsContext.Reads.setBuffer hlt
  have hlen := Bits.ofBytes_length buf
  by_cases hbad : HeaderRejected (Bits.ofBytes buf)
  · obtain ⟨bs, hrun, hfaults⟩ := parsePesHeader_screens.rejects _ _ hreads hbad
    have hpacket := parsePesPacket_of_error hrun
    refine ⟨fun _ => Or.inl hbad, fun _ => ⟨fun h bs' hok => ?_, ?_, ?_, fun _ => ?_⟩⟩
    · rw [hrun] at hok
      cases hok
    · rw [hpacket]
      exact hfaults
    · rw [hpacket]
      norm_num
    · rw [hpacket]
      norm_num
  · by_cases hcomplete : 14 ≤ buf.length
    · obtain ⟨h, bs, hrun, hrest, hfaults⟩ :=
        parsePesHeader_screens.passes _ _ hreads hbad (by omega)
      have hpacket := parsePesPacket_of_ok hrun
      have h8 : 8 ∣ ((Bits.ofBytes buf).drop 112).length := by
        rw [List.length_drop]
        omega
      constructor
      · intro hsafe
        refine Or.inr ⟨hcomplete, ?_⟩
        by_contra hseen
        obtain ⟨hcut, hret | hpast⟩ := parsePesPayloadInt_of_not_seen hrest h8 hseen
        · have hneg := hsafe.ret_lt (Or.inr hcut)
          rw [hpacket] at hneg
          exact absurd hret hneg.ne
        · have hprogress := parsePesHeader_screens.progresses (klbsReadSetBuffer buf buf.length)
          rw [hrun] at hprogress
          have hfault := hsafe.safe
          rw [hpacket] at hfault
          exact (hprogress.trans
            (parsePesPayloadLoop_progress _ _ _ _)).faults_ne_nil_of_past le_rfl hpast hfault
      · intro hcond
        obtain ⟨hends, hfaults', hret, hcut⟩ :=
          parsePesPayloadInt_of_seen hrest h8 (hcond.resolve_left hbad).2
        refine ⟨fun h' bs' hok => ?_, ?_, ?_, fun hor => ?_⟩
        · rw [hrun] at hok
          cases hok
          exact hends
        · rw [hpacket]
          exact hfaults'.trans hfaults
        · rw [hpacket]
          exact hret
        · rw [hpacket]
          exact hcut (hor.resolve_left (by omega))
    · have hpast := parsePesHeader_screens.past _ _ hreads hbad (by omega)
      refine ⟨fun hsafe => absurd hsafe.safe (parsePesPacket_of_past hpast), fun hcond => ?_⟩
      exact absurd (hcond.resolve_left hbad).1 hcomplete

end Parsers

/-- Both parsers are safe on a buffer exactly when no line is cut off unseen and, for a packet, the
header is complete or rejected. -/
theorem parsers_safe_iff (buf : List Byte) (hlt : buf.length < 2 ^ 32) :
    (PayloadParsedSafely buf ↔ CutLinesSeen (Bits.ofBytes buf)) ∧
      (PacketParsedSafely buf ↔ HeaderRejected (Bits.ofBytes buf) ∨
        14 ≤ buf.length ∧ CutLinesSeen ((Bits.ofBytes buf).drop 112)) :=
  ⟨payloadParsedSafely_iff hlt, packetParsedSafely_iff hlt⟩

/-- A line with two user data words, and a line that is cut off behind its data count. -/
def lineAndCut : List Byte :=
  [0x00, 0x02, 0x40, 0x01, 0x61, 0x40, 0x90, 0x26, 0x51, 0x2c, 0x89, 0x7f,
    0x00, 0x02, 0x80, 0x01, 0x61, 0x40, 0x90, 0x26]

lemma lineAndCut_complete : CompleteLine (Bits.ofBytes lineAndCut) where
  opens := by unfold LineOpens; decide
  header_le := by rw [Bits.ofBytes_length]; decide
  length_le := by decide +kernel

/-- The line that is cut off announces more octets than there are. -/
lemma lineAndCut_seen : CutLinesSeen (Bits.ofBytes lineAndCut) := by
  intro rest hstart hcut
  have hafter : afterLine (Bits.ofBytes lineAndCut) = Bits.ofBytes (lineAndCut.drop 12) := by decide
  rcases hstart.eq_or_behind with rfl | ⟨-, hbehind⟩
  · exact absurd lineAndCut_complete hcut.not_complete
  · rw [hafter] at hbehind
    have hline : ¬CompleteLine (Bits.ofBytes (lineAndCut.drop 12)) := fun h =>
      absurd h.length_le (by decide)
    rw [hbehind.eq_of_not_complete hline]
    exact ⟨by rw [Bits.ofBytes_length]; norm_num [lineAndCut], by decide, by decide⟩

/-- The header of a packet with these lines. -/
def lineAndCutHeader : List Byte :=
  [0x00, 0x00, 0x01, 0xbd, 0x00, 0x1c, 0x84, 0x80, 0x05, 0x21, 0x00, 0x01, 0x00, 0x01]

/-- The lines are parsed safely, alone and in a packet. -/
theorem parsers_safe_lineAndCut :
    PayloadParsedSafely lineAndCut ∧ PacketParsedSafely (lineAndCutHeader ++ lineAndCut) := by
  have hsmall : lineAndCut.length < 2 ^ 32 := by norm_num [lineAndCut]
  have hlen : (lineAndCutHeader ++ lineAndCut).length < 2 ^ 32 := by
    norm_num [lineAndCut, lineAndCutHeader]
  have hbehind : (Bits.ofBytes (lineAndCutHeader ++ lineAndCut)).drop 112 =
      Bits.ofBytes lineAndCut := by
    rw [Bits.ofBytes_append]
    exact List.drop_left' rfl
  refine ⟨(parsers_safe_iff lineAndCut hsmall).1.mpr lineAndCut_seen,
    (parsers_safe_iff (lineAndCutHeader ++ lineAndCut) hlen).2.mpr (Or.inr ⟨by decide, ?_⟩)⟩
  rw [hbehind]
  exact lineAndCut_seen

/-- Five zero octets are taken for a line, which is read past the end. -/
theorem not_payloadParsedSafely_zeros : ¬PayloadParsedSafely (List.replicate 5 0) :=
  fun h => absurd h.safe (by decide +kernel)

end Libklvanc.Smpte2038
