import Libklvanc.Smpte2038.RoundTrip
import Libklvanc.Tools.Transport

/-!
# The SMPTE 2038 receiver

`tools/smpte2038.c`: datagrams of transport packets are pushed into the PES extractor, whose
callback parses every PES packet, converts each of its lines to words and hands them to
`klvanc_packet_parse`.

A frame made by the packetizer is a PES packet that the extractor finds (`isPesSection_of_bits`) and
the parser takes apart (`klvancSmpte2038ParsePesPacket_frame`). With `ts_packetizer` between them,
the context of the receiver ends up as if the packets of all the frames had been handed to it one
after the other (`udpCbs_packetizeFrames`).
-/

namespace Libklvanc.Smpte2038

/-- `app_context_s`: what the callbacks of the tool use of it. The counters, of type `int`, are
taken to wrap around. -/
structure AppContext where
  pesPacketsFound : BitVec 32
  vancPacketsFound : BitVec 32
  pe : PesExtractor
  vanchdl : KlvancRun

/-- The extractor after a push. -/
def AppContext.setPe (ctx : AppContext) (pe : PesExtractor) : AppContext := { ctx with pe }

/-- What the loop of `pes_cb` does with a line. -/
def pesCbLine (ctx : AppContext) (l : KlvancSmpte2038AncDataLine) : AppContext :=
  let words := klvancSmpte2038ConvertLineToWords l
  { ctx with
    vanchdl := (klvancPacketParse l.lineNumber.toNat words words.length ctx.vanchdl).2
    vancPacketsFound := ctx.vancPacketsFound + 1 }

/-- What `pes_cb` does with the packet that the parser puts out, if any. -/
def pesCbPacket (ctx : AppContext) : Option KlvancSmpte2038AncDataPacket → AppContext
  | none => ctx
  | some pkt => pkt.lines.foldl pesCbLine { ctx with pesPacketsFound := ctx.pesPacketsFound + 1 }

/-- `pes_cb`. -/
def pesCb (ctx : AppContext) (buf : List Byte) : AppContext :=
  let result := klvancSmpte2038ParsePesPacket buf buf.length
  pesCbPacket { ctx with vanchdl := ctx.vanchdl.addFaults result.faults } result.val.2

/-- `count` transport packets that lie behind one another. -/
def tsPacketsIn (buf : List Byte) (count : ℕ) : List TsPacket :=
  (List.range count).map fun i => zeroPad 188 ((buf.drop (i * packetSize)).take packetSize)

/-- `udp_cb`: the extractor calls `pes_cb` with each PES packet. Bytes behind the last whole
transport packet of the datagram are not pushed. -/
def udpCb (fresh : ℕ → Byte) (ctx : AppContext) (buf : List Byte) : Checked Fault AppContext := do
  let (msgs, pe) ← pePush fresh ctx.pe (tsPacketsIn buf (buf.length / packetSize))
  pure (msgs.foldl pesCb (ctx.setPe pe))

/-- Datagrams that are received one after the other. -/
def udpCbs (fresh : ℕ → Byte) (ctx : AppContext) (datagrams : List (List Byte)) :
    Checked Fault AppContext :=
  datagrams.foldlM (udpCb fresh) ctx

/-- Frames that are made one after the other with one packetizer: the PES packets. -/
def packetizeFrames (fresh : ℕ → Byte) : KlvancSmpte2038Packetizer →
    List (BitVec 64 × List KlvancPacketHeader) → Checked Fault (List (List Byte))
  | _, [] => pure []
  | ctx, frame :: frames => do
    let (_, ctx) ← packetizeFrame fresh ctx frame.2 frame.1
    let sections ← packetizeFrames fresh ctx frames
    pure (ctx.buf.take ctx.bufused :: sections)

/-! ### The PES packet of a frame -/

section Frame

variable {bytes : List Byte} {pts : BitVec 64} {pkts : List KlvancPacketHeader}

/-- The PES packet of a frame is one that the extractor finds. -/
lemma isPesSection_of_bits (hlen : bytes.length = 14 + lineOctets pkts)
    (hbits : Bits.ofBytes bytes =
      Bits.ofFields (headerFields (bytes.length - 6) pts) ++ pkts.flatMap lineBits)
    (hsmall : 14 + lineOctets pkts ≤ 89 * tsPayloadMax) : IsPesSection bytes where
  begins := by
    have hstart : Bits.ofBytes pesHdr = Bits.ofNat 24 1 ++ Bits.ofNat 8 0xBD := rfl
    have hsplit : Bits.ofBytes (bytes.take 4) ++ Bits.ofBytes (bytes.drop 4) =
        Bits.ofBytes bytes := by
      rw [← Bits.ofBytes_append, List.take_append_drop]
    rw [hbits, headerFields_eq, Bits.ofFields_append, Bits.ofFields_cons, Bits.ofFields_cons,
      Bits.ofFields_nil, List.append_nil, ← hstart, List.append_assoc] at hsplit
    have hfour : (bytes.take 4).length = 4 := List.length_take_of_le (by omega)
    obtain ⟨hfront, -⟩ := List.append_inj hsplit (by
      rw [Bits.ofBytes_length, Bits.ofBytes_length, hfour]; rfl)
    rw [← Bits.ofBytes_injective hfront]
    exact List.take_prefix _ _
  size := by
    have hmax : tsPayloadMax = 184 := rfl
    have hlength := pesPacketLength_eq hbits
    have hor : pesLength (bytes.drop pesHdr.length) =
        (bytes.getD 4 0).toNat * 256 + (bytes.getD 5 0).toNat := by
      rw [pesLength, ← Nat.shiftLeft_add_eq_or_of_lt (BitVec.isLt _), Nat.shiftLeft_eq]
      simp only [List.getD_eq_getElem?_getD, List.getElem?_drop]
      rfl
    rw [pesSize, hor, hlength, Nat.mod_eq_of_lt (by omega)]
    change 4 + 2 + (bytes.length - 6) = bytes.length
    omega
  small := hlen.trans_le hsmall

/-- The PES packet of a frame is parsed: the lines are those read back for the packets. -/
lemma klvancSmpte2038ParsePesPacket_frame (hne : pkts ≠ [])
    (hpkts : ∀ pkt ∈ pkts, pkt.payloadLengthWords ≤ 255)
    (hbits : Bits.ofBytes bytes =
      Bits.ofFields (headerFields (bytes.length - 6) pts) ++ pkts.flatMap lineBits)
    (hlt : bytes.length < 2 ^ 31) :
    ∃ pkt, klvancSmpte2038ParsePesPacket bytes bytes.length = pure (0, some pkt) ∧
      pkt.lines = pkts.map readBack := by
  obtain ⟨init, last, rfl⟩ : ∃ init last, pkts = init ++ [last] :=
    ⟨pkts.dropLast, pkts.getLast hne, (List.dropLast_append_getLast hne).symm⟩
  have hlen := congrArg List.length hbits
  rw [Bits.ofBytes_length, List.length_append, flatMap_lineBits_length] at hlen
  have hreads : (klbsReadSetBuffer bytes bytes.length).Reads _ :=
    KlbsContext.Reads.setBuffer (by omega)
  rw [hbits] at hreads
  obtain ⟨bs, hheader, hrest, hfaults, -⟩ := parsePesHeader_yields _ pts _ _ hreads
  rw [← List.append_nil (List.flatMap _ _)] at hrest
  obtain ⟨bs', hfaults', hlines⟩ := @parsePesPayloadInt_lines last init bs 0 hpkts hrest (by omega)
  rw [if_pos (Or.inl (Nat.zero_le 4))] at hlines
  have hpacket := parsePesPacket_of_ok hheader
  rw [hlines] at hpacket
  exact ⟨_, hpacket.trans (Checked.ext rfl (hfaults'.trans hfaults)), rfl⟩

end Frame

/-! ### Frames of packets -/

/-- An ancillary data packet as it was found: where it stood, and the words of its line from there
on. -/
structure AncPacket where
  packet : SdiPacket
  lineNr : ℕ
  raw : List Word
  off : ℕ
  /-- The line number has 11 bits. -/
  lineNr_lt : lineNr < 2048

namespace AncPacket

/-- The header that is appended to a frame. -/
def header (a : AncPacket) : KlvancPacketHeader := a.packet.header a.lineNr a.raw a.off

/-- The header of the packet on a line of its own. -/
def received (a : AncPacket) : KlvancPacketHeader := a.packet.header a.lineNr a.packet.words 0

lemma header_payloadLengthWords_le (a : AncPacket) : a.header.payloadLengthWords ≤ 255 :=
  (List.length_map _).trans_le a.packet.bytes_le

end AncPacket

/-- A counter to which nothing is added stays as it is. -/
lemma add_ofNat_zero (x : BitVec 32) : x + BitVec.ofNat 32 0 = x := BitVec.add_zero x

/-- The context after `count` PES packets with the packets `as`. -/
def AppContext.took (ctx : AppContext) (count : ℕ) (as : List AncPacket) : AppContext where
  pesPacketsFound := ctx.pesPacketsFound + BitVec.ofNat 32 count
  vancPacketsFound := ctx.vancPacketsFound + BitVec.ofNat 32 as.length
  pe := ctx.pe
  vanchdl := (as.map AncPacket.received).foldl processPacket ctx.vanchdl

/-- No PES packet without packets leaves the context as it is. -/
lemma AppContext.took_nil (ctx : AppContext) : ctx.took 0 [] = ctx := by
  rw [took, List.length_nil, add_ofNat_zero, add_ofNat_zero]
  rfl

lemma AppContext.took_took (ctx : AppContext) (m n : ℕ) (as bs : List AncPacket) :
    (ctx.took m as).took n bs = ctx.took (m + n) (as ++ bs) := by
  rw [took, took, took, List.length_append, List.map_append, List.foldl_append, BitVec.ofNat_add,
    BitVec.ofNat_add, ← BitVec.add_assoc, ← BitVec.add_assoc]

/-- A line that is read back for a packet is handed to the library as the packet on its line. -/
lemma pesCbLine_readBack (ctx : AppContext) (a : AncPacket) :
    pesCbLine ctx (readBack a.header) = ctx.took 0 [a] := by
  have hline : (readBack a.header).lineNumber.toNat = a.lineNr := by
    have hlt := a.lineNr_lt
    change (BitVec.ofNat 16 (a.lineNr % 2 ^ 11)).toNat = a.lineNr
    rw [BitVec.toNat_ofNat]
    omega
  have hwords : klvancSmpte2038ConvertLineToWords (readBack a.header) = a.packet.words :=
    klvancSmpte2038ConvertLineToWords_readBack a.packet a.lineNr a.raw a.off
  rw [pesCbLine, hwords, hline, klvancPacketParse_words, AppContext.took, add_ofNat_zero]
  rfl

/-- The lines of a frame are handed to the library one after the other. -/
lemma foldl_pesCbLine (ctx : AppContext) (as : List AncPacket) :
    ((as.map AncPacket.header).map readBack).foldl pesCbLine ctx = ctx.took 0 as := by
  induction as generalizing ctx with
  | nil => exact ctx.took_nil.symm
  | cons a as ih =>
    rw [List.map_cons, List.map_cons, List.foldl_cons, pesCbLine_readBack, ih, AppContext.took_took]
    rfl

/-- A frame with packets that fits into a PES packet which the extractor can take. -/
structure AncFrame where
  pts : BitVec 64
  packets : List AncPacket
  packets_ne : packets ≠ []
  small : 14 + lineOctets (packets.map AncPacket.header) ≤ 89 * tsPayloadMax

lemma AncFrame.headers_ne (frame : AncFrame) : frame.packets.map AncPacket.header ≠ [] :=
  fun hnil => frame.packets_ne (List.map_eq_nil_iff.mp hnil)

/-- What the packetizer is called with. -/
def AncFrame.sent (frame : AncFrame) : BitVec 64 × List KlvancPacketHeader :=
  (frame.pts, frame.packets.map AncPacket.header)

/-- The PES packet of a frame. -/
structure AncFrame.MadeAs (frame : AncFrame) (bytes : List Byte) : Prop where
  length : bytes.length = 14 + lineOctets (frame.packets.map AncPacket.header)
  bits : Bits.ofBytes bytes = Bits.ofFields (headerFields (bytes.length - 6) frame.pts) ++
    (frame.packets.map AncPacket.header).flatMap lineBits

section Frames

variable {frames : List AncFrame} {sections : List (List Byte)}

lemma forall_header_payloadLengthWords_le (as : List AncPacket) :
    ∀ pkt ∈ as.map AncPacket.header, pkt.payloadLengthWords ≤ 255 := by
  intro pkt hmem
  obtain ⟨a, -, rfl⟩ := List.mem_map.mp hmem
  exact a.header_payloadLengthWords_le

/-- A packetizer makes the PES packets of the frames, whatever it has been used for. -/
theorem packetizeFrames_eq {ctx : KlvancSmpte2038Packetizer} {bits : List Bool} (h : Holds ctx bits)
    (fresh : ℕ → Byte) (frames : List AncFrame) :
    ∃ sections, packetizeFrames fresh ctx (frames.map AncFrame.sent) = pure sections ∧
      List.Forall₂ AncFrame.MadeAs frames sections := by
  induction frames generalizing ctx bits with
  | nil => exact ⟨[], rfl, .nil⟩
  | cons frame frames ih =>
    have hmax : tsPayloadMax = 184 := rfl
    have hsmall := frame.small
    rw [hmax] at hsmall
    have hne := frame.headers_ne
    have hpkts := forall_header_payloadLengthWords_le frame.packets
    obtain ⟨ctx', hframe, hholds, hused, hbits⟩ := @packetizeFrame_eq _ _ fresh _ frame.pts h hne
      hpkts (not_abort_of_le h hne hpkts (by omega))
    obtain ⟨sections, hsections, hmade⟩ := ih hholds
    have hlen : (ctx'.buf.take ctx'.bufused).length = ctx'.bufused := by
      rw [List.length_take, hholds.length_eq]
      exact min_eq_left hholds.bufused_le
    refine ⟨ctx'.buf.take ctx'.bufused :: sections, ?_, .cons ⟨hlen.trans hused, ?_⟩ hmade⟩
    · rw [List.map_cons, packetizeFrames]
      dsimp only [AncFrame.sent]
      rw [hframe, pure_bind]
      dsimp only
      rw [hsections, pure_bind]
    · rw [hlen]
      exact hbits

/-- The extractor finds the PES packets of frames. -/
lemma isPesSection_of_made (h : List.Forall₂ AncFrame.MadeAs frames sections) :
    ∀ bytes ∈ sections, IsPesSection bytes := by
  induction h with
  | nil => exact fun _ hmem => absurd hmem List.not_mem_nil
  | @cons frame _ _ _ hframe _ ih =>
    exact List.forall_mem_cons.mpr
      ⟨isPesSection_of_bits hframe.length hframe.bits frame.small, ih⟩

/-- The callback with a packet that is parsed. -/
lemma pesCb_of_parsed {ctx : AppContext} {buf : List Byte} {pkt : KlvancSmpte2038AncDataPacket}
    (h : klvancSmpte2038ParsePesPacket buf buf.length = pure (0, some pkt)) :
    pesCb ctx buf = pkt.lines.foldl pesCbLine (ctx.took 1 []) := by
  have hfaults : ctx.vanchdl.addFaults [] = ctx.vanchdl := KlvancRun.addFaults_nil _
  rw [pesCb, h]
  dsimp only [Checked.pure_val, Checked.pure_faults]
  rw [hfaults, AppContext.took, List.length_nil, add_ofNat_zero]
  rfl

/-- The callback hands the packets of a frame to the library. -/
lemma pesCb_frame {frame : AncFrame} {bytes : List Byte} (h : frame.MadeAs bytes)
    (ctx : AppContext) :
    pesCb ctx bytes = ctx.took 1 frame.packets := by
  have hmax : tsPayloadMax = 184 := rfl
  have hlength := h.length
  have hsmall := frame.small
  rw [hmax] at hsmall
  obtain ⟨pkt, hparse, hlines⟩ := klvancSmpte2038ParsePesPacket_frame frame.headers_ne
    (forall_header_payloadLengthWords_le _) h.bits (by omega)
  rw [pesCb_of_parsed hparse, hlines, foldl_pesCbLine, AppContext.took_took, List.nil_append]

/-- So does it with several frames. -/
lemma foldl_pesCb (h : List.Forall₂ AncFrame.MadeAs frames sections) (ctx : AppContext) :
    sections.foldl pesCb ctx = ctx.took frames.length (frames.flatMap AncFrame.packets) := by
  induction h generalizing ctx with
  | nil => exact ctx.took_nil.symm
  | cons hframe _ ih =>
    rw [List.foldl_cons, pesCb_frame hframe, ih, AppContext.took_took, List.flatMap_cons,
      List.length_cons, Nat.add_comm 1]

end Frames

/-! ### Datagrams -/

section Datagrams

variable {fresh : ℕ → Byte}

lemma foldl_pesCbLine_setPe (ctx : AppContext) (pe : PesExtractor)
    (ls : List KlvancSmpte2038AncDataLine) :
    ls.foldl pesCbLine (ctx.setPe pe) = (ls.foldl pesCbLine ctx).setPe pe := by
  induction ls generalizing ctx with
  | nil => rfl
  | cons l ls ih => exact ih (pesCbLine ctx l)

/-- The callback leaves the extractor alone. -/
lemma pesCb_setPe (ctx : AppContext) (pe : PesExtractor) (buf : List Byte) :
    pesCb (ctx.setPe pe) buf = (pesCb ctx buf).setPe pe := by
  unfold pesCb
  dsimp only
  cases (klvancSmpte2038ParsePesPacket buf buf.length).val.2 with
  | none => rfl
  | some pkt =>
    exact foldl_pesCbLine_setPe
      { ctx with
        pesPacketsFound := ctx.pesPacketsFound + 1
        vanchdl := ctx.vanchdl.addFaults (klvancSmpte2038ParsePesPacket buf buf.length).faults } pe
      pkt.lines

lemma foldl_pesCb_setPe (ctx : AppContext) (pe : PesExtractor) (msgs : List (List Byte)) :
    msgs.foldl pesCb (ctx.setPe pe) = (msgs.foldl pesCb ctx).setPe pe := by
  induction msgs generalizing ctx with
  | nil => rfl
  | cons msg msgs ih => rw [List.foldl_cons, pesCb_setPe, ih, List.foldl_cons]

/-- Receiving datagrams is pushing their packets and then handing on what comes out. -/
lemma udpCbs_eq (ctx : AppContext) (datagrams : List (List Byte)) :
    udpCbs fresh ctx datagrams =
      (do
        let (msgs, pe) ← pePushes fresh ctx.pe
          (datagrams.map fun buf => tsPacketsIn buf (buf.length / packetSize))
        pure (msgs.foldl pesCb (ctx.setPe pe))) := by
  induction datagrams generalizing ctx with
  | nil => rfl
  | cons buf datagrams ih =>
    have hstep : udpCbs fresh ctx (buf :: datagrams) =
        udpCb fresh ctx buf >>= fun ctx => udpCbs fresh ctx datagrams := List.foldlM_cons
    rw [hstep, udpCb, List.map_cons, pePushes, bind_assoc, bind_assoc]
    refine bind_congr fun r => ?_
    rw [pure_bind, ih, foldl_pesCb_setPe, bind_assoc]
    refine bind_congr fun r' => ?_
    rcases r' with ⟨msgs', pe'⟩
    rw [pure_bind]
    dsimp only
    rw [foldl_pesCb_setPe, foldl_pesCb_setPe, foldl_pesCb_setPe, List.foldl_append]
    rfl

/-- Frames that a packetizer has made, cut into transport packets by `ts_packetizer`, multiplexed
with packets on other PIDs, and received in any datagrams: the tool has counted them and their
packets, and the context of the library is as if the packets had been processed one after the
other. -/
theorem udpCbs_packetizeFrames {pid : Word} {pe : PesExtractor} (hnew : peAlloc fresh pid = some pe)
    (hpid : pid ≤ 0x1fff) {ctx : KlvancSmpte2038Packetizer} (hctx : Reachable ctx)
    (fresh' : ℕ → Byte)
    (cc : Byte) (frames : List AncFrame) (run : KlvancRun) :
    ∃ sections pkts cc', packetizeFrames fresh' ctx (frames.map AncFrame.sent) = pure sections ∧
      tsPacketizeSections pid cc sections = pure (pkts, cc') ∧ (∀ pkt ∈ pkts, packetPid pkt = pid) ∧
      ∀ datagrams : List (List Byte),
        ((datagrams.map fun buf => tsPacketsIn buf (buf.length / packetSize)).flatten).filter
            (fun pkt => packetPid pkt = pid) = pkts →
          ∃ pe', udpCbs fresh ⟨0, 0, pe, run⟩ datagrams =
            pure ⟨BitVec.ofNat 32 frames.length,
              BitVec.ofNat 32 (frames.flatMap AncFrame.packets).length, pe',
              ((frames.flatMap AncFrame.packets).map
                AncPacket.received).foldl processPacket run⟩ := by
  obtain ⟨bits, hholds⟩ := hctx.holds
  obtain ⟨sections, hsections, hmade⟩ := packetizeFrames_eq hholds fresh' frames
  have hpes := isPesSection_of_made hmade
  refine ⟨sections, _, _, hsections, tsPacketizeSections_eq hpid cc fun bytes hmem =>
    (hpes bytes hmem).tsFits, fun pkt hmem => (tsPacketsOfAll_onPid hpid cc sections pkt hmem).2.1,
    fun datagrams hpkts => ?_⟩
  obtain ⟨pe', hpush⟩ := pePushes_sections hnew hpid hpes hpkts
  refine ⟨pe', ?_⟩
  rw [udpCbs_eq, hpush, pure_bind]
  dsimp only
  rw [foldl_pesCb_setPe, foldl_pesCb hmade, AppContext.took, AppContext.setPe]
  dsimp only
  rw [zero_add, zero_add]

end Datagrams

/-- A datagram of whole packets. -/
lemma tsPacketsIn_flatMap (pkts : List TsPacket) :
    tsPacketsIn (pkts.flatMap Vector.toList) ((pkts.flatMap Vector.toList).length / packetSize) =
      pkts := by
  have hlen : (pkts.flatMap Vector.toList).length / packetSize = pkts.length := by
    rw [List.length_flatMap]
    simp [packetSize]
  have hpkts := map_zeroPad_flatMap pkts []
  rw [List.append_nil] at hpkts
  rw [hlen]
  exact hpkts

/-- The longest packet on line 9. -/
def longestAncPacket : AncPacket where
  packet := longestPacket
  lineNr := 9
  raw := longestPacket.words
  off := 0
  lineNr_lt := Nat.le_of_ble_eq_true rfl

/-- A packet of two octets on line 600. -/
def shortAncPacket : AncPacket where
  packet := shortPacket
  lineNr := 600
  raw := shortPacket.words
  off := 0
  lineNr_lt := Nat.le_of_ble_eq_true rfl

lemma lineOctets_longest_short :
    14 + lineOctets ([longestAncPacket, shortAncPacket].map AncPacket.header) ≤
      89 * tsPayloadMax := by
  have hlong : longestAncPacket.header.payloadLengthWords = 255 := longestHeader_payloadLengthWords
  have hshort : shortAncPacket.header.payloadLengthWords = 2 := rfl
  rw [List.map_cons, List.map_singleton, lineOctets, List.map_cons, List.map_singleton,
    List.sum_cons, List.sum_singleton, hlong, hshort]
  decide

lemma lineOctets_short :
    14 + lineOctets ([shortAncPacket].map AncPacket.header) ≤ 89 * tsPayloadMax := by
  have hshort : shortAncPacket.header.payloadLengthWords = 2 := rfl
  rw [List.map_singleton, lineOctets, List.map_singleton, List.sum_singleton, hshort]
  decide

/-- A frame with both packets, and a frame with the short one. -/
def twoFrames : List AncFrame :=
  [⟨0, [longestAncPacket, shortAncPacket], List.cons_ne_nil _ _, lineOctets_longest_short⟩,
    ⟨3003, [shortAncPacket], List.cons_ne_nil _ _, lineOctets_short⟩]

/-- The frames are received in two datagrams, the second of which begins with a packet on another
PID. -/
theorem udpCbs_packetizeFrames_two :
    ∃ pe sections pkts cc' pe', peAlloc (fun _ => 0) 0x80 = some pe ∧
      packetizeFrames (fun _ => 0) klvancSmpte2038PacketizerAlloc (twoFrames.map AncFrame.sent) =
        pure sections ∧
      tsPacketizeSections 0x80 0 sections = pure (pkts, cc') ∧
      udpCbs (fun _ => 0) ⟨0, 0, pe, .start .create⟩
          [(pkts.take 2).flatMap Vector.toList,
            (otherPacket :: pkts.drop 2).flatMap Vector.toList] =
        pure ⟨2, 3, pe', [longestPacket.header 9 longestPacket.words 0,
          shortPacket.header 600 shortPacket.words 0,
          shortPacket.header 600 shortPacket.words 0].foldl processPacket (.start .create)⟩ := by
  obtain ⟨sections, pkts, cc', hsections, hsent, honPid, hreceived⟩ :=
    @udpCbs_packetizeFrames (fun _ => 0) 0x80 _ rfl (by decide) _ .alloc (fun _ => 0) 0 twoFrames
      (.start .create)
  obtain ⟨pe', hudp⟩ := hreceived
    [(pkts.take 2).flatMap Vector.toList, (otherPacket :: pkts.drop 2).flatMap Vector.toList] (by
      rw [List.map_cons, List.map_singleton, tsPacketsIn_flatMap, tsPacketsIn_flatMap]
      exact filter_between honPid 2 packetPid_otherPacket)
  exact ⟨_, sections, pkts, cc', pe', rfl, hsections, hsent, hudp⟩

end Libklvanc.Smpte2038
