import Libklvanc.Core.LinePackets
import Libklvanc.Scte104.RoundTrip

/-!
# A stream of SCTE-104 messages

A sender puts messages, each made into a packet by `klvanc_convert_SCTE_104_to_words`, on lines
among packets of other services; a receiver hands these lines to `klvanc_packet_parse`, one after
the other. Whatever else stands on the lines, and whatever fragments the receiver has pending, its
`scte_104` callback gets messages with the contents sent, each once and in order
(`parseLines_scte104Stream`).

By `parseLines_service` the callback sees the SCTE-104 packets alone, and each of these is a whole
message, for which the round trip of a single message answers.
-/

namespace Libklvanc

open SdiPacket

/-! ### What is sent -/

/-- A message that fits one packet: a multiple operation message with known operations whose fields
fit the wire. -/
structure SendableMessage where
  pkt : KlvancPacketScte104
  opID : pkt.soMsg.opID = 0xffff
  numOps : pkt.moMsg.ops.length = pkt.moMsg.numOps.toNat
  supported : ∀ o ∈ pkt.moMsg.ops, OperationSupported o
  wireSize_le : pkt.moMsg.wireSize ≤ 254

namespace SendableMessage

variable (m : SendableMessage)

lemma encodes : ∀ o ∈ m.pkt.moMsg.ops, OperationEncodes o :=
  operationEncodes_of_supported m.wireSize_le m.supported

lemma wire_length_le : m.pkt.moMsg.wire.length ≤ 254 :=
  (MultipleOperationMessage.wireWith_length m.encodes m.pkt.moMsg.wireSize).trans_le m.wireSize_le

/-- The packet that carries the message. -/
def sdiPacket : SdiPacket := messagePacket m.pkt.moMsg m.wire_length_le

/-- The words made for the message are those of its packet. -/
lemma toWords : klvancConvertScte104ToWords m.pkt = pure (klapiOk, some m.sdiPacket.words) := by
  rw [klvancConvertScte104ToWords_eq m.opID m.numOps m.encodes (m.wireSize_le.trans (by norm_num))]
  exact congrArg (fun w => pure (klapiOk, w)) m.sdiPacket.create_eq

/-- What is received for the message. -/
def ReceivedAs (pkt : KlvancPacketScte104) : Prop :=
  pkt.soMsg.opID = 0xffff ∧ SameMessage m.pkt.moMsg pkt.moMsg ∧
    pkt.moMsg.messageSize.toNat = m.pkt.moMsg.wireSize

end SendableMessage

/-- What a sender puts on a line: a message, or a packet of another service. -/
inductive LineItem
  | message (m : SendableMessage)
  | packet (p : SdiPacket) (h : ¬(p.did = 0x41 ∧ p.sdid = 0x07))

namespace LineItem

/-- The words the item takes on the line. -/
def words : LineItem → List Word
  | message m => (klvancConvertScte104ToWords m.pkt).val.2.getD []
  | packet p _ => p.words

/-- The packet that the item is. -/
def sdiPacket : LineItem → SdiPacket
  | message m => m.sdiPacket
  | packet p _ => p

/-- The message, if the item is one. -/
def message? : LineItem → Option SendableMessage
  | message m => some m
  | packet _ _ => none

/-- The words of an item are those of its packet. -/
lemma words_eq (i : LineItem) : i.words = i.sdiPacket.words := by
  cases i with
  | message m =>
    rw [words, m.toWords]
    rfl
  | packet p h => rfl

end LineItem

/-- The line with the number `l.1` on which the items `l.2` stand one after the other. -/
def sentLine (l : ℕ × List LineItem) : VancLine := ⟨l.1, l.2.flatMap LineItem.words⟩

/-- The messages on the lines, in order. -/
def sentMessages (lines : List (ℕ × List LineItem)) : List SendableMessage :=
  lines.flatMap fun l => l.2.filterMap LineItem.message?

/-! ### What is found -/

section Found

variable {lineNr : ℕ}

/-- The items stand on the line as their packets do. -/
lemma sentLine_words (l : ℕ × List LineItem) :
    (sentLine l).words = line (l.2.map LineItem.sdiPacket) := by
  rw [sentLine, line, List.flatMap_map]
  exact List.flatMap_congr fun i _ => i.words_eq

/-- A line of packets is empty or not shorter than one of them. -/
lemma parsable_line (lineNr : ℕ) (ps : List SdiPacket) :
    (⟨lineNr, line ps⟩ : VancLine).Parsable := by
  cases ps with
  | nil => exact Or.inl rfl
  | cons p ps =>
    refine Or.inr ?_
    rw [line_cons, List.length_append, p.words_length]
    omega

/-- The type of SCTE-104 has one entry in `types`. -/
lemma lookupTypeByDID_eq_scte104 {did sdid : Word}
    (h : lookupTypeByDID did sdid = .scte104) : did = 0x41 ∧ sdid = 0x07 := by
  unfold lookupTypeByDID at h
  split at h
  · next t ht =>
    have hmem := List.mem_of_find?_eq_some ht
    have hid := List.find?_some ht
    rw [Bool.and_eq_true, beq_iff_eq, beq_iff_eq] at hid
    obtain ⟨rfl, rfl⟩ := hid
    have hentry : ∀ t ∈ types, t.2.2 = .scte104 → t.1 = 0x41 ∧ t.2.1 = 0x07 := by decide
    exact hentry t hmem h
  · exact absurd h (by decide)

/-- A packet of another service is not of the type of SCTE-104. -/
lemma header_type_ne {p : SdiPacket} (h : ¬(p.did = 0x41 ∧ p.sdid = 0x07)) (raw : List Word)
    (off : ℕ) : (p.header lineNr raw off).type ≠ .scte104 := by
  intro htype
  obtain ⟨hdid, hsdid⟩ := lookupTypeByDID_eq_scte104 htype
  refine h ⟨?_, ?_⟩
  · have hlow := congrArg lowByte hdid
    simpa [lowByte] using hlow
  · have hlow := congrArg lowByte hsdid
    simpa [lowByte] using hlow

/-- The header reports the message `m`. -/
def SendableMessage.Reported (m : SendableMessage) (hdr : KlvancPacketHeader) : Prop :=
  ∃ lineNr raw off, hdr = m.sdiPacket.header lineNr raw off

/-- The SCTE-104 packets among the headers of some items are those of the messages. -/
lemma headers_scte104 (off : ℕ) (is : List LineItem) :
    List.Forall₂ SendableMessage.Reported (is.filterMap LineItem.message?)
      ((headersBefore [] lineNr off (is.map LineItem.sdiPacket)).filter (·.type = .scte104)) := by
  induction is generalizing off with
  | nil => exact List.Forall₂.nil
  | cons i is ih =>
    rw [List.map_cons, headersBefore, List.filter_cons]
    cases i with
    | message m =>
      rw [if_pos (by rfl)]
      exact List.Forall₂.cons ⟨_, _, _, rfl⟩ (ih _)
    | packet p h =>
      have hne : ((LineItem.packet p h).sdiPacket.header lineNr
          (line ((LineItem.packet p h).sdiPacket :: is.map LineItem.sdiPacket) ++ []) off).type ≠
            .scte104 :=
        header_type_ne h _ _
      rw [if_neg (by simpa using hne)]
      exact ih _

end Found

/-! ### What is received -/

section Receive

variable {ctx : KlvancContext} {lines : List (ℕ × List LineItem)}

/-- The SCTE-104 packets found on the lines are those of the messages sent. -/
lemma reportedOn_scte104 (ctx : KlvancContext)
    (hmax : ∀ l ∈ lines, (sentLine l).words.length ≤ packetMaxPayload) :
    List.Forall₂ SendableMessage.Reported (sentMessages lines)
      ((reportedOn ctx (lines.map sentLine)).filter (·.type = .scte104)) := by
  induction lines with
  | nil => exact List.Forall₂.nil
  | cons l lines ih =>
    obtain ⟨hl, hlines⟩ := List.forall_mem_cons.mp hmax
    rw [sentLine_words] at hl
    have hheaders : (sentLine l).headers = headersBefore [] l.1 0 (l.2.map LineItem.sdiPacket) := by
      rw [← headers_line l.1 hl, ← sentLine_words]
      rfl
    rw [reportedOn, List.map_cons, List.flatMap_cons, List.filter_append, hheaders,
      filter_reports_headersBefore, List.filter_append]
    exact List.rel_append (headers_scte104 0 l.2) (ih hlines)

/-- Decoding the packet of a message hands the message to the callback, without a fault. -/
lemma parseByType_reported {m : SendableMessage} {hdr : KlvancPacketHeader} (h : m.Reported hdr)
    {run : KlvancRun} (hreg : run.ctx.registered (·.scte104) = true) :
    ∃ pkt, m.ReceivedAs pkt ∧
      (parseByType run hdr).2.calls = run.calls ++ [.scte104 pkt] ∧
      (parseByType run hdr).2.faults = run.faults ∧
      (parseByType run hdr).2.ctx.settings = run.ctx.settings := by
  obtain ⟨lineNr, raw, off, rfl⟩ := h
  obtain ⟨pkt, hpkt, hopID, hsame, hsize⟩ := @parseScte104Message_messagePacket m.pkt.moMsg lineNr
    m.wire_length_le m.numOps m.supported m.encodes raw off
  have hdesc : (m.sdiPacket.header lineNr raw off).payloadByte 0 = 0x08 :=
    m.sdiPacket.header_payloadByte _ _ _ _
  refine ⟨pkt, ⟨hopID, hsame, hsize⟩, ?_⟩
  have hparse : (parseByType run (m.sdiPacket.header lineNr raw off)).2 =
      (run.setFragments (messageFragmentReset run.ctx.scte104)).call (.scte104 pkt) := by
    have htype : (m.sdiPacket.header lineNr raw off).type = .scte104 := rfl
    rw [parseByType, htype]
    dsimp only
    rw [parseSCTE104_whole hreg hdesc, deliverScte104,
      show parseScte104Message (m.sdiPacket.header lineNr raw off) 0x08 = _ from hpkt]
    exact congrArg (KlvancRun.call · _) (KlvancRun.addFaults_nil _)
  rw [hparse]
  exact ⟨rfl, rfl, rfl⟩

/-- Decoding the packets of messages hands the messages to the callback, without a fault. -/
lemma parseByTypes_reported {ms : List SendableMessage} {hdrs : List KlvancPacketHeader}
    (h : List.Forall₂ SendableMessage.Reported ms hdrs) {run : KlvancRun}
    (hreg : run.ctx.registered (·.scte104) = true) :
    ∃ pkts, List.Forall₂ SendableMessage.ReceivedAs ms pkts ∧
      (parseByTypes run hdrs).calls = run.calls ++ pkts.map .scte104 ∧
      (parseByTypes run hdrs).faults = run.faults := by
  induction h generalizing run with
  | nil => exact ⟨[], List.Forall₂.nil, (List.append_nil _).symm, rfl⟩
  | @cons m hdr ms hdrs hm _ ih =>
    obtain ⟨pkt, hpkt, hcalls, hfaults, hsettings⟩ := parseByType_reported hm hreg
    obtain ⟨pkts, hpkts, hcalls', hfaults'⟩ :=
      @ih (parseByType run hdr).2 (by rwa [registered_congr hsettings])
    refine ⟨pkt :: pkts, List.Forall₂.cons hpkt hpkts, ?_, hfaults'.trans hfaults⟩
    rw [hcalls, List.append_assoc] at hcalls'
    exact hcalls'

/-- The messages handed over are those of the calls of SCTE-104. -/
lemma scte104Packets_eq (run : KlvancRun) : run.scte104Packets =
    (run.calls.filter (·.service = some .scte104)).filterMap fun
      | .scte104 pkt => some pkt
      | _ => none := by
  rw [KlvancRun.scte104Packets, List.filterMap_filter]
  refine List.filterMap_congr fun c _ => ?_
  cases c <;> rfl

/-- A run over lines of packets reads inside them. -/
lemma parseLines_lineFaults (hmax : ∀ l ∈ lines, (sentLine l).words.length ≤ packetMaxPayload)
    (run : KlvancRun) : (parseLines run (lines.map sentLine)).lineFaults = run.lineFaults := by
  induction lines generalizing run with
  | nil => rfl
  | cons l lines ih =>
    obtain ⟨hl, hlines⟩ := List.forall_mem_cons.mp hmax
    have hline : (klvancPacketParse (sentLine l).lineNr (sentLine l).words
        (sentLine l).words.length run).2.lineFaults = run.lineFaults := by
      rw [sentLine_words] at hl ⊢
      rcases List.eq_nil_or_concat (l.2.map LineItem.sdiPacket) with hnil | ⟨ps, p, hps⟩
      · rw [hnil]
        rfl
      · exact klvancPacketParse_line_lineFaults (by simp [hps]) hl
    exact (ih hlines _).trans hline

end Receive

/-- A receiver with the `scte_104` callback set gets, from lines with messages of at most 254 octets
among packets of other services, messages with the contents sent, each once and in order, whatever
fragments it had pending. Nothing is read outside the lines, and the faults that the decoding of the
other services may meet are none of SCTE-104. -/
theorem parseLines_scte104Stream {lines : List (ℕ × List LineItem)}
    (hmax : ∀ l ∈ lines, (sentLine l).words.length ≤ packetMaxPayload) {ctx : KlvancContext}
    (hreg : ctx.registered (·.scte104) = true) :
    List.Forall₂ SendableMessage.ReceivedAs (sentMessages lines)
        (parseLines (.start ctx) (lines.map sentLine)).scte104Packets ∧
      (parseLines (.start ctx) (lines.map sentLine)).lineFaults = [] ∧
      ∀ f, f ∈ (parseLines (.start ctx) (lines.map sentLine)).faults →
        ∃ t, t ≠ .scte104 ∧ f ∈ (parseByTypes (.start ctx)
          ((reportedOn ctx (lines.map sentLine)).filter (·.type = t))).faults := by
  have hparsable : ∀ l ∈ lines.map sentLine, l.Parsable := by
    intro l hl
    obtain ⟨l, -, rfl⟩ := List.mem_map.mp hl
    have h := parsable_line l.1 (l.2.map LineItem.sdiPacket)
    rwa [← sentLine_words] at h
  obtain ⟨pkts, hpkts, hown, hnone⟩ :=
    @parseByTypes_reported _ _ (reportedOn_scte104 ctx hmax) (.start ctx) hreg
  have hpackets : (parseLines (.start ctx) (lines.map sentLine)).scte104Packets = pkts := by
    rw [scte104Packets_eq, filter_parseLines_calls hparsable, hown, KlvancRun.start_calls,
      List.nil_append, List.filterMap_map]
    exact List.filterMap_some
  refine ⟨hpackets ▸ hpkts, parseLines_lineFaults hmax _, fun f hf => ?_⟩
  obtain ⟨t, ht⟩ := (mem_parseLines_faults hparsable ctx f).mp hf
  refine ⟨t, ?_, ht⟩
  rintro rfl
  rw [hnone] at ht
  exact List.not_mem_nil ht

lemma dtmfPacket_supported : ∀ o ∈ dtmfPacket.moMsg.ops, OperationSupported o := by decide

lemma dtmfPacket_wireSize_le : dtmfPacket.moMsg.wireSize ≤ 254 := by decide

/-- The message with DTMF characters. -/
def dtmfMessage : SendableMessage :=
  ⟨dtmfPacket, rfl, rfl, dtmfPacket_supported, dtmfPacket_wireSize_le⟩

lemma afd_not_scte104 : ¬((0x41 : Byte) = 0x41 ∧ (0x05 : Byte) = 0x07) := by decide

/-- Two lines with the message on each, on the second one behind an AFD packet. -/
def dtmfLines : List (ℕ × List LineItem) :=
  [(9, [.message dtmfMessage]),
    (10, [.packet (.ofBytes 0x41 0x05 [0x44, 0, 0, 0, 0, 0, 0, 0] (Eq.refl true)) afd_not_scte104,
      .message dtmfMessage])]

/-- The message is received twice. -/
theorem parseLines_scte104Stream_dtmf :
    List.Forall₂ SendableMessage.ReceivedAs [dtmfMessage, dtmfMessage]
      (parseLines (.start scte104Context) (dtmfLines.map sentLine)).scte104Packets :=
  (@parseLines_scte104Stream dtmfLines (by decide +kernel) scte104Context rfl).1

end Libklvanc
