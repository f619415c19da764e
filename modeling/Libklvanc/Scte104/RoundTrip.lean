import Libklvanc.Core.PacketRoundTrip
import Libklvanc.Scte104.Decoded
import Libklvanc.Scte104.Encoded
import Libklvanc.Scte104.Framing

/-!
# SCTE-104 messages survive encoding and parsing

A message of at most 254 octets, whose operations are known and whose fields fit the wire, is made
into one ancillary data packet by `klvanc_convert_SCTE_104_to_words` (`messagePacket`), and
`klvanc_packet_parse` on its words hands a message with the same content to the `scte_104` callback,
once (`klvancConvertScte104ToWords_roundTrip`).
-/

namespace Libklvanc

/-! ### Encoding -/

section Encode

variable {pkt : KlvancPacketScte104}

/-- A packet that can be serialised is made into VANC words from its descriptor byte and its
octets. -/
lemma klvancConvertScte104ToWords_eq (hopID : pkt.soMsg.opID = 0xffff)
    (hops : pkt.moMsg.ops.length = pkt.moMsg.numOps.toNat)
    (henc : ∀ o ∈ pkt.moMsg.ops, OperationEncodes o) (hsize : pkt.moMsg.wireSize ≤ 2000) :
    klvancConvertScte104ToWords pkt =
      pure (klapiOk, klvancSdiCreatePayload 0x07 0x41 (0x08 :: pkt.moMsg.wire) 10) := by
  have hcopy := @copyFrom_wire .packetBytes _ _ _ _
    (MultipleOperationMessage.wireWith_length henc pkt.moMsg.wireSize)
    (OccursAt.append_right pkt.moMsg.wire (List.replicate (2000 - pkt.moMsg.wireSize) 0))
  unfold klvancConvertScte104ToWords
  rw [klvancConvertScte104ToPacketBytes_eq hopID hops henc hsize]
  refine (pure_bind (Except.ok _) _).trans ?_
  dsimp only
  rw [klvancConvertScte104PacketbytesToSmpte2010, if_neg (not_lt.mpr hsize), hcopy, pure_bind,
    pure_bind]
  rfl

end Encode

lemma scte104Did_ne : (0x41 : Byte) ≠ 0 := by decide

lemma scte104Sdid_ne : (0x07 : Byte) ≠ 0 := by decide

/-- The ancillary data packet that carries a message. -/
def messagePacket (m : MultipleOperationMessage) (h : m.wire.length ≤ 254) : SdiPacket where
  did := 0x41
  sdid := 0x07
  bytes := 0x08 :: m.wire
  did_ne := scte104Did_ne
  sdid_ne := scte104Sdid_ne
  bytes_pos := by simp
  bytes_le := by rw [List.length_cons]; omega

/-! ### Parsing -/

section Parse

variable {m : MultipleOperationMessage} {lineNr : ℕ} {hlen : m.wire.length ≤ 254}

/-- The message carried by the packet of a message begins with its octets. -/
lemma messageOctets_messagePacket (raw : List Word) (off : ℕ) :
    OccursAt m.wire (messageOctets ((messagePacket m hlen).header lineNr raw off)) 0 := by
  have hoctets : messageOctets ((messagePacket m hlen).header lineNr raw off) =
      m.wire ++ List.replicate (2000 - m.wire.length) 0 := by
    apply List.ext_getElem
    · simp [messageOctets]
      omega
    · intro i h₁ h₂
      simp only [messageOctets, List.getElem_map, List.getElem_range, SdiPacket.header_payloadByte,
        messagePacket, Nat.add_comm 1, List.getD_cons_succ, List.getElem_append,
        List.getElem_replicate]
      split_ifs with hi
      · exact List.getD_eq_getElem _ _ hi
      · exact List.getD_eq_default _ _ (not_lt.mp hi)
  rw [hoctets]
  exact OccursAt.append_right _ _

/-- The length of the message carried by the packet of a message. -/
lemma messageLength_messagePacket (raw : List Word) (off : ℕ) :
    messageLength ((messagePacket m hlen).header lineNr raw off) = m.wire.length := by
  have hlen' : ((messagePacket m hlen).header lineNr raw off).payloadLengthWords =
      m.wire.length + 1 := by
    simp [KlvancPacketHeader.payloadLengthWords, SdiPacket.header, messagePacket]
  rw [messageLength, hlen', uintSub_of_le (by omega) (by omega), Nat.add_sub_cancel]

/-- The packet of a message is decoded as a message with the same content, without a fault. -/
lemma parseScte104Message_messagePacket (hops : m.ops.length = m.numOps.toNat)
    (hsup : ∀ o ∈ m.ops, OperationSupported o) (henc : ∀ o ∈ m.ops, OperationEncodes o)
    (raw : List Word) (off : ℕ) :
    ∃ pkt', parseScte104Message ((messagePacket m hlen).header lineNr raw off) 0x08 =
        pure (some pkt') ∧
      pkt'.soMsg.opID = 0xffff ∧ SameMessage m pkt'.moMsg ∧
      pkt'.moMsg.messageSize.toNat = m.wireSize := by
  have hwire := MultipleOperationMessage.wireWith_length henc m.wireSize
  have hoccurs := @messageOctets_messagePacket m lineNr hlen raw off
  have hlength := @messageLength_messagePacket m lineNr hlen raw off
  obtain ⟨m', hparse, hsame, hsize⟩ := parseMultipleOperationMessage_wire hops hsup henc
    (by rw [← hwire]; exact hlen.trans_lt (by norm_num)) hoccurs
  have hopID : readBe16 .messagePayload
      (messageOctets ((messagePacket m hlen).header lineNr raw off)) 0 = pure 0xffff := by
    have hhead : OccursAt (Bits.bigEndian 2 (0xffff : Word).toNat ++ m.wire.drop 2)
      (messageOctets ((messagePacket m hlen).header lineNr raw off)) 0 := hoccurs
    exact readBe16_wire (OccursAt.append_iff.mp hhead).1
  rw [← hwire, ← MultipleOperationMessage.wire, ← hlength] at hparse
  unfold parseScte104Message
  dsimp only
  rw [hopID, pure_bind, if_pos rfl, hparse, pure_bind]
  exact ⟨_, rfl, rfl, hsame, hsize⟩

/-- A packet with the descriptor of a whole message that decodes without a fault is handed to the
`scte_104` callback, once. -/
lemma processPacket_scte104 {run : KlvancRun} {hdr : KlvancPacketHeader} {pkt : KlvancPacketScte104}
    (hreg : run.ctx.registered (·.scte104) = true) (hvalid : hdr.checksumValid = true)
    (htype : hdr.type = .scte104) (hdesc : hdr.payloadByte 0 = 0x08)
    (hpkt : parseScte104Message hdr 0x08 = pure (some pkt)) :
    (processPacket run hdr).scte104Packets = run.scte104Packets ++ [pkt] ∧
      (processPacket run hdr).faults = run.faults := by
  obtain ⟨run', hprocess, hregistered, hfaults, hpackets, -⟩ := processPacket_valid run hdr hvalid
  have hreg' : run'.ctx.registered (·.scte104) = true := by rwa [hregistered]
  rw [hprocess, ← hpackets, ← hfaults]
  unfold parseByType
  rw [htype]
  dsimp only
  rw [parseSCTE104_whole hreg' hdesc, deliverScte104, hpkt]
  exact ⟨by simp [KlvancRun.scte104Packets], List.append_nil _⟩

end Parse

/-- The octets of a single operation are no more than those of the message. -/
lemma dataSize_le_wireSize {m : MultipleOperationMessage} {o : MultipleOperationMessageOperation}
    (ho : o ∈ m.ops) {k : MomOperation} (hk : MomOperation.ofID o.opID = some k) :
    o.dataSize k ≤ m.wireSize := by
  have hle : operationWireSize o ≤ (m.ops.map operationWireSize).sum :=
    List.single_le_sum (fun _ _ => Nat.zero_le _) _ (List.mem_map_of_mem ho)
  have hsize : operationWireSize o = 4 + o.dataSize k := by rw [operationWireSize, hk]
  unfold MultipleOperationMessage.wireSize
  omega

/-- A message of at most 254 octets, with known operations whose fields fit the wire, can be
serialised. -/
lemma operationEncodes_of_supported {m : MultipleOperationMessage} (hsize : m.wireSize ≤ 254)
    (hsup : ∀ o ∈ m.ops, OperationSupported o) : ∀ o ∈ m.ops, OperationEncodes o := by
  intro o ho k hk
  obtain ⟨k', hk', hfit⟩ := hsup o ho
  obtain rfl : k' = k := Option.some.inj (hk'.symm.trans hk)
  refine ⟨(dataSize_le_wireSize ho hk).trans (hsize.trans (by norm_num)), ?_⟩
  rintro rfl
  exact hfit

/-- A multiple operation message of at most 254 octets, with any timestamp and with known operations
whose fields fit the wire, is converted to VANC words, and `klvanc_packet_parse` on these words
hands a message with the same content to the `scte_104` callback, exactly once, with the byte count
of the conversion as its size. Nothing meets a fault on the way. -/
theorem klvancConvertScte104ToWords_roundTrip {pkt : KlvancPacketScte104}
    (hopID : pkt.soMsg.opID = 0xffff) (hops : pkt.moMsg.ops.length = pkt.moMsg.numOps.toNat)
    (hsup : ∀ o ∈ pkt.moMsg.ops, OperationSupported o) (hsize : pkt.moMsg.wireSize ≤ 254)
    (lineNr : ℕ) {run : KlvancRun} (hreg : run.ctx.registered (·.scte104) = true) :
    ∃ bytes words pkt',
      klvancConvertScte104ToPacketBytes pkt = ⟨.ok (bytes, pkt.moMsg.wireSize), []⟩ ∧
      klvancConvertScte104ToWords pkt = ⟨(klapiOk, some words), []⟩ ∧
      (klvancPacketParse lineNr words words.length run).1 = 1 ∧
      (klvancPacketParse lineNr words words.length run).2.scte104Packets =
        run.scte104Packets ++ [pkt'] ∧
      (klvancPacketParse lineNr words words.length run).2.faults = run.faults ∧
      (klvancPacketParse lineNr words words.length run).2.lineFaults = run.lineFaults ∧
      pkt'.soMsg.opID = 0xffff ∧ SameMessage pkt.moMsg pkt'.moMsg ∧
      pkt'.moMsg.messageSize.toNat = pkt.moMsg.wireSize := by
  have henc := operationEncodes_of_supported hsize hsup
  have hwire := MultipleOperationMessage.wireWith_length henc pkt.moMsg.wireSize
  have hlen : pkt.moMsg.wire.length ≤ 254 := hwire.trans_le hsize
  have hwords := klvancConvertScte104ToWords_eq hopID hops henc (hsize.trans (by norm_num))
  have hcreate := (messagePacket pkt.moMsg hlen).create_eq
  have hparse := @klvancPacketParse_words lineNr run (messagePacket pkt.moMsg hlen)
  obtain ⟨pkt', hpkt, hopID', hsame, hmessageSize⟩ := @parseScte104Message_messagePacket
    _ lineNr hlen hops hsup henc (messagePacket pkt.moMsg hlen).words 0
  obtain ⟨hpackets, hfaults⟩ := @processPacket_scte104 run _ _ hreg rfl rfl
    (SdiPacket.header_payloadByte _ _ _ _ _) hpkt
  refine ⟨_, (messagePacket pkt.moMsg hlen).words, pkt',
    klvancConvertScte104ToPacketBytes_eq hopID hops henc (hsize.trans (by norm_num)),
    hwords.trans (congrArg (fun w => pure (klapiOk, w)) hcreate), ?_⟩
  rw [hparse]
  exact ⟨rfl, hpackets, hfaults, processPacket_lineFaults _ _, hopID', hsame, hmessageSize⟩

/-- A message with a timestamp and two operations, one of them with two DTMF characters. -/
def dtmfPacket : KlvancPacketScte104 where
  soMsg := { opID := 0xffff }
  moMsg :=
    { messageNumber := 7
      timestamp := { timeType := 2, timeType2 := { hours := 1, minutes := 2, seconds := 3 } }
      numOps := 2
      ops :=
        [{ opID := 0x104, timesignalData := { preRollTime := 4000 } },
          { opID := 0x109
            dtmfData :=
              { preRollTime := 50, dtmfLength := 2
                dtmfChar := #v[0x31, 0x2a, 0, 0, 0, 0, 0] } }] }

/-- The message with DTMF characters is handed to the callback with its content. -/
theorem klvancConvertScte104ToWords_roundTrip_dtmf :
    ∃ words pkt', klvancConvertScte104ToWords dtmfPacket = ⟨(klapiOk, some words), []⟩ ∧
      (klvancPacketParse 9 words words.length (.start scte104Context)).2.scte104Packets = [pkt'] ∧
      SameMessage dtmfPacket.moMsg pkt'.moMsg := by
  obtain ⟨-, words, pkt', -, hwords, -, hpackets, -, -, -, hsame, -⟩ :=
    @klvancConvertScte104ToWords_roundTrip dtmfPacket rfl rfl (by decide) (by decide) 9
      (.start scte104Context) rfl
  exact ⟨words, pkt', hwords, hpackets, hsame⟩

end Libklvanc
