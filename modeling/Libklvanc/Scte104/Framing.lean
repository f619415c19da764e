import Libklvanc.Foundation.Records
import Libklvanc.Scte104.Parse

/-!
# The framing of multiple operation messages

A multiple operation message announces its own extent: behind ten octets of fixed header stands a
timestamp whose size depends on its type, then the number of operations, and then the operations,
each with a header of four octets that holds its data length. `messageEnd` is the position at which
a walk over all this ends.

The parser compares the data length of an operation with what remains at the operation's header,
and thereby leaves out the four octets of the header itself; the timestamp and the number of
operations it does not compare with anything. Hence a message is accepted when its last operation
ends up to four octets behind the message (`parseMultipleOperationMessage_isSome`), and the framing
stays inside the message exactly outside this window (`parseSCTE104_framing_iff`).
-/

namespace Libklvanc

section Layout

variable (payload : List Byte)

/-- The data length announced by the operation at octet `pos`. -/
def operationDataLength (pos : ℕ) : ℕ :=
  (be16 (payload.getD (pos + 2) 0) (payload.getD (pos + 3) 0)).toNat

/-- The size of the operation at octet `pos`: its header and its data. -/
def operationSize (pos : ℕ) : ℕ := 4 + operationDataLength payload pos

/-- The size of a timestamp of a given type. -/
def timestampSize (timeType : Byte) : ℕ :=
  if timeType = 1 then 7 else if timeType = 2 then 5 else if timeType = 3 then 3 else 1

/-- The octet behind the timestamp: the number of operations. -/
def numOpsPos : ℕ := 10 + timestampSize (payload.getD 10 0)

/-- The number of operations. -/
def announcedOps : ℕ := (payload.getD (numOpsPos payload) 0).toNat

/-- The positions at which the announced operations start. -/
def operationStarts : List ℕ :=
  Records.starts (operationSize payload) (numOpsPos payload + 1) (announcedOps payload)

/-- The position at which the announced message ends. -/
def messageEnd : ℕ :=
  Records.walk (operationSize payload) (numOpsPos payload + 1) (announcedOps payload)

/-- The fixed header, the timestamp, the number of operations and every operation, header and data,
lie within the first `L` octets. -/
def FramedWithin (L : ℕ) : Prop :=
  10 ≤ L ∧ numOpsPos payload ≤ L ∧ numOpsPos payload + 1 ≤ L ∧
    ∀ i ∈ operationStarts payload, i + 4 + operationDataLength payload i ≤ L

end Layout

section Message

variable {payload : List Byte} {L : ℕ}

/-- A timestamp has at least its type. -/
lemma timestampSize_pos (timeType : Byte) : 0 < timestampSize timeType := by
  unfold timestampSize
  split_ifs <;> norm_num

/-- A message is framed within `L` octets exactly when it ends within them. -/
lemma framedWithin_iff : FramedWithin payload L ↔ messageEnd payload ≤ L := by
  have hts := timestampSize_pos (payload.getD 10 0)
  have hspan : ∀ i, i + 4 + operationDataLength payload i = i + operationSize payload i :=
    fun i => Nat.add_assoc _ _ _
  unfold FramedWithin messageEnd operationStarts
  simp only [hspan]
  rcases Nat.eq_zero_or_pos (announcedOps payload) with hzero | hpos
  · simp only [hzero, Records.starts, Records.walk, List.not_mem_nil, false_imp_iff, implies_true,
      and_true, numOpsPos]
    omega
  · rw [Records.forall_starts_le_iff hpos]
    refine ⟨fun h => h.2.2.2, fun h => ?_⟩
    have hle := (@Records.le_walk (operationSize payload) (numOpsPos payload + 1)
      (announcedOps payload)).trans h
    unfold numOpsPos at hle ⊢
    exact ⟨by omega, by omega, hle, h⟩

/-- The value of two octets read from the message. -/
@[simp] lemma readBe16_val (obj : MemObject) (p : List Byte) (i : ℕ) :
    (readBe16 obj p i).val = be16 (p.getD i 0) (p.getD (i + 1) 0) := by
  simp only [readBe16, Checked.bind_val, Checked.pure_val, Checked.read_val]

/-- The octet behind the timestamp. -/
lemma parseMomTimestamp_snd (i : ℕ) :
    (parseMomTimestamp payload i).val.2 = i + timestampSize (payload.getD i 0) := by
  simp only [parseMomTimestamp, timestampSize, Checked.bind_val, Checked.read_val]
  split_ifs <;> rfl

/-- The loop over the operations accepts them exactly when the data of each, counted from the
operation's header, end within the message. -/
lemma parseOperations_isSome {pos count : ℕ} :
    (parseOperations payload L pos count).val.isSome ↔
      ∀ i ∈ Records.starts (operationSize payload) pos count,
        i + operationDataLength payload i ≤ L := by
  induction count generalizing pos with
  | zero => simp [parseOperations, Records.starts]
  | succ count ih =>
    simp only [parseOperations, Checked.bind_val, readBe16_val, Records.starts,
      List.forall_mem_cons]
    rw [← operationDataLength, ← operationSize, ← ih]
    split_ifs with h
    · simp only [Checked.pure_val, Option.isSome_none, Bool.false_eq_true, false_iff, not_and]
      omega
    · simp only [Checked.bind_val, Checked.pure_val, Option.isSome_map]
      exact ⟨fun hsome => ⟨by omega, hsome⟩, And.right⟩

/-- The loop over the operations lets the last operation end four octets behind the message. -/
lemma parseOperations_isSome_iff_walk {pos count : ℕ} :
    (parseOperations payload L pos count).val.isSome ↔
      count = 0 ∨ Records.walk (operationSize payload) pos count ≤ L + 4 := by
  rw [parseOperations_isSome]
  rcases Nat.eq_zero_or_pos count with rfl | hpos
  · simp [Records.starts]
  · rw [← Records.forall_starts_le_iff hpos]
    simp only [hpos.ne', false_or, operationSize]
    exact forall₂_congr fun i _ => by omega

/-- A multiple operation message is accepted exactly when its header and its announced size lie
inside the message, and its last operation ends at most four octets behind it. -/
lemma parseMultipleOperationMessage_isSome :
    (parseMultipleOperationMessage payload L).val.isSome ↔
      10 ≤ L ∧ (be16 (payload.getD 2 0) (payload.getD 3 0)).toNat ≤ L ∧
        (announcedOps payload = 0 ∨ messageEnd payload ≤ L + 4) := by
  unfold parseMultipleOperationMessage
  split_ifs with hlen
  · simp only [Checked.pure_val, Option.isSome_none, Bool.false_eq_true, false_iff, not_and]
    omega
  · simp only [Checked.bind_val, readBe16_val, Nat.reduceAdd]
    split_ifs with hsize
    · simp only [Checked.pure_val, Option.isSome_none, Bool.false_eq_true, false_iff, not_and]
      omega
    · simp only [Checked.bind_val, Checked.pure_val, Option.isSome_map, Checked.read_val,
        parseMomTimestamp_snd, parseOperations_isSome_iff_walk]
      rw [← numOpsPos, ← announcedOps, ← messageEnd]
      exact ⟨fun h => ⟨by omega, by omega, h⟩, fun h => h.2.2⟩

end Message

/-! ### Packets with a whole message -/

/-- The message carried by a packet is one that passes the tests made before the operations are
looked at: a multiple operation message that holds its fixed header and its announced size. -/
def PassesSizeTests (hdr : KlvancPacketHeader) : Prop :=
  be16 ((messageOctets hdr).getD 0 0) ((messageOctets hdr).getD 1 0) = 0xffff ∧
    10 ≤ messageLength hdr ∧
      (be16 ((messageOctets hdr).getD 2 0) ((messageOctets hdr).getD 3 0)).toNat ≤ messageLength hdr

/-- The announced end of the message is behind the message, but not by more than the parser leaves
out of account: not at all bounded when there is no operation, and four octets otherwise. -/
def OverrunsUnnoticed (hdr : KlvancPacketHeader) : Prop :=
  messageLength hdr < messageEnd (messageOctets hdr) ∧
    (announcedOps (messageOctets hdr) = 0 ∨
      messageEnd (messageOctets hdr) ≤ messageLength hdr + 4)

instance (hdr : KlvancPacketHeader) : Decidable (PassesSizeTests hdr) := by
  unfold PassesSizeTests
  infer_instance

instance (hdr : KlvancPacketHeader) : Decidable (OverrunsUnnoticed hdr) := by
  unfold OverrunsUnnoticed
  infer_instance

section Packet

variable {run : KlvancRun} {hdr : KlvancPacketHeader} {descriptor : Byte}

/-- The message of a packet is decoded exactly when it passes the tests of its size and the loop
over its operations accepts them. -/
lemma parseScte104Message_isSome :
    (parseScte104Message hdr descriptor).val.isSome ↔
      PassesSizeTests hdr ∧ (announcedOps (messageOctets hdr) = 0 ∨
        messageEnd (messageOctets hdr) ≤ messageLength hdr + 4) := by
  unfold parseScte104Message PassesSizeTests
  simp only [Checked.bind_val, readBe16_val, Nat.zero_add]
  split_ifs with hop
  · simp only [Checked.bind_val, Checked.pure_val, Option.isSome_map,
      parseMultipleOperationMessage_isSome]
    exact ⟨fun h => ⟨⟨hop, h.1, h.2.1⟩, h.2.2⟩, fun h => ⟨h.1.2.1, h.1.2.2, h.2⟩⟩
  · simp only [Checked.pure_val, Option.isSome_none, Bool.false_eq_true, false_iff]
    exact fun h => hop h.1.1

/-- What a decoded packet keeps of the packet it was taken from. -/
lemma parseScte104Message_payload {pkt : KlvancPacketScte104}
    (h : (parseScte104Message hdr descriptor).val = some pkt) :
    pkt.payload = messageOctets hdr ∧ pkt.payloadLengthBytes = messageLength hdr := by
  unfold parseScte104Message at h
  simp only [Checked.bind_val] at h
  split_ifs at h with hop
  simp only [Checked.bind_val, Checked.pure_val, Option.map_eq_some_iff] at h
  obtain ⟨m, -, rfl⟩ := h
  dsimp only
  trivial

/-- A packet with the descriptor of a whole message is handed to the application exactly when its
message is decoded. -/
lemma parseSCTE104_whole (hreg : run.ctx.registered (·.scte104) = true)
    (hdesc : hdr.payloadByte 0 = 0x08) :
    parseSCTE104 run hdr =
      deliverScte104 (run.setFragments (messageFragmentReset run.ctx.scte104)) hdr 0x08 := by
  simp [parseSCTE104, hreg, hdesc]

/-- The callbacks made for a whole message. -/
lemma deliverScte104_calls :
    (deliverScte104 run hdr descriptor).2.calls =
      run.calls ++ ((parseScte104Message hdr descriptor).val.map .scte104).toList := by
  unfold deliverScte104
  cases hpkt : (parseScte104Message hdr descriptor).val with
  | none => simp [hpkt]
  | some pkt => simp [hpkt]

/-- The faults met while delivering a message are those of decoding it. -/
lemma deliverScte104_faults :
    (deliverScte104 run hdr descriptor).2.faults =
      run.faults ++ (parseScte104Message hdr descriptor).faults := by
  unfold deliverScte104
  cases hpkt : (parseScte104Message hdr descriptor).val with
  | none => simp [hpkt]
  | some pkt => simp [hpkt]

/-- A message that is not decoded is refused. -/
lemma deliverScte104_fst :
    (deliverScte104 run hdr descriptor).1 =
      if (parseScte104Message hdr descriptor).val.isSome then klapiOk else -1 := by
  unfold deliverScte104
  cases hpkt : (parseScte104Message hdr descriptor).val with
  | none => simp [hpkt]
  | some pkt => simp [hpkt]

end Packet

/-- Framing stays inside the message of `hdr`: a decoded packet handed to the application is framed
within its payload, and a message that is not is refused. -/
def FramingStaysInside (run : KlvancRun) (hdr : KlvancPacketHeader) : Prop :=
  (∀ pkt, (parseSCTE104 run hdr).2.calls = run.calls ++ [.scte104 pkt] →
    FramedWithin pkt.payload pkt.payloadLengthBytes) ∧
  (¬FramedWithin (messageOctets hdr) (messageLength hdr) → (parseSCTE104 run hdr).1 < 0)

section Theorem

variable {run : KlvancRun} {hdr : KlvancPacketHeader}

/-- A message that overruns its end unnoticed is handed to the application. -/
lemma not_framingStaysInside (hreg : run.ctx.registered (·.scte104) = true)
    (hdesc : hdr.payloadByte 0 = 0x08) (hpass : PassesSizeTests hdr)
    (hover : OverrunsUnnoticed hdr) : ¬FramingStaysInside run hdr := by
  have hsome := (@parseScte104Message_isSome _ 0x08).mpr ⟨hpass, hover.2⟩
  obtain ⟨pkt, hpkt⟩ := Option.isSome_iff_exists.mp hsome
  obtain ⟨hpayload, hlength⟩ := parseScte104Message_payload hpkt
  intro h
  have hframed := h.1 pkt (by
    rw [parseSCTE104_whole hreg hdesc, deliverScte104_calls, hpkt]
    simp)
  rw [hpayload, hlength, framedWithin_iff] at hframed
  exact absurd hover.1 (not_lt.mpr hframed)

/-- A message that does not overrun its end unnoticed is refused if it overruns its end. -/
lemma framingStaysInside (hreg : run.ctx.registered (·.scte104) = true)
    (hdesc : hdr.payloadByte 0 = 0x08) (h : ¬(PassesSizeTests hdr ∧ OverrunsUnnoticed hdr)) :
    FramingStaysInside run hdr := by
  have hsome := @parseScte104Message_isSome hdr 0x08
  unfold FramingStaysInside
  rw [parseSCTE104_whole hreg hdesc, deliverScte104_calls, deliverScte104_fst, framedWithin_iff]
  cases hpkt : (parseScte104Message hdr 0x08).val with
  | none =>
    refine ⟨fun pkt hcalls => ?_, fun _ => by decide⟩
    simp at hcalls
  | some pkt =>
    -- the message is decoded, and thus it ends inside its length
    rw [hpkt] at hsome
    obtain ⟨hpass, hend⟩ := hsome.mp rfl
    obtain ⟨hpayload, hlength⟩ := parseScte104Message_payload hpkt
    have hinside : messageEnd (messageOctets hdr) ≤ messageLength hdr :=
      not_lt.mp fun hlt => h ⟨hpass, hlt, hend⟩
    refine ⟨fun pkt' hcalls => ?_, fun hover => absurd hinside hover⟩
    obtain rfl : pkt = pkt' := by simpa using hcalls
    rw [hpayload, hlength, framedWithin_iff]
    exact hinside

/-- `parse_SCTE_104` keeps the framing of a whole message inside the message exactly when the
message does not overrun its end unnoticed. -/
theorem parseSCTE104_framing_iff (hreg : run.ctx.registered (·.scte104) = true)
    (hdesc : hdr.payloadByte 0 = 0x08) :
    FramingStaysInside run hdr ↔ ¬(PassesSizeTests hdr ∧ OverrunsUnnoticed hdr) :=
  ⟨fun h hover => not_framingStaysInside hreg hdesc hover.1 hover.2 h,
    framingStaysInside hreg hdesc⟩

end Theorem

/-- A packet header that carries the payload octets `octets`. -/
def headerOf (octets : List Byte) : KlvancPacketHeader where
  type := .scte104
  adf := (0x000, 0x3ff, 0x3ff)
  did := 0x41
  dbnsdid := 0x07
  checksum := 0
  payload := octets.map fun b => b.setWidth 16
  checksumValid := true
  lineNr := 9
  raw := []
  rawLengthWords := 0
  horizontalOffset := 0

/-- A context with the `scte_104` callback. -/
def scte104Context : KlvancContext :=
  { KlvancContext.create with callbacks := some { scte104 := true } }

/-- A whole message of sixteen octets with one splice null request. -/
def spliceNullPacket : List Byte :=
  [0x08, 0xff, 0xff, 0x00, 0x10, 0x00, 0x00, 0x00, 0x00, 0x00, 0x00, 0x00, 0x01, 0x01, 0x02, 0x00,
    0x00]

/-- The same message cut off behind the number of operations, with its size adjusted. -/
def cutOffPacket : List Byte :=
  [0x08, 0xff, 0xff, 0x00, 0x0c, 0x00, 0x00, 0x00, 0x00, 0x00, 0x00, 0x00, 0x01]

/-- The framing of the whole message stays inside it. -/
theorem parseSCTE104_framing_spliceNull :
    FramingStaysInside (KlvancRun.start scte104Context) (headerOf spliceNullPacket) :=
  (parseSCTE104_framing_iff rfl rfl).mpr (by decide +kernel)

/-- The message that is cut off is handed to the application, with an operation behind its end. -/
theorem parseSCTE104_framing_cutOff :
    ¬∀ (run : KlvancRun) (hdr : KlvancPacketHeader), run.ctx.registered (·.scte104) = true →
      hdr.payloadByte 0 = 0x08 → hdr.payload.length ≤ 255 → FramingStaysInside run hdr := by
  intro h
  refine not_framingStaysInside rfl rfl ?_ ?_
    (h (KlvancRun.start scte104Context) (headerOf cutOffPacket) rfl rfl (by decide))
  · decide +kernel
  · decide +kernel

end Libklvanc
