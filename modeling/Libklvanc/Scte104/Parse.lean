import Libklvanc.Scte104.Fragments
import Libklvanc.Scte104.OperationParsers

/-!
# Parsing SCTE-104 packets

`parse_SCTE_104` of `core-packet-scte_104.c`: the descriptor byte of a packet says whether it
carries a whole message or a fragment of one; a whole message, or one assembled from its fragments,
is decoded and handed to the application.
-/

namespace Libklvanc

section Message

variable (payload : List Byte) (payloadLengthBytes : ℕ)

/-- The loop of `parse_SCTE_104` over the operations, with the cursor at octet `pos`. -/
def parseOperations (pos : ℕ) :
    ℕ → Checked Fault (Option (List MultipleOperationMessageOperation))
  | 0 => pure (some [])
  | count + 1 => do
    let opID ← readBe16 .messagePayload payload pos
    let dataLength ← readBe16 .messagePayload payload (pos + 2)
    if payloadLengthBytes < pos + dataLength.toNat then
      pure none
    else
      let data ← copyFrom .messagePayload payload (pos + 4) dataLength.toNat
      let o ← parseOperation opID data
      let rest ← parseOperations (pos + (4 + dataLength.toNat)) count
      pure (rest.map (o :: ·))

/-- The branch of `parse_SCTE_104` that decodes a multiple operation message. -/
def parseMultipleOperationMessage : Checked Fault (Option MultipleOperationMessage) :=
  if payloadLengthBytes < 10 then
    pure none
  else do
    let rsvd ← readBe16 .messagePayload payload 0
    let messageSize ← readBe16 .messagePayload payload 2
    let protocolVersion ← readAt .messagePayload payload 4
    let asIndex ← readAt .messagePayload payload 5
    let messageNumber ← readAt .messagePayload payload 6
    let dpiPidIndex ← readBe16 .messagePayload payload 7
    let scte35ProtocolVersion ← readAt .messagePayload payload 9
    if payloadLengthBytes < messageSize.toNat then
      pure none
    else
      let (timestamp, pos) ← parseMomTimestamp payload 10
      let numOps ← readAt .messagePayload payload pos
      let ops ← parseOperations payload payloadLengthBytes (pos + 1) numOps.toNat
      pure (ops.map fun ops =>
        { rsvd, messageSize, protocolVersion, asIndex, messageNumber, dpiPidIndex,
          scte35ProtocolVersion, timestamp, numOps, ops })

end Message

/-- The array `payload` of the message carried by `hdr`: the payload behind the descriptor byte. -/
def messageOctets (hdr : KlvancPacketHeader) : List Byte :=
  (List.range 2000).map fun i => hdr.payloadByte (1 + i)

/-- `payloadLengthBytes` of the message carried by `hdr`. -/
def messageLength (hdr : KlvancPacketHeader) : ℕ := uintSub hdr.payloadLengthWords 1

/-- The second half of `parse_SCTE_104`: decode the message carried by `hdr`, whose packet had the
descriptor byte `descriptor`. -/
def parseScte104Message (hdr : KlvancPacketHeader) (descriptor : Byte) :
    Checked Fault (Option KlvancPacketScte104) := do
  let payload := messageOctets hdr
  let payloadLengthBytes := messageLength hdr
  let opID ← readBe16 .messagePayload payload 0
  if opID = 0xffff then
    let moMsg ← parseMultipleOperationMessage payload payloadLengthBytes
    pure (moMsg.map fun moMsg =>
      { hdr := some hdr
        payloadDescriptorByte := descriptor
        version := (descriptor >>> 3 &&& 0x03).toNat
        continuedPkt := descriptor.getLsbD 2
        followingPkt := descriptor.getLsbD 1
        duplicateMsg := descriptor.getLsbD 0
        payload
        payloadLengthBytes
        soMsg := { opID }
        moMsg })
  else pure none

/-- Decode the message carried by `hdr` and hand it to the application. -/
def deliverScte104 (run : KlvancRun) (hdr : KlvancPacketHeader) (descriptor : Byte) :
    ℤ × KlvancRun :=
  let pkt := parseScte104Message hdr descriptor
  let run := run.addFaults pkt.faults
  match pkt.val with
  | none => (-1, run)
  | some pkt => (klapiOk, run.call (.scte104 pkt))

/-- `parse_SCTE_104`. -/
def parseSCTE104 (run : KlvancRun) (hdr : KlvancPacketHeader) : ℤ × KlvancRun :=
  if !run.ctx.registered (·.scte104) then (klapiOk, run)
  else
    let descriptor := hdr.payloadByte 0
    let continued := descriptor.getLsbD 2
    let following := descriptor.getLsbD 1
    let frags := run.ctx.scte104
    if descriptor.getLsbD 0 then (-1, run)
    else if descriptor ≠ 0x08 then
      match continued, following with
      | true, false =>
        let frags := messageFragmentContinued (messageFragmentReset frags) hdr
        (-1, (run.setFragments frags.val).addFaults frags.faults)
      | true, true =>
        let frags := messageFragmentFollowing frags hdr
        (-1, (run.setFragments frags.val).addFaults frags.faults)
      | false, true =>
        let result := messageFragmentFinal frags hdr
        let run := (run.setFragments result.val.2).addFaults result.faults
        match result.val.1 with
        | none => (-1, run)
        | some fullhdr => deliverScte104 run fullhdr descriptor
      | false, false => (-1, run)
    else deliverScte104 (run.setFragments (messageFragmentReset frags)) hdr descriptor

end Libklvanc
