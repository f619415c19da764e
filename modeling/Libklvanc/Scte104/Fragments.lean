import Libklvanc.Core.Context

/-!
# Collecting the fragments of an SCTE-104 message

`messageFragmentAppend`, `messageFragmentReset`, `messageFragmentContinued`,
`messageFragmentFollowing` and `messageFragmentFinal` of `core-packet-scte_104.c`: the fragments of
a message that spans several packets are kept in the context until the last one arrives.
-/

namespace Libklvanc

variable (frags : Scte104Fragments) (hdr : KlvancPacketHeader)

/-- `messageFragmentAppend`. A count outside the array is a fault and leaves the array as it is. -/
def messageFragmentAppend : Checked Fault Scte104Fragments :=
  if h : frags.count < scte104MaxFragments then
    pure
      { slots := frags.slots.set frags.count
          (some { hdr with rawLengthWords := hdr.payloadLengthWords + 7 }) h
        count := frags.count + 1
        count_le := h }
  else Checked.fault (Fault.write .fragments frags.count) frags

/-- `messageFragmentReset`: free the slots below the count. -/
def messageFragmentReset : Scte104Fragments where
  slots := frags.slots.mapFinIdx fun i slot _ => if i < frags.count then none else slot
  count := 0
  count_le := Nat.zero_le _

/-- `messageFragmentContinued`. -/
def messageFragmentContinued : Checked Fault Scte104Fragments := messageFragmentAppend frags hdr

/-- `messageFragmentFollowing`. -/
def messageFragmentFollowing : Checked Fault Scte104Fragments :=
  if frags.count = 0 then pure (messageFragmentReset frags)
  else if frags.count + 1 = scte104MaxFragments then pure (messageFragmentReset frags)
  else messageFragmentAppend frags hdr

/-- The loop of `messageFragmentFinal`: append the payloads of the fragments to `dst`, from
`offset` on for the first one and from 1 on, behind the descriptor byte, for the others. -/
def messageFragmentJoin : KlvancPacketHeader → ℕ → List (Option KlvancPacketHeader) →
    Checked Fault (Option KlvancPacketHeader)
  | dst, _, [] => pure (some dst)
  | dst, _, none :: _ => Checked.fault (Fault.read .headerPayload 0) (some dst)
  | dst, offset, some frag :: rest => do
    let joined ← klvancPacketPayloadAppend dst frag offset
    match joined with
    | none => pure none
    | some dst => messageFragmentJoin dst 1 rest

/-- `messageFragmentFinal`: the assembled header if there is one, and the fragments left. -/
def messageFragmentFinal : Checked Fault (Option KlvancPacketHeader × Scte104Fragments) :=
  if frags.count = 0 then pure (none, messageFragmentReset frags)
  else do
    let frags ← messageFragmentAppend frags hdr
    let dst := { hdr with checksumValid := false, payload := [], raw := [], rawLengthWords := 0 }
    let complete ← messageFragmentJoin dst 0 (frags.slots.toList.take frags.count)
    pure (complete, messageFragmentReset frags)

end Libklvanc
