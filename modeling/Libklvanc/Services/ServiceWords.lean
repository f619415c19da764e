import Libklvanc.Core.PacketRoundTrip
import Libklvanc.Services.CaptionWire
import Libklvanc.Services.FixedEncode

/-!
# Success of the service encoders

The `*_to_words` functions return zero without having looked at what `klvanc_sdi_create_payload`
returned. It refuses a packet without octets, and only a time code whose type is not supported has
none: for this the function reports success and leaves the words unset. Any other packet becomes
words that `klvanc_packet_parse` takes apart again (`ServicePacket.successMeansPacket_iff`).
-/

namespace Libklvanc

/-- A packet of one of the services that have a `*_to_words` function. The arrays of a caption
distribution packet hold as many entries as counted. -/
inductive ServicePacket
  | fixed (p : FixedPacket)
  | eia708b (pkt : KlvancPacketEia708b) (h : pkt.SectionsHold)

/-- `klvanc_packet_parse` accepts the words `words` as one packet with the given identifiers, with a
valid checksum and with a payload that carries the octets `octets`. -/
def ParsesAs (words : List Word) (did sdid : Byte) (octets : List Byte) : Prop :=
  ∀ (lineNr : ℕ) (run : KlvancRun), run.ctx.registered (·.all) = true →
    (klvancPacketParse lineNr words words.length run).1 = 1 ∧
    ∃ hdr, (klvancPacketParse lineNr words words.length run).2.allHeaders =
        run.allHeaders ++ [hdr] ∧
      hdr.did = did.setWidth 16 ∧ hdr.dbnsdid = sdid.setWidth 16 ∧ hdr.checksumValid = true ∧
      hdr.payload.map lowByte = octets

namespace ServicePacket

/-- The data identifier. -/
def did : ServicePacket → Byte
  | .fixed p => p.did
  | .eia708b _ _ => 0x61

/-- The secondary data identifier. -/
def sdid : ServicePacket → Byte
  | .fixed p => p.sdid
  | .eia708b _ _ => 0x01

lemma did_ne (p : ServicePacket) : p.did ≠ 0 := by
  cases p with
  | fixed p => exact p.did_ne
  | eia708b pkt h => simp [did]

lemma sdid_ne (p : ServicePacket) : p.sdid ≠ 0 := by
  cases p with
  | fixed p => exact p.sdid_ne
  | eia708b pkt h => simp [sdid]

/-- The `*_to_packetBytes` function of the service. -/
def packetBytes : ServicePacket → Checked Fault (ℤ × List Byte × ℕ)
  | .fixed p => p.packetBytes
  | .eia708b pkt _ => klvancConvertEIA708BToPacketBytes pkt

/-- The `*_to_words` function of the service. -/
def toWords : ServicePacket → Checked Fault (ℤ × Option (List Word))
  | .fixed p => p.toWords
  | .eia708b pkt _ => klvancConvertEIA708BToWords pkt

/-- When the `*_to_words` function returns zero, it has set the words to a packet that is accepted,
with the identifiers of the service and the octets of the `*_to_packetBytes` function; otherwise the
return value is negative. -/
def SuccessMeansPacket (p : ServicePacket) : Prop :=
  p.toWords.Safe ∧
    (p.toWords.val.1 = 0 → ∃ words bytes byteCount, p.toWords.val.2 = some words ∧
      p.packetBytes = pure (0, bytes, byteCount) ∧
      ParsesAs words p.did p.sdid (bytes.take byteCount)) ∧
    (p.toWords.val.1 ≠ 0 → p.toWords.val.1 < 0)

/-- The packet is serialised: it is not a time code of a type that is not supported. -/
def Serialised : ServicePacket → Prop
  | .fixed p => p.Serialised
  | .eia708b _ _ => True

/-- The octets that are put out. -/
def octets : ServicePacket → List Byte
  | .fixed p => p.octets
  | .eia708b pkt _ => pkt.wire

variable {p : ServicePacket}

/-- The octets of a packet are put out, in front of what the buffer holds behind them. -/
lemma packetBytes_eq (p : ServicePacket) :
    ∃ rest, p.packetBytes = pure (0, p.octets ++ rest, p.octets.length) := by
  cases p with
  | fixed p => exact p.packetBytes_eq
  | eia708b pkt h => exact ⟨_, klvancConvertEIA708BToPacketBytes_eq h⟩

/-- The octets of a packet are made into words. -/
lemma toWords_eq (p : ServicePacket) :
    p.toWords = pure (0, klvancSdiCreatePayload p.sdid p.did p.octets 10) := by
  cases p with
  | fixed p => exact p.toWords_eq
  | eia708b pkt h => exact klvancConvertEIA708BToWords_eq h

lemma octets_length_of_serialised (h : p.Serialised) :
    1 ≤ p.octets.length ∧ p.octets.length ≤ 255 := by
  cases p with
  | fixed p => exact FixedPacket.octets_length_of_serialised h
  | eia708b pkt hsections =>
    have hwire := KlvancPacketEia708b.wire_length hsections
    have hlt := KlvancPacketEia708b.bodySize_lt hsections
    have hlen : octets (.eia708b pkt hsections) = pkt.wire := rfl
    rw [hlen, hwire]
    omega

/-- The ancillary data packet of a packet that is serialised. -/
def sdiPacket (p : ServicePacket) (h : p.Serialised) : SdiPacket where
  did := p.did
  sdid := p.sdid
  bytes := p.octets
  did_ne := p.did_ne
  sdid_ne := p.sdid_ne
  bytes_pos := (octets_length_of_serialised h).1
  bytes_le := (octets_length_of_serialised h).2

/-- Nothing but a packet with octets is made into words. -/
lemma toWords_eq_none (h : ¬p.Serialised) : p.toWords = pure (0, none) := by
  have hnil : p.octets = [] := by
    cases p with
    | fixed p => exact FixedPacket.octets_eq_nil_of_not_serialised h
    | eia708b pkt hsections => exact absurd trivial h
  have hrefused : klvancSdiCreatePayload p.sdid p.did [] 10 = none :=
    if_pos (Or.inr (Or.inr (Or.inr rfl)))
  rw [toWords_eq, hnil, hrefused]

end ServicePacket

/-- The words of a packet are accepted as this packet. -/
lemma SdiPacket.parsesAs (p : SdiPacket) : ParsesAs p.words p.did p.sdid p.bytes := by
  intro lineNr run hall
  have hheaders := processPacket_allHeaders run (p.header lineNr p.words 0) hall
  have hreports : run.ctx.reports (p.header lineNr p.words 0) = true := Bool.true_or _
  rw [hreports, if_pos rfl] at hheaders
  rw [klvancPacketParse_words]
  exact ⟨rfl, _, hheaders, rfl, rfl, rfl, p.header_payload_lowByte _ _ _⟩

/-- Success of a `*_to_words` function means a packet that is accepted if and only if the packet is
not a time code of a type that is not supported. -/
theorem ServicePacket.successMeansPacket_iff (p : ServicePacket) :
    p.SuccessMeansPacket ↔ p.Serialised := by
  constructor
  · rintro ⟨-, hsuccess, -⟩
    by_contra hnot
    rw [toWords_eq_none hnot] at hsuccess
    obtain ⟨words, -, -, hwords, -⟩ := hsuccess rfl
    cases hwords
  · intro h
    obtain ⟨rest, hbytes⟩ := p.packetBytes_eq
    have hwords : p.toWords = pure (0, some (p.sdiPacket h).words) :=
      p.toWords_eq.trans (congrArg (fun words => pure (0, words)) (p.sdiPacket h).create_eq)
    unfold SuccessMeansPacket
    rw [hwords]
    refine ⟨rfl, fun _ => ⟨_, _, _, rfl, hbytes, ?_⟩, fun hne => absurd rfl hne⟩
    rw [List.take_left]
    exact (p.sdiPacket h).parsesAs

/-- A time code of type 3 is reported as a success, without words. -/
theorem ServicePacket.not_successMeansPacket_dbb1 :
    ¬∀ p : ServicePacket, p.SuccessMeansPacket := by
  intro h
  obtain ⟨-, hsuccess, -⟩ := h (.fixed (.smpte12_2 { dbb1 := 3 }))
  have hnone : toWords (.fixed (.smpte12_2 { dbb1 := 3 })) = pure (0, none) :=
    toWords_eq_none (by decide : ¬KlvancPacketSmpte12_2.HasTimeCode { dbb1 := 3 })
  rw [hnone] at hsuccess
  obtain ⟨words, -, -, hwords, -⟩ := hsuccess rfl
  cases hwords

end Libklvanc
