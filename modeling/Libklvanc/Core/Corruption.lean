import Libklvanc.Core.PacketRoundTrip

/-!
# Corrupted packets

A packet of `klvanc_sdi_create_payload` in which one word has been changed, outside of the ADF and
of the data count. The corrupted word makes no flag, because the word behind it is none of a flag,
and it hides none; so the scan still finds one packet, whose checksum has become invalid. It counts
as a failure and is not delivered (`klvancPacketParse_corrupted`).
-/

namespace Libklvanc

namespace SdiPacket

/-- A change of one word of the packet. The new word is another one modulo 512, or, in place of the
checksum, any other one. -/
structure Corruption (p : SdiPacket) where
  position : ℕ
  word : Word
  /-- The ADF is left alone. -/
  adf_le : 3 ≤ position
  /-- The data count is left alone. -/
  position_ne : position ≠ 5
  position_lt : position < p.words.length
  word_ne : word ≠ p.words.getD position 0
  mod_ne : position + 1 ≠ p.words.length →
    word.toNat % 512 ≠ (p.words.getD position 0).toNat % 512

namespace Corruption

variable {p : SdiPacket} (c : p.Corruption)

/-- The words of the corrupted packet. -/
def words : List Word := p.words.set c.position c.word

@[simp] lemma words_length : c.words.length = p.words.length := List.length_set

lemma getD_of_ne {k : ℕ} (h : k ≠ c.position) : c.words.getD k 0 = p.words.getD k 0 := by
  rw [words, List.getD, List.getElem?_set_ne h.symm, List.getD]

/-- A word of a packet does not continue a flag. -/
lemma not_adf_of_bounds {w : Word} (h : 256 ≤ w.toNat ∧ w.toNat < 768) : w &&& 0x3fc ≠ 0x3fc := by
  have key : ∀ n < 768, BitVec.ofNat 16 n &&& 0x3fc ≠ 0x3fc := by decide +kernel
  have hw := key _ h.2
  rwa [BitVec.ofNat_toNat, BitVec.setWidth_eq] at hw

/-- The only flag is the one at the beginning. -/
lemma isAdf_iff {k : ℕ} : isAdf c.words k = true ↔ k = 0 := by
  have hpos := c.adf_le
  constructor
  · intro hadf
    have hlt := isAdf_lt hadf
    rw [words_length] at hlt
    simp only [isAdf, Bool.and_eq_true, decide_eq_true_eq, beq_iff_eq] at hadf
    obtain ⟨⟨hfirst, hsecond⟩, -⟩ := hadf
    by_contra hk
    by_cases heq : k = c.position
    · -- the word behind the corrupted one is one of the packet
      rw [c.getD_of_ne (by omega)] at hsecond
      exact not_adf_of_bounds (p.words_getD_bounds (by omega) (by omega)) hsecond
    · rw [c.getD_of_ne heq] at hfirst
      have hle := p.three_le_words_getD (Nat.pos_of_ne_zero hk) (by omega)
      omega
  · rintro rfl
    obtain ⟨a₀, a₁, a₂⟩ := p.words_getD_adf
    rw [isAdf, c.getD_of_ne (by omega), c.getD_of_ne (by omega), c.getD_of_ne (by omega), a₀, a₁,
      a₂]
    rfl

/-- The scan finds the packet. -/
lemma positions_eq :
    Scan.positions (isAdf c.words) 7 (c.words.length - 7) = [0] := by
  have hpos := p.bytes_pos
  have hlen := p.words_length
  rw [Scan.positions_eq_of_spaced (by norm_num) (List.pairwise_singleton _ 0) fun i _ => ?_]
  · rw [words_length, List.filter_singleton, decide_eq_true (by omega)]
    rfl
  · rw [c.isAdf_iff, List.mem_singleton]

/-- The data count is that of the packet. -/
lemma dataCount_eq : dataCount c.words 0 = p.bytes.length := by
  have h := p.dataCount_start [] []
  rw [List.nil_append, List.append_nil, List.length_nil, dataCount] at h
  rw [dataCount, c.getD_of_ne c.position_ne.symm, h]

/-- The checksum has become invalid. -/
lemma checksum_invalid : klvancChecksumIsValid (c.words.drop 3) = false := by
  have hpos := c.adf_le
  have hlt := c.position_lt
  have hlen := p.words_length
  have hbody := p.body_length
  obtain ⟨j, hj⟩ := Nat.exists_eq_add_of_le hpos
  have hword := p.words_getD_add_three j
  have hne := c.word_ne
  have hmod := c.mod_ne
  rw [hj, hword] at hne hmod
  rw [words, List.drop_set, if_neg (by omega), words_drop, klvancChecksumIsValid, hj,
    Nat.add_sub_cancel_left, beq_eq_false_iff_ne]
  rcases lt_or_ge j p.body.length with hinside | hlast
  · rw [List.getD_append _ _ _ _ hinside, List.getD_eq_getElem _ _ hinside] at hmod
    rw [List.set_append_left _ _ hinside, List.dropLast_concat, List.getLastD_concat]
    exact klvancChecksumCalculate_set_ne hinside (hmod (by omega))
  · have heq : j = p.body.length := by omega
    subst heq
    rw [List.getD_append_right _ _ _ _ le_rfl, Nat.sub_self] at hne
    rw [List.set_append_right _ _ le_rfl, Nat.sub_self, List.set_cons_zero, List.dropLast_concat,
      List.getLastD_concat]
    exact hne.symm

end Corruption

end SdiPacket

open SdiPacket

section Parse

variable {lineNr : ℕ} {run : KlvancRun} {p : SdiPacket}

/-- `klvanc_packet_parse` finds the corrupted packet, counts a failure and calls nobody. -/
lemma klvancPacketParse_corruption (c : p.Corruption) (h : run.ctx.allowBadChecksums = false) :
    ∃ run', klvancPacketParse lineNr c.words c.words.length run = (1, run') ∧
      run'.ctx.checksumFailures = run.ctx.checksumFailures + 1 ∧ run'.calls = run.calls := by
  have hle := p.bytes_le
  have hlen : c.words.length = p.bytes.length + 7 := c.words_length.trans p.words_length
  have hdrop : (c.words.drop 3).take (p.bytes.length + 4) = c.words.drop 3 :=
    List.take_of_length_le (by rw [List.length_drop]; omega)
  have hheader := @parseHeader_val c.words 0 c.words.length (Nat.zero_add _).le
    (by rw [c.dataCount_eq]; omega)
  rw [c.dataCount_eq, Nat.zero_add, hdrop, c.checksum_invalid] at hheader
  have hvalid : (parseHeader c.words 0 (c.words.length - 0)).val.checksumValid = false := by
    rw [Nat.sub_zero, hheader]
  have hfailures : (afterParse c.words c.words.length run 0).ctx.checksumFailures =
      run.ctx.checksumFailures + 1 := by
    unfold afterParse
    dsimp only
    rw [hvalid]
    rfl
  have hreports : (afterParse c.words c.words.length run 0).ctx.reports
      (headerAt lineNr c.words c.words.length 0) = false := by
    rw [KlvancContext.reports, Bool.or_eq_false_iff]
    exact ⟨hvalid, h⟩
  rw [klvancPacketParse_eq (by omega) le_rfl (by rw [packetMaxPayload]; omega), c.positions_eq]
  refine ⟨_, rfl, (processPacket_checksumFailures _ _).trans hfailures, ?_⟩
  exact processPacket_calls_of_not_reported _ _ hreports

/-- `klvanc_packet_parse` finds the packet itself, counts no failure and reports it. -/
lemma klvancPacketParse_intact (p : SdiPacket) :
    ∃ run', klvancPacketParse lineNr p.words p.words.length run = (1, run') ∧
      run'.ctx.checksumFailures = run.ctx.checksumFailures ∧
      (run.ctx.registered (·.all) = true →
        run'.allHeaders = run.allHeaders ++ [p.header lineNr p.words 0]) := by
  refine ⟨_, klvancPacketParse_words p, processPacket_checksumFailures _ _, fun hall => ?_⟩
  have hreports : run.ctx.reports (p.header lineNr p.words 0) = true := Bool.true_or _
  rw [processPacket_allHeaders _ _ hall, hreports, if_pos rfl]

/-- A packet of `klvanc_sdi_create_payload` in which one word has been corrupted is found, counts as
a checksum failure and is delivered to nobody. The packet itself does not count as one and is
reported. -/
theorem klvancPacketParse_corrupted (c : p.Corruption) (h : run.ctx.allowBadChecksums = false) :
    klvancSdiCreatePayload p.sdid p.did p.bytes 10 = some p.words ∧
      (∃ run', klvancPacketParse lineNr c.words c.words.length run = (1, run') ∧
        run'.ctx.checksumFailures = run.ctx.checksumFailures + 1 ∧ run'.calls = run.calls) ∧
      ∃ run', klvancPacketParse lineNr p.words p.words.length run = (1, run') ∧
        run'.ctx.checksumFailures = run.ctx.checksumFailures ∧
        (run.ctx.registered (·.all) = true →
          run'.allHeaders = run.allHeaders ++ [p.header lineNr p.words 0]) :=
  ⟨p.create_eq, klvancPacketParse_corruption c h, klvancPacketParse_intact p⟩

end Parse

/-- A packet with one octet. -/
def octetPacket : SdiPacket where
  did := 0x61
  sdid := 0x02
  bytes := [0x80]
  did_ne := by decide
  sdid_ne := by decide
  bytes_pos := le_rfl
  bytes_le := by decide

/-- The octet is lost. -/
def lostOctet : octetPacket.Corruption where
  position := 6
  word := 0x3ff
  adf_le := by decide
  position_ne := by decide
  position_lt := by decide
  word_ne := by decide
  mod_ne _ := by decide

/-- The packet that has lost its octet is not delivered. -/
theorem klvancPacketParse_corrupted_lostOctet :
    ∃ run', klvancPacketParse 9 lostOctet.words lostOctet.words.length (.start allContext) =
      (1, run') ∧ run'.ctx.checksumFailures = 1 ∧ run'.calls = [] := by
  obtain ⟨-, h, -⟩ := @klvancPacketParse_corrupted 9 (.start allContext) _ lostOctet rfl
  exact h

end Libklvanc
