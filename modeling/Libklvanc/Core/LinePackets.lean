import Libklvanc.Core.LineRuns

/-!
# The packets found on a line of packets

On a line on which well-formed packets stand one after the other, with words behind them that cannot
be part of a flag, `klvanc_packet_parse` finds these packets (`headers_append_blank`).
-/

namespace Libklvanc

open SdiPacket

/-! ### Lines with blanks behind the packets -/

section Blank

variable {tail : List Word}

/-- No word of the list can be part of the second half of a flag. -/
def NoFlag (tail : List Word) : Prop := ∀ w ∈ tail, w &&& 0x3fc ≠ 0x3fc

/-- Behind the packets no flag begins. -/
lemma isAdf_append_blank (htail : NoFlag tail) (l : List Word) (i : ℕ) :
    isAdf (l ++ tail) i = isAdf l i := by
  by_cases hi : i + 2 < l.length
  · unfold isAdf
    rw [List.getD_append _ _ _ _ hi, List.getD_append _ _ _ _ (by omega),
      List.getD_append _ _ _ _ (by omega)]
  · have hshort : isAdf l i = false := by
      rw [← Bool.not_eq_true]
      exact fun h => hi (isAdf_lt h)
    rw [hshort, ← Bool.not_eq_true]
    intro h
    have hlt := isAdf_lt h
    rw [isAdf, Bool.and_eq_true, beq_iff_eq, List.getD_eq_getElem _ _ hlt,
      List.getElem_append_right (by omega)] at h
    exact htail _ (List.getElem_mem _) h.2

/-- The headers of packets that stand one after the other, the first one at `off`, with `tail`
behind them. -/
def headersBefore (tail : List Word) (lineNr : ℕ) : ℕ → List SdiPacket → List KlvancPacketHeader
  | _, [] => []
  | off, p :: ps => p.header lineNr (line (p :: ps) ++ tail) off ::
      headersBefore tail lineNr (off + p.words.length) ps

/-- The headers taken at the starts of the packets. -/
lemma map_headerAt_starts_append (lineNr : ℕ) (pre : List Word) (ps : List SdiPacket) :
    (starts pre.length ps).map
        (headerAt lineNr (pre ++ (line ps ++ tail)) (pre ++ (line ps ++ tail)).length) =
      headersBefore tail lineNr pre.length ps := by
  induction ps generalizing pre with
  | nil => rfl
  | cons p ps ih =>
    have h := ih (pre ++ p.words)
    rw [List.append_assoc, ← List.append_assoc p.words, ← line_cons,
      @List.length_append _ pre p.words] at h
    rw [starts, headersBefore, List.map_cons, h, line_cons, List.append_assoc, p.headerAt_start]

/-- The packets found on a line of packets with blanks behind them are these packets. -/
lemma headers_append_blank (htail : NoFlag tail) (lineNr : ℕ) {ps : List SdiPacket}
    (hmax : (line ps ++ tail).length ≤ packetMaxPayload) :
    (⟨lineNr, line ps ++ tail⟩ : VancLine).headers = headersBefore tail lineNr 0 ps := by
  have hadf : ∀ i, isAdf (line ps ++ tail) i = true ↔ i ∈ starts 0 ps := fun i => by
    rw [isAdf_append_blank htail]
    exact @isAdf_line_iff ps [] i (Nat.zero_le i)
  have hlen : (line ps ++ tail).length = (line ps).length + tail.length := List.length_append
  have hstarts : (⟨lineNr, line ps ++ tail⟩ : VancLine).positions = starts 0 ps := by
    rw [VancLine.positions]
    dsimp only
    split_ifs with hparsed
    · rw [Scan.positions_eq_of_spaced (by norm_num) (starts_spaced 0 ps) fun i _ => hadf i]
      refine List.filter_eq_self.mpr fun i hi => decide_eq_true ?_
      have := start_add_lt hi
      omega
    · cases ps with
      | nil => rfl
      | cons p ps =>
        have hp : (line (p :: ps)).length = p.words.length + (line ps).length := List.length_append
        rw [p.words_length] at hp
        exact absurd ⟨by omega, hmax⟩ hparsed
  have hmap := @map_headerAt_starts_append tail lineNr [] ps
  rw [List.nil_append, List.length_nil] at hmap
  rw [VancLine.headers, hstarts]
  exact hmap

/-- The packets found on a line of packets are these packets. -/
lemma headers_line (lineNr : ℕ) {ps : List SdiPacket} (hmax : (line ps).length ≤ packetMaxPayload) :
    (⟨lineNr, line ps⟩ : VancLine).headers = headersBefore [] lineNr 0 ps := by
  have h := @headers_append_blank [] (List.forall_mem_nil _) lineNr ps
  rw [List.append_nil] at h
  exact h hmax

/-- Every packet of the line has a valid checksum. -/
lemma checksumValid_of_mem_headersBefore {lineNr off : ℕ} {ps : List SdiPacket}
    {hdr : KlvancPacketHeader} (h : hdr ∈ headersBefore tail lineNr off ps) :
    hdr.checksumValid = true := by
  induction ps generalizing off with
  | nil => exact absurd h List.not_mem_nil
  | cons p ps ih =>
    rcases List.mem_cons.mp h with rfl | h
    · rfl
    · exact ih h

/-- Every packet of the line is reported. -/
lemma filter_reports_headersBefore (ctx : KlvancContext) (lineNr off : ℕ) (ps : List SdiPacket) :
    (headersBefore tail lineNr off ps).filter ctx.reports = headersBefore tail lineNr off ps := by
  refine List.filter_eq_self.mpr fun hdr hmem => ?_
  rw [KlvancContext.reports, checksumValid_of_mem_headersBefore hmem, Bool.true_or]

end Blank

end Libklvanc
