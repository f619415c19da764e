import Libklvanc.Core.LineScan

/-!
# Bounds of a scan and its completeness

`klvanc_packet_parse` takes the data count of a packet on trust and compares positions with
`len - 7`. Hence it reads inside the line exactly when the line is not shorter than a packet and no
packet it finds is truncated (`klvancPacketParse_reads_inside_iff`); and it finds every packet of a
well-formed line exactly when none of them is empty and ends with the line
(`klvancPacketParse_finds_all_iff`), since the header check asks for more than 7 words where a
packet without payload has exactly 7.
-/

namespace Libklvanc

variable {ctx : KlvancContext} {arr : List Word}

/-! ### Reading inside the line -/

/-- On a line of 7 words or more the words read outside it are those of the truncated packets. -/
lemma klvancPacketParse_lineFaults_eq_nil_iff (lineNr : ℕ) (h7 : 7 ≤ arr.length)
    (hmax : arr.length ≤ packetMaxPayload) :
    (klvancPacketParse lineNr arr arr.length (.start ctx)).2.lineFaults = [] ↔
      ∀ i ∈ Scan.positions (isAdf arr) 7 (arr.length - 7),
        i + 7 + dataCount arr i ≤ arr.length := by
  rw [klvancPacketParse_eq h7 le_rfl hmax, visits_lineFaults]
  simp only [KlvancRun.start_lineFaults, List.nil_append, List.flatMap_eq_nil_iff]
  refine forall₂_congr fun i hi => ?_
  have hlt := ((Scan.mem_positions (by norm_num)).mp hi).1
  exact safe_parseHeader (by omega) le_rfl

/-- `klvanc_packet_parse` reads no word outside the line exactly when the line has 7 words or more
and every packet it takes apart lies inside the line. -/
theorem klvancPacketParse_reads_inside_iff (hv : ctx.verbose = 0) (lineNr : ℕ)
    (hpos : 1 ≤ arr.length) (hmax : arr.length ≤ 16384) :
    (klvancPacketParse lineNr arr arr.length (.start ctx)).2.lineFaults = [] ↔
      7 ≤ arr.length ∧ ∀ i, Scan.Counted (isAdf arr) 7 i → i + 7 < arr.length →
        i + 7 + dataCount arr i ≤ arr.length := by
  by_cases h7 : 7 ≤ arr.length
  · rw [klvancPacketParse_lineFaults_eq_nil_iff lineNr h7 hmax]
    simp only [h7, true_and, Scan.mem_positions (show 1 ≤ 7 by norm_num)]
    constructor
    · intro h i hc hi
      exact h i ⟨by omega, hc⟩
    · rintro h i ⟨hi, hc⟩
      exact h i hc (by omega)
  · have hshort := @klvancPacketParse_short lineNr arr (.start ctx) hv (by omega)
      (not_le.mp h7)
    simp [hshort, h7]

/-- A line that is one whole packet is read inside. -/
theorem klvancPacketParse_reads_inside_packet :
    (klvancPacketParse 9 [0x000, 0x3ff, 0x3ff, 0x161, 0x102, 0x101, 0x2aa, 0x20e] 8
      (.start .create)).2.lineFaults = [] := by
  refine (klvancPacketParse_reads_inside_iff rfl 9 (by decide) (by decide)).mpr
    ⟨by decide, fun i _ hi => ?_⟩
  obtain rfl : i = 0 := by
    simp only [List.length_cons, List.length_nil] at hi
    omega
  decide

/-- The eight words of a packet that announces 255 payload words: its payload and its checksum are
read behind the end of the line. -/
theorem klvancPacketParse_reads_outside_truncated :
    ∃ i ∈ (klvancPacketParse 9 [0x000, 0x3ff, 0x3ff, 0x161, 0x102, 0x1ff, 0x2aa, 0x20e] 8
      (.start .create)).2.lineFaults, 8 ≤ i := by
  decide +kernel

/-! ### Finding every packet -/

/-- A packet inside the line is reported unless its checksum is wrong. -/
lemma reports_headerAt (lineNr : ℕ) {i : ℕ} (h : i + 7 + dataCount arr i ≤ arr.length) :
    ctx.reports (headerAt lineNr arr arr.length i) =
      (klvancChecksumIsValid ((arr.drop (i + 3)).take (dataCount arr i + 4)) ||
        ctx.allowBadChecksums) := by
  rw [KlvancContext.reports, headerAt, parseHeader_val (by omega) h]

/-- The offsets of the headers reported from positions of the line are those positions. -/
lemma map_horizontalOffset_headerAt (lineNr : ℕ) (hmax : arr.length ≤ packetMaxPayload)
    {ps : List ℕ} (hps : ∀ i ∈ ps, i < arr.length) :
    ((ps.map (headerAt lineNr arr arr.length)).filter ctx.reports).map (·.horizontalOffset) =
      ps.filter fun i => ctx.reports (headerAt lineNr arr arr.length i) := by
  rw [List.filter_map, List.map_map]
  refine (List.map_congr_left fun i hi => ?_).trans (List.map_id _)
  have hlt := hps i (List.mem_filter.mp hi).1
  exact Nat.mod_eq_of_lt (by simp only [packetMaxPayload] at hmax; omega)

/-- On a line whose flags are exactly the starts of packets inside it, `klvanc_packet_parse` returns
their number and reports each once, in order and at its start, exactly when no packet of 7 words
ends with the line and, unless the context admits wrong checksums, all checksums are right. -/
theorem klvancPacketParse_finds_all_iff (hall : ctx.registered (·.all) = true) (lineNr : ℕ)
    (h7 : 7 ≤ arr.length) (hmax : arr.length ≤ 16384) {starts : List ℕ}
    (hspaced : starts.Pairwise fun s t => s + 7 + dataCount arr s ≤ t)
    (hinside : ∀ s ∈ starts, s + 7 + dataCount arr s ≤ arr.length)
    (hadf : ∀ i, isAdf arr i = true ↔ i ∈ starts) :
    ((klvancPacketParse lineNr arr arr.length (.start ctx)).1 = starts.length ∧
      (klvancPacketParse lineNr arr arr.length (.start ctx)).2.allHeaders.map
        (·.horizontalOffset) = starts) ↔
      (∀ s ∈ starts, s + 7 ≠ arr.length) ∧
        (ctx.allowBadChecksums = true ∨ ∀ s ∈ starts,
          klvancChecksumIsValid ((arr.drop (s + 3)).take (dataCount arr s + 4)) = true) := by
  have hpositions : Scan.positions (isAdf arr) 7 (arr.length - 7) =
      starts.filter (· < arr.length - 7) :=
    Scan.positions_eq_of_spaced (by norm_num) (hspaced.imp fun h => by omega) fun i _ => hadf i
  have hbefore : (∀ s ∈ starts, s + 7 ≠ arr.length) ↔ ∀ s ∈ starts, s < arr.length - 7 :=
    forall₂_congr fun s hs => by
      have := hinside s hs
      omega
  have hreport : (ctx.allowBadChecksums = true ∨ ∀ s ∈ starts,
      klvancChecksumIsValid ((arr.drop (s + 3)).take (dataCount arr s + 4)) = true) ↔
      ∀ s ∈ starts, ctx.reports (headerAt lineNr arr arr.length s) = true := by
    have hs : ∀ s ∈ starts, (ctx.reports (headerAt lineNr arr arr.length s) = true ↔
        klvancChecksumIsValid ((arr.drop (s + 3)).take (dataCount arr s + 4)) = true ∨
          ctx.allowBadChecksums = true) := fun s hs => by
      rw [reports_headerAt lineNr (hinside s hs), Bool.or_eq_true]
    rw [forall₂_congr hs]
    by_cases hb : ctx.allowBadChecksums = true <;> simp [hb]
  rw [klvancPacketParse_eq h7 le_rfl hmax, visits_allHeaders hall, hpositions]
  simp only [KlvancRun.start_ctx, KlvancRun.allHeaders, KlvancRun.start_calls, List.filterMap_nil,
    List.nil_append]
  rw [map_horizontalOffset_headerAt lineNr hmax (fun s hs => by
    have := hinside s (List.mem_filter.mp hs).1
    omega), hbefore, hreport, List.filter_filter]
  constructor
  · rintro ⟨-, h⟩
    have hall := List.filter_eq_self.mp h
    simp only [Bool.and_eq_true, decide_eq_true_eq] at hall
    exact ⟨fun s hs => (hall s hs).2, fun s hs => (hall s hs).1⟩
  · rintro ⟨hlt, hrep⟩
    refine ⟨?_, List.filter_eq_self.mpr fun s hs => ?_⟩
    · rw [List.filter_eq_self.mpr fun s hs => decide_eq_true (hlt s hs)]
    · rw [hrep s hs, decide_eq_true (hlt s hs), Bool.true_and]

/-- A packet without payload is found when a word follows it. -/
theorem klvancPacketParse_finds_empty_packet :
    (klvancPacketParse 9 [0x000, 0x3ff, 0x3ff, 0x161, 0x102, 0x200, 0x263, 0x040] 8
      (.start { callbacks := some { all := true } })).1 = 1 := by
  refine ((@klvancPacketParse_finds_all_iff _ _ rfl 9 (by decide) (by decide) [0]
    (by decide) (by decide) fun i => ⟨fun h => ?_, ?_⟩).mpr ⟨by decide, Or.inr (by decide)⟩).1
  · have key : ∀ i < 8, isAdf [0x000, 0x3ff, 0x3ff, 0x161, 0x102, 0x200, 0x263, 0x040] i = true →
        i ∈ [0] := by decide
    have hlt : i + 2 < 8 := isAdf_lt h
    exact key i (by omega) h
  · intro hi
    rw [List.mem_singleton.mp hi]
    decide

/-- The seven words of a packet without payload are not found when they end the line. -/
theorem klvancPacketParse_misses_empty_packet :
    isAdf [0x000, 0x3ff, 0x3ff, 0x161, 0x102, 0x200, 0x263] 0 = true ∧
      dataCount [0x000, 0x3ff, 0x3ff, 0x161, 0x102, 0x200, 0x263] 0 = 0 ∧
      (klvancPacketParse 9 [0x000, 0x3ff, 0x3ff, 0x161, 0x102, 0x200, 0x263] 7
        (.start { callbacks := some { all := true } })).1 = 0 := by
  decide +kernel

end Libklvanc
