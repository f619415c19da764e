import Libklvanc.Core.LineLayout
import Libklvanc.Core.PacketRoundTrip

/-!
# Laying out a line and taking it apart again

Well-formed packets that are inserted on one line of an empty line set and laid out with
`klvanc_generate_vanc_line` stand on the generated line one after the other, in the order of their
offsets, except those that do not fit (`klvancGenerateVancLine_packets`). Hence
`klvanc_packet_parse` reports exactly the packets that were placed
(`klvancPacketParse_generated_line`).
-/

namespace Libklvanc

open SdiPacket

/-! ### Inserting packets -/

/-- The entry that `klvanc_line_insert` makes for a packet and its requested offset. -/
def packetEntry (p : SdiPacket × ℤ) : KlvancEntry where
  hOffset := p.2
  payload := p.1.words
  pixelWidth := p.1.words.length

/-- The line set after the packets have been inserted on one line of an empty line set. -/
def insertPackets (lineNumber : ℤ) (ps : List (SdiPacket × ℤ)) : KlvancLineSet :=
  ps.foldl (fun set p => (klvancLineInsert set p.1.words lineNumber p.2).2) {}

/-- A line in the first slot is found there. -/
lemma findSlot_zero {set : KlvancLineSet} {lineNumber : ℤ}
    (h : ∀ line ∈ set.lines[0], line.lineNumber = lineNumber) :
    set.findSlot lineNumber = some ⟨0, by decide⟩ := by
  have hfin : List.finRange maxVancLines =
      ⟨0, by decide⟩ :: (List.finRange maxVancLines).tail := by decide
  rw [KlvancLineSet.findSlot, hfin, List.find?_cons_of_pos]
  split
  · rfl
  · next line hl => simpa using h line hl

/-- Inserting a packet on the line in the first slot appends its entry. -/
lemma klvancLineInsert_zero {set : KlvancLineSet} {lineNumber : ℤ} {line : KlvancLine}
    (hline : set.lines[0].getD { lineNumber := lineNumber } = line)
    (hnumber : line.lineNumber = lineNumber) (hlt : line.entries.length < maxVancEntries)
    (p : SdiPacket × ℤ) :
    ∃ line', (klvancLineInsert set p.1.words lineNumber p.2).2.lines[0] = some line' ∧
      line'.lineNumber = lineNumber ∧ line'.entries = line.entries ++ [packetEntry p] := by
  have hslot : set.findSlot lineNumber = some ⟨0, by decide⟩ := by
    refine findSlot_zero fun l h => ?_
    rw [Option.mem_def.mp h] at hline
    rw [show l = line from hline, hnumber]
  unfold klvancLineInsert
  cases hslot0 : set.lines[0] with
  | none =>
    rw [hslot0, Option.getD_none] at hline
    subst hline
    simp only [hslot, Fin.getElem_fin, hslot0, klvancLineCreate, hlt, dite_true]
    exact ⟨_, Vector.getElem_set_self _, hnumber, rfl⟩
  | some line₀ =>
    rw [hslot0, Option.getD_some] at hline
    subst hline
    simp only [hslot, Fin.getElem_fin, hslot0, hlt, dite_true]
    exact ⟨_, Vector.getElem_set_self _, hnumber, rfl⟩

/-- Packets inserted on one line of an empty line set are the entries of the line in the first
slot. -/
lemma insertPackets_entries (lineNumber : ℤ) {ps : List (SdiPacket × ℤ)}
    (h : ps.length ≤ maxVancEntries) :
    ((insertPackets lineNumber ps).lines[0].getD { lineNumber := lineNumber }).lineNumber =
        lineNumber ∧
      ((insertPackets lineNumber ps).lines[0].getD { lineNumber := lineNumber }).entries =
        ps.map packetEntry := by
  induction ps using List.reverseRecOn with
  | nil => exact ⟨rfl, rfl⟩
  | append_singleton ps p ih =>
    rw [List.length_append, List.length_singleton] at h
    obtain ⟨hnumber, hentries⟩ := ih (by omega)
    obtain ⟨line', hline, hnumber', hentries'⟩ :=
      klvancLineInsert_zero rfl hnumber (by rw [hentries, List.length_map]; omega) p
    rw [insertPackets, List.foldl_append, List.foldl_cons, List.foldl_nil]
    rw [insertPackets] at hline hentries hentries'
    rw [hline, Option.getD_some, hentries', hentries]
    exact ⟨hnumber', by simp⟩

/-! ### Placing packets -/

/-- The samples of a packet's entry are the words of the packet. -/
lemma samples_packetEntry (p : SdiPacket × ℤ) : (packetEntry p).samples = p.1.words :=
  List.take_length

/-- The entry of a packet holds all its words. -/
lemma filled_packetEntry (p : SdiPacket × ℤ) : (packetEntry p).Filled := le_refl _

/-- Some packets stand on a line one after the other. -/
lemma flatMap_samples_packets (ps : List (SdiPacket × ℤ)) :
    (ps.map packetEntry).flatMap KlvancEntry.samples = line (ps.map Prod.fst) := by
  rw [line, List.flatMap_map, List.flatMap_map]
  exact List.flatMap_congr fun p _ => samples_packetEntry p

/-- The entries placed of those of some packets are the entries of some of the packets. -/
lemma exists_placed_packets (W : ℤ) (ps : List (SdiPacket × ℤ)) :
    ∃ qs : List (SdiPacket × ℤ), qs.Sublist ps ∧
      placed W 0 (ps.map packetEntry) = qs.map packetEntry := by
  have hsub : (placed W 0 (ps.map packetEntry)).Sublist (ps.map packetEntry) := greedy_sublist _
  exact List.sublist_map_iff.mp hsub

/-! ### The generated line -/

/-- Sorting the entries of packets with different offsets sorts the packets. -/
lemma exists_sorted_packets (qsort : Qsort) {ps : List (SdiPacket × ℤ)}
    (hoffsets : (ps.map Prod.snd).Nodup) :
    ∃ sorted : List (SdiPacket × ℤ), sorted.Perm ps ∧
      sorted.Pairwise (fun p q => p.2 < q.2) ∧
      qsort.sort (ps.map packetEntry) = sorted.map packetEntry := by
  have hmap : List.Forall₂ (fun e p => e = packetEntry p) (ps.map packetEntry) ps :=
    List.forall₂_map_left_iff.mpr (List.forall₂_same.mpr fun _ _ => rfl)
  obtain ⟨sorted, hsorted, hperm⟩ :=
    List.perm_comp_forall₂ (qsort.perm (ps.map packetEntry)) hmap
  have heq : qsort.sort (ps.map packetEntry) = sorted.map packetEntry := by
    rw [← List.forall₂_eq_eq_eq]
    exact List.forall₂_map_right_iff.mpr hsorted
  have hle := qsort.sorted (ps.map packetEntry)
  rw [heq, List.pairwise_map] at hle
  have hne : sorted.Pairwise fun p q => p.2 ≠ q.2 :=
    List.pairwise_map.mp ((hperm.map Prod.snd).nodup_iff.mpr hoffsets)
  refine ⟨sorted, hperm, (hle.and hne).imp fun ⟨h, hpq⟩ => ?_, heq⟩
  exact lt_of_le_of_ne (vancEntComp_le_zero.mp h) hpq

/-- No packet is empty. -/
lemma filter_packets (ps : List (SdiPacket × ℤ)) :
    ((ps.map packetEntry).filter (·.pixelWidth ≠ 0)).map (·.payload) = ps.map (·.1.words) := by
  have hall : (ps.map packetEntry).filter (·.pixelWidth ≠ 0) = ps.map packetEntry := by
    refine List.filter_eq_self.mpr fun e he => ?_
    obtain ⟨p, -, rfl⟩ := List.mem_map.mp he
    simp [packetEntry]
  rw [hall, List.map_map]
  rfl

/-- The line generated for packets is that of the packets placed on it. -/
lemma klvancGenerateVancLine_packets {qsort : Qsort} {fresh : ℕ → Word} {ln : KlvancLine}
    {sorted : List (SdiPacket × ℤ)} (hfilled : ∀ e ∈ ln.entries, e.Filled)
    (hsorted : qsort.sort ln.entries = sorted.map packetEntry)
    {W : ℤ} {entries : List KlvancEntry} {out : List Word}
    (hgen : (klvancGenerateVancLine qsort fresh ln W).val = (0, entries, some out)) :
    (klvancGenerateVancLine qsort fresh ln W).Safe ∧
      ∃ placed : List (SdiPacket × ℤ), placed.Sublist sorted ∧ placed ≠ [] ∧
        (entries.filter (·.pixelWidth ≠ 0)).map (·.payload) = placed.map (·.1.words) ∧
        out = line (placed.map Prod.fst) := by
  obtain ⟨qs, hsub, hplaced⟩ := exists_placed_packets W sorted
  have heq := klvancGenerateVancLine_eq qsort fresh hfilled W
  have hkept := @placeEntries_kept W 0 (sorted.map packetEntry)
  rw [hsorted, hplaced] at heq
  rw [hplaced, filter_packets] at hkept
  rw [heq, Checked.pure_val, Prod.mk.injEq, Prod.mk.injEq] at hgen
  obtain ⟨-, hentries, hout⟩ := hgen
  rw [← hentries]
  refine ⟨by rw [heq]; exact Checked.safe_pure _, qs, hsub, ?_, hkept, ?_⟩
  · intro hnil
    rw [hnil] at hout
    exact absurd hout (by simp [totalWidth])
  · split_ifs at hout
    rw [← Option.some.inj hout]
    exact flatMap_samples_packets qs

/-- The header `hdr` reports the packet `p` at the offset `off`. -/
structure SdiPacket.ReportedBy (p : SdiPacket) (off : ℕ) (hdr : KlvancPacketHeader) : Prop where
  did : hdr.did = p.did.setWidth 16
  dbnsdid : hdr.dbnsdid = p.sdid.setWidth 16
  payloadLengthWords : hdr.payloadLengthWords = p.bytes.length
  /-- The low octets of the payload words are the source octets. -/
  payload : hdr.payload.map lowByte = p.bytes
  checksumValid : hdr.checksumValid = true
  horizontalOffset : hdr.horizontalOffset = off

/-- The header of a packet reports it. -/
lemma SdiPacket.reportedBy_header (p : SdiPacket) (lineNr : ℕ) (raw : List Word) {off : ℕ}
    (hoff : off < 2 ^ 16) : p.ReportedBy off (p.header lineNr raw off) where
  did := rfl
  dbnsdid := rfl
  payloadLengthWords := by simp [KlvancPacketHeader.payloadLengthWords, header]
  payload := by
    rw [header, List.map_map]
    exact (List.map_congr_left fun b _ => (addParity_octet b).2.2).trans (List.map_id _)
  checksumValid := rfl
  horizontalOffset := Nat.mod_eq_of_lt hoff

/-- `klvanc_packet_parse` on the line generated for up to 16 packets with different offsets returns
the number of the packets placed on it, and reports these packets, once each, in the order of their
requested offsets, each at the sum of the lengths of the packets before it. -/
theorem klvancPacketParse_generated_line (qsort : Qsort) (fresh : ℕ → Word) {ctx : KlvancContext}
    (hall : ctx.registered (·.all) = true) (lineNr : ℕ) (lineNumber : ℤ)
    {ps : List (SdiPacket × ℤ)} (h16 : ps.length ≤ 16) (hoffsets : (ps.map Prod.snd).Nodup)
    {ln : KlvancLine} (hline : (insertPackets lineNumber ps).lines[0] = some ln) {W : ℤ}
    {entries : List KlvancEntry} {out : List Word}
    (hgen : (klvancGenerateVancLine qsort fresh ln W).val = (0, entries, some out))
    (hlen : out.length ≤ 16384) :
    ∃ placed : List (SdiPacket × ℤ), placed.Subperm ps ∧
      placed.Pairwise (fun p q => p.2 < q.2) ∧
      (entries.filter (·.pixelWidth ≠ 0)).map (·.payload) = placed.map (·.1.words) ∧
      (klvancPacketParse lineNr out out.length (.start ctx)).1 = placed.length ∧
      (klvancPacketParse lineNr out out.length (.start ctx)).2.allHeaders.length =
        placed.length ∧
      (∀ i (hi : i < placed.length), ∃ hdr,
        (klvancPacketParse lineNr out out.length (.start ctx)).2.allHeaders[i]? = some hdr ∧
        placed[i].1.ReportedBy ((placed.take i).map (·.1.words.length)).sum hdr) ∧
      (klvancGenerateVancLine qsort fresh ln W).Safe ∧
      (klvancPacketParse lineNr out out.length (.start ctx)).2.lineFaults = [] ∧
      (ctx.callbacks = some { all := true } →
        (klvancPacketParse lineNr out out.length (.start ctx)).2.faults = []) := by
  have hentries : ln.entries = ps.map packetEntry := by
    have h := (insertPackets_entries lineNumber h16).2
    rwa [hline] at h
  obtain ⟨sorted, hperm, hpair, hsort⟩ := exists_sorted_packets qsort hoffsets
  rw [← hentries] at hsort
  have hfilled : ∀ e ∈ ln.entries, e.Filled := fun e he => by
    rw [hentries] at he
    obtain ⟨p, -, rfl⟩ := List.mem_map.mp he
    exact filled_packetEntry p
  obtain ⟨hsafe, placed, hsub, hne, hkept, rfl⟩ := klvancGenerateVancLine_packets hfilled hsort hgen
  have hne' : placed.map Prod.fst ≠ [] := fun h => hne (List.map_eq_nil_iff.mp h)
  have hreport := @klvancPacketParse_line_allHeaders lineNr _ (.start ctx) hall hne' hlen
  have hstart : (KlvancRun.start ctx).allHeaders = [] := rfl
  rw [hstart, List.nil_append] at hreport
  refine ⟨placed, hsub.subperm.trans hperm.subperm, hpair.sublist hsub, hkept, ?_, ?_, ?_, hsafe,
    klvancPacketParse_line_lineFaults hne' hlen,
    fun h => klvancPacketParse_line_faults h hne' hlen⟩
  · rw [klvancPacketParse_line hne' hlen, List.length_map]
  · rw [hreport, headers_length, List.length_map]
  · intro i hi
    have hoff : 0 + (line ((placed.map Prod.fst).take i)).length =
        ((placed.take i).map (·.1.words.length)).sum := by
      rw [Nat.zero_add, line, List.length_flatMap, ← List.map_take, List.map_map]
      rfl
    have hle : (line ((placed.map Prod.fst).take i)).length ≤
        (line (placed.map Prod.fst)).length := by
      conv_rhs => rw [← List.take_append_drop i (placed.map Prod.fst)]
      rw [line, line, List.flatMap_append, List.length_append]
      exact Nat.le_add_right _ _
    refine ⟨_, by rw [hreport]; exact headers_getElem? lineNr 0 _ (by simpa using hi), ?_⟩
    rw [← hoff, List.getElem_map]
    exact placed[i].1.reportedBy_header _ _ (by omega)

/-- An AFD packet and a caption packet, the second one to stand first on the line. -/
def twoPackets : List (SdiPacket × ℤ) :=
  [(.ofBytes 0x41 0x05 [0x44, 0, 0, 0, 0, 0, 0, 0] (Eq.refl true), 40),
    (.ofBytes 0x61 0x02 [0x80, 0x94, 0x2c] (Eq.refl true), 20)]

/-- The two packets are laid out by their offsets and found again. -/
theorem klvancPacketParse_generated_line_two :
    ∃ placed : List (SdiPacket × ℤ), placed.Subperm twoPackets ∧
      (klvancPacketParse 9 (line (twoPackets.reverse.map Prod.fst)) 25
        (.start { callbacks := some { all := true } })).1 = placed.length := by
  obtain ⟨placed, hsub, -, -, hcount, -⟩ := @klvancPacketParse_generated_line Qsort.insertion
    (fun _ => 0) { callbacks := some { all := true } } rfl 9 9 twoPackets (by decide) (by decide)
    { lineNumber := 9, entries := twoPackets.map packetEntry } (by decide +kernel) 1920
    (placeEntries 1920 (twoPackets.reverse.map packetEntry) 0).1
    (line (twoPackets.reverse.map Prod.fst)) (by decide +kernel) (by decide +kernel)
  exact ⟨placed, hsub, hcount⟩

end Libklvanc
