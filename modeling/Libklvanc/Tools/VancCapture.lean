import Libklvanc.Core.LinePacking
import Libklvanc.Core.LinePackets
import Libklvanc.Core.LineRoundTrip
import Libklvanc.Tools.VancAnalyzer

/-!
# From the line set to the analyzer

An application inserts packets on a line of a line set, generates the v210 line and captures the
buffer; the analyzer of the capture file converts the line back and parses it. The packets placed on
the line are then exactly the packets found (`analyzeVANC_capturedLines`).

The conversion puts the samples of the line first, and behind them come blank samples, chroma and
zeros (`vancLine_words`), among which no flag begins.
-/

namespace Libklvanc

open SdiPacket

/-! ### The captured buffer -/

section Buffer

/-- The words of a buffer that begins with the bytes of one. -/
lemma uintWords_cons (x : BitVec 32) (l : List Byte) :
    uintWords (uintBytes x ++ l) = x :: uintWords l := by
  have hlen : (uintBytes x ++ l).length / 4 = l.length / 4 + 1 := by
    rw [List.length_append, uintBytes_length]
    omega
  have hstep : ∀ i, (uintBytes x ++ l).drop (4 * (i + 1)) = l.drop (4 * i) := by
    intro i
    rw [show 4 * (i + 1) = (uintBytes x).length + 4 * i by rw [uintBytes_length]; omega,
      List.drop_length_add_append]
  unfold uintWords
  rw [hlen, List.range_succ_eq_map, List.map_cons, List.map_map]
  have hfirst : ((uintBytes x ++ l).drop (4 * 0)).take 4 = uintBytes x := by
    rw [Nat.mul_zero, List.drop_zero, List.take_left' (uintBytes_length x)]
  rw [hfirst, lowFirst_uintBytes]
  refine congrArg (List.cons x) (List.map_congr_left fun i _ => ?_)
  rw [Function.comp_apply, Nat.succ_eq_add_one, hstep]

/-- The words of a buffer that begins with the bytes of some. -/
lemma uintWords_flatMap (ws : List (BitVec 32)) (l : List Byte) :
    uintWords (ws.flatMap uintBytes ++ l) = ws ++ uintWords l := by
  induction ws with
  | nil => rfl
  | cons w ws ih => rw [List.flatMap_cons, List.append_assoc, uintWords_cons, ih, List.cons_append]

/-- The words of a zeroed buffer are zero. -/
lemma uintWords_replicate (k : ℕ) : uintWords (List.replicate (4 * k) 0) = List.replicate k 0 := by
  have hzero : uintBytes 0 = List.replicate 4 0 := by decide
  have hflat : List.replicate (4 * k) (0 : Byte) = (List.replicate k 0).flatMap uintBytes := by
    induction k with
    | zero => rfl
    | succ k ih =>
      rw [List.replicate_succ, List.flatMap_cons, ← ih, hzero, List.replicate_append_replicate]
      congr 1
      omega
  have h := uintWords_flatMap (List.replicate k 0) []
  rw [List.append_nil] at h
  rw [hflat, h]
  exact List.append_nil _

end Buffer

/-! ### The line of a captured buffer -/

section Captured

variable {out : List Word} {n : ℕ} {r : VancRecord}

/-- The buffer of `n` zeroed words into which the samples `out` have been packed. -/
def packedBuffer (out : List Word) (n : ℕ) : List (BitVec 32) :=
  overlay (List.replicate n 0) (firstCells (lineWord (y10Component out)) (y10Words out.length))

lemma packedBuffer_length (out : List Word) (n : ℕ) : (packedBuffer out n).length = n := by
  rw [packedBuffer, overlay_length, List.length_replicate]

/-- The number of bytes of a captured buffer. -/
lemma packedBuffer_bytes_length (out : List Word) (n : ℕ) :
    ((packedBuffer out n).flatMap uintBytes).length = 4 * n := by
  simp only [List.length_flatMap, uintBytes_length, List.map_const', List.sum_replicate,
    packedBuffer_length, smul_eq_mul, Nat.mul_comm]

/-- The components of a captured line. -/
lemma captured_component (hout : ∀ w ∈ out, w.toNat < 1024) (hn : y10Words out.length ≤ n)
    (hr : r.data = (packedBuffer out n).flatMap uintBytes) (j : ℕ) :
    v210Component (uintWords r.buffer) j =
      if j / 3 < y10Words out.length then y10Component out j else 0 := by
  have hlen := packedBuffer_length out n
  have hdata : r.data.length = 4 * n := by rw [hr, packedBuffer_bytes_length]
  have hwords : uintWords r.buffer = packedBuffer out n ++ List.replicate (4096 - n) 0 := by
    have hrest : maxbuflen - r.data.length = 4 * (4096 - n) := by
      rw [hdata, maxbuflen]
      omega
    rw [VancRecord.buffer, hrest, hr, uintWords_flatMap, uintWords_replicate]
  split_ifs with hj
  · have hcomp := @v210Component_overlay _ (y10Component_lt hout) (List.replicate n 0) _ j
      (by rwa [List.length_replicate]) hj
    rw [← hcomp, v210Component, v210Component, hwords,
      List.getD_append _ _ _ _ (by rw [hlen]; omega), packedBuffer]
  · have hzero : (uintWords r.buffer).getD (j / 3) 0 = 0 := by
      rw [hwords]
      by_cases hlt : j / 3 < n
      · rw [List.getD_append _ _ _ _ (by rwa [hlen]), packedBuffer, List.getD_eq_getElem?_getD,
          overlay_getElem?, List.getElem?_replicate, if_pos hlt, firstCells, if_neg hj]
        rfl
      · rw [List.getD_append_right _ _ _ _ (by rw [hlen]; omega), List.getD_eq_getElem?_getD,
          List.getElem?_replicate]
        split_ifs
        · rfl
        · rfl
    rw [v210Component, hzero]
    simp

/-- A word of a captured line: a sample, then blanks, chroma and zeros. -/
lemma captured_getD (hout : ∀ w ∈ out, w.toNat < 1024) (hn : y10Words out.length ≤ n) (h2 : 2 ≤ n)
    (hmax : n ≤ 1366) (hr : r.data = (packedBuffer out n).flatMap uintBytes) :
    r.vancLine.words.length = 16384 ∧ out.length ≤ 16384 ∧
      (∀ j < out.length, r.vancLine.words.getD j 0 = out.getD j 0) ∧
      ∀ j, out.length ≤ j → r.vancLine.words.getD j 0 &&& 0x3fc ≠ 0x3fc := by
  have hlen : r.data.length = 4 * n := by rw [hr, packedBuffer_bytes_length]
  have hsamples : r.samples = 4 * n / 6 * 6 := by rw [VancRecord.samples, hlen]
  have hlong : out.length ≤ r.samples := by
    rw [hsamples]
    rw [y10Words] at hn
    omega
  have hconv : 0 < r.samples ∧ r.samples * 6 ≤ 32768 := by
    rw [hsamples]
    omega
  have hwords : r.vancLine.words = overlay (List.replicate 16384 0)
      (nv20Cells (v210Component (uintWords r.buffer)) r.samples (2 * r.samples)) := if_pos hconv
  have hcomp := captured_component hout hn hr
  have hcell : ∀ {j : ℕ} {w : Word}, j < 16384 →
      nv20Cells (v210Component (uintWords r.buffer)) r.samples (2 * r.samples) j = some w →
      r.vancLine.words.getD j 0 = w := by
    intro j w hj hcell
    rw [hwords, List.getD_eq_getElem?_getD,
      overlay_getElem?_of_some hcell (by rwa [List.length_replicate])]
    rfl
  have hblank : ∀ j, (if j / 3 < y10Words out.length then blankComponent j else 0) &&& 0x3fc ≠
      0x3fc := by
    intro j
    rw [blankComponent]
    split_ifs
    · decide
    · decide
    · decide
  refine ⟨by rw [hwords, overlay_length, List.length_replicate], by omega, fun j hj => ?_,
    fun j hj => ?_⟩
  · refine hcell (by omega) ?_
    have hindex : (2 * j + 1) / 2 = j := by omega
    rw [nv20Cells, if_pos (by omega), hcomp, if_pos (by rw [y10Words]; omega), y10Component,
      if_neg (by omega), hindex, List.getD_eq_getElem _ _ hj, List.getD_eq_getElem _ _ hj]
  · by_cases hluma : j < r.samples
    · have hindex : (2 * j + 1) / 2 = j := by omega
      have hvalue : y10Component out (2 * j + 1) = blankComponent (2 * j + 1) := by
        rw [y10Component, if_neg (by omega), hindex, List.getD_eq_default _ _ hj]
      rw [hcell (by omega) (by rw [nv20Cells, if_pos (by omega)]), hcomp, hvalue]
      exact hblank _
    · by_cases hchroma : j < 2 * r.samples
      · have hvalue : y10Component out (2 * (j - r.samples)) =
            blankComponent (2 * (j - r.samples)) := by
          rw [y10Component, if_pos (by omega)]
        rw [hcell (by omega) (by rw [nv20Cells, if_neg (by omega), if_pos (by omega)]), hcomp,
          hvalue]
        exact hblank _
      · rw [r.vancLine_tail (by omega)]
        decide

/-- A captured line has the samples first, and no flag begins behind them. -/
lemma vancLine_words (hout : ∀ w ∈ out, w.toNat < 1024) (hn : y10Words out.length ≤ n) (h2 : 2 ≤ n)
    (hmax : n ≤ 1366) (hr : r.data = (packedBuffer out n).flatMap uintBytes) :
    ∃ tail, NoFlag tail ∧ r.vancLine.words = out ++ tail ∧ (out ++ tail).length = 16384 := by
  obtain ⟨hlen, hle, hsamples, hblank⟩ := captured_getD hout hn h2 hmax hr
  have htake : r.vancLine.words.take out.length = out := by
    apply List.ext_getElem
    · rw [List.length_take, hlen]
      omega
    · intro j h₁ h₂
      have h := hsamples j h₂
      rw [List.getD_eq_getElem _ _ (by omega), List.getD_eq_getElem _ _ h₂] at h
      rw [List.getElem_take, h]
  have hsplit : r.vancLine.words = out ++ r.vancLine.words.drop out.length := by
    conv_lhs => rw [← List.take_append_drop out.length r.vancLine.words, htake]
  refine ⟨r.vancLine.words.drop out.length, fun w hw => ?_, hsplit, hsplit ▸ hlen⟩
  obtain ⟨j, hj, rfl⟩ := List.mem_iff_getElem.mp hw
  have h := hblank (out.length + j) (Nat.le_add_right _ _)
  rw [List.length_drop] at hj
  rw [List.getElem_drop]
  rwa [List.getD_eq_getElem _ _ (by omega)] at h

end Captured

/-! ### Packets on a captured line -/

/-- The packet passes the filter. -/
def SdiPacket.passes (filter : PacketFilter) (p : SdiPacket) : Bool := pktFiltered filter p.onLine

/-- The headers report the packets, which stand one behind the other on the line `lineNr`. -/
def ReportPackets (lineNr : ℕ) (ps : List SdiPacket) (hdrs : List KlvancPacketHeader) : Prop :=
  List.Forall₂ (fun p hdr => p.1.ReportedBy p.2 hdr ∧ hdr.lineNr = lineNr)
    (ps.zip (starts 0 ps)) hdrs

section Packed

/-- Every sample of a line of packets has ten bits. -/
lemma line_lt {ps : List SdiPacket} : ∀ w ∈ line ps, w.toNat < 1024 := by
  intro w hw
  obtain ⟨p, -, hw⟩ := List.mem_flatMap.mp hw
  rw [words, List.append_assoc, List.mem_append] at hw
  rcases hw with hflag | hbody
  · fin_cases hflag
    · decide
    · decide
    · decide
  · have := (p.word_bounds hbody).2
    omega

/-- The headers of packets on a line report them. -/
lemma reportPackets_headersBefore (tail : List Word) (lineNr off : ℕ) {ps : List SdiPacket}
    (h : off + (line ps).length ≤ 16384) :
    List.Forall₂ (fun p hdr => p.1.ReportedBy p.2 hdr ∧ hdr.lineNr = lineNr)
      (ps.zip (starts off ps))
      (headersBefore tail lineNr off ps) := by
  induction ps generalizing off with
  | nil => exact List.Forall₂.nil
  | cons p ps ih =>
    rw [line_cons, List.length_append, ← Nat.add_assoc] at h
    rw [starts, headersBefore, List.zip_cons_cons]
    exact List.Forall₂.cons ⟨p.reportedBy_header _ _ (by omega), rfl⟩ (ih _ h)

/-- The filter sees of a header only the identifiers of the packet. -/
lemma length_filter_headersBefore (filter : PacketFilter) (tail : List Word) (lineNr off : ℕ)
    (ps : List SdiPacket) :
    ((headersBefore tail lineNr off ps).filter (pktFiltered filter)).length =
      (ps.filter (SdiPacket.passes filter)).length := by
  induction ps generalizing off with
  | nil => rfl
  | cons p ps ih =>
    have hsame : pktFiltered filter (p.header lineNr (line (p :: ps) ++ tail) off) =
        p.passes filter := rfl
    rw [headersBefore, List.filter_cons, List.filter_cons, hsame]
    split_ifs
    · rw [List.length_cons, List.length_cons, ih]
    · exact ih _

variable {ps : List SdiPacket} {n : ℕ} {r : VancRecord}

/-- The packets found on a line of packets that is captured are these packets. -/
lemma headers_packed (hn : y10Words (line ps).length ≤ n) (h2 : 2 ≤ n) (hmax : n ≤ 1366)
    (hr : r.data = (packedBuffer (line ps) n).flatMap uintBytes) :
    ∃ tail, r.vancLine.headers = headersBefore tail r.line.toNat 0 ps ∧
      (line ps).length ≤ 16384 := by
  obtain ⟨tail, htail, hwords, hlength⟩ := vancLine_words line_lt hn h2 hmax hr
  refine ⟨tail, ?_, ?_⟩
  · have hline : r.vancLine = ⟨r.line.toNat, line ps ++ tail⟩ := by
      rw [← hwords]
      rfl
    rw [hline]
    exact headers_append_blank htail _ hlength.le
  · rw [List.length_append] at hlength
    omega

/-- They are reported whatever the context is, and the record passes a filter exactly when one of
them does. -/
lemma found_packed (hn : y10Words (line ps).length ≤ n) (h2 : 2 ≤ n) (hmax : n ≤ 1366)
    (hr : r.data = (packedBuffer (line ps) n).flatMap uintBytes) (filter : PacketFilter)
    (ctx : KlvancContext) :
    ReportPackets r.line.toNat ps (r.vancLine.headers.filter ctx.reports) ∧
      (r.found filter ctx).length = (ps.filter (SdiPacket.passes filter)).length ∧
      r.passes filter ctx = ps.any (SdiPacket.passes filter) := by
  obtain ⟨tail, hheaders, hlen⟩ := headers_packed hn h2 hmax hr
  have hreports : r.vancLine.headers.filter ctx.reports = headersBefore tail r.line.toNat 0 ps := by
    rw [hheaders, filter_reports_headersBefore]
  have hfound : (r.found filter ctx).length = (ps.filter (SdiPacket.passes filter)).length := by
    rw [VancRecord.found, hreports, length_filter_headersBefore]
  refine ⟨?_, hfound, ?_⟩
  · rw [hreports, ReportPackets]
    exact reportPackets_headersBefore tail _ 0 (by omega)
  · rw [VancRecord.passes, Bool.eq_iff_iff, Bool.not_eq_true', List.isEmpty_eq_false_iff,
      ← List.length_pos_iff, hfound, List.length_pos_iff, List.any_eq_true]
    constructor
    · intro hne
      obtain ⟨p, hp⟩ := List.exists_mem_of_ne_nil _ hne
      exact ⟨p, (List.mem_filter.mp hp).1, (List.mem_filter.mp hp).2⟩
    · rintro ⟨p, hmem, hpasses⟩
      exact List.ne_nil_of_mem (List.mem_filter.mpr ⟨hmem, hpasses⟩)

end Packed

/-! ### Lines captured from a line set -/

/-- The slot of the first line of a line set. -/
def firstSlot : Fin maxVancLines := ⟨0, Nat.le_of_ble_eq_true rfl⟩

/-- A record of a line that `klvanc_generate_vanc_line_v210` has put into a zeroed buffer, from
packets inserted on one line of an empty line set. -/
structure CapturedLine (qsort : Qsort) (fresh : ℕ → Word) where
  packets : List (SdiPacket × ℤ)
  /-- The line of the line set. -/
  source : KlvancLine
  width : ℤ
  /-- The entries of the line as they are left. -/
  entries : List KlvancEntry
  /-- The number of words of the buffer. -/
  room : ℕ
  buffer : List (BitVec 32)
  record : VancRecord
  packets_le : packets.length ≤ maxVancEntries
  offsets : (packets.map Prod.snd).Nodup
  inserted : (insertPackets record.line.toNat packets).slot firstSlot = some source
  wide : 720 < width
  /-- The buffer has room for a line of the given width. -/
  width_le : y10Words width.toNat ≤ room
  /-- The analyzer converts the whole buffer. -/
  room_le : room ≤ 1366
  generated : klvancGenerateVancLineV210 qsort fresh source (List.replicate room 0) width =
    pure (0, entries, buffer)
  data : record.data = buffer.flatMap uintBytes

/-- The packets `placed` of those handed over are the ones that were put on the line, in the order
of their offsets. -/
structure CapturedLine.Places {qsort : Qsort} {fresh : ℕ → Word} (c : CapturedLine qsort fresh)
    (placed : List (SdiPacket × ℤ)) : Prop where
  subperm : placed.Subperm c.packets
  sorted : placed.Pairwise fun p q => p.2 < q.2
  entries : (c.entries.filter (·.pixelWidth ≠ 0)).map (·.payload) = placed.map (·.1.words)

section CapturedLine

variable {qsort : Qsort} {fresh : ℕ → Word} (c : CapturedLine qsort fresh)

/-- The buffer that is captured is the packing of the packets placed. -/
lemma CapturedLine.exists_placed : ∃ placed : List (SdiPacket × ℤ), c.Places placed ∧
    (line (placed.map Prod.fst)).length ≤ c.width.toNat ∧
    c.buffer = packedBuffer (line (placed.map Prod.fst)) c.room := by
  have hentries : c.source.entries = c.packets.map packetEntry := by
    have h := (insertPackets_entries c.record.line.toNat c.packets_le).2
    have hslot := c.inserted
    rw [KlvancLineSet.slot] at hslot
    rwa [show (insertPackets c.record.line.toNat c.packets).lines[0] = some c.source from
      hslot] at h
  obtain ⟨sorted, hperm, hpair, hsort⟩ := exists_sorted_packets qsort c.offsets
  rw [← hentries] at hsort
  have hfilled : ∀ e ∈ c.source.entries, e.Filled := fun e he => by
    rw [hentries] at he
    obtain ⟨p, -, rfl⟩ := List.mem_map.mp he
    exact filled_packetEntry p
  have hwords : ∀ n, v210Words c.width n = y10Words n := fun n => if_pos c.wide
  have hroom : v210Words c.width c.width.toNat ≤
      (List.replicate c.room (0 : BitVec 32)).length := by
    rw [hwords, List.length_replicate]
    exact c.width_le
  have hsafe : (klvancGenerateVancLineV210 qsort fresh c.source (List.replicate c.room 0)
      c.width).Safe := by
    rw [c.generated]
    exact Checked.safe_pure _
  obtain ⟨samples, hlen, hgen⟩ :=
    @klvancGenerateVancLine_of_some qsort fresh c.source c.width hfilled
    ((klvancGenerateVancLineV210_safe_iff hfilled hroom).mp hsafe)
  have hv210 := klvancGenerateVancLineV210_of_some hgen ((v210Words_mono hlen).trans hroom)
  rw [c.generated] at hv210
  have hval := congrArg Checked.val hv210
  rw [Checked.pure_val, Checked.pure_val, Prod.mk.injEq, Prod.mk.injEq] at hval
  obtain ⟨-, hleft, hbuffer⟩ := hval
  have hgenVal : (klvancGenerateVancLine qsort fresh c.source c.width).val =
      (0, c.entries, some samples) := by
    rw [hgen, Checked.pure_val, hleft]
  obtain ⟨-, placed, hsub, -, hkept, rfl⟩ := klvancGenerateVancLine_packets hfilled hsort hgenVal
  refine ⟨placed, ⟨hsub.subperm.trans hperm.subperm, hpair.sublist hsub, hkept⟩, hlen, ?_⟩
  rw [hbuffer, v210Cells, if_pos c.wide, packedBuffer]

/-- A captured line has a packet placed that passes the filter exactly when its record passes it. -/
lemma CapturedLine.exists_found (filter : PacketFilter) (ctx : KlvancContext) :
    ∃ placed : List (SdiPacket × ℤ), c.Places placed ∧
      ReportPackets c.record.line.toNat (placed.map Prod.fst)
        (c.record.vancLine.headers.filter ctx.reports) ∧
      (c.record.found filter ctx).length = (placed.filter (·.1.passes filter)).length ∧
      c.record.passes filter ctx = placed.any (·.1.passes filter) := by
  obtain ⟨placed, hplaces, hlen, hbuffer⟩ := c.exists_placed
  have hwide := c.wide
  have hwidth := c.width_le
  have hroom : y10Words (line (placed.map Prod.fst)).length ≤ c.room := by
    rw [y10Words] at hwidth ⊢
    omega
  have htwo : 2 ≤ c.room := by
    rw [y10Words] at hwidth
    omega
  obtain ⟨hreport, hfound, hpasses⟩ :=
    found_packed hroom htwo c.room_le (by rw [c.data, hbuffer]) filter ctx
  refine ⟨placed, hplaces, hreport, ?_, ?_⟩
  · rw [hfound, List.filter_map, List.length_map]
    rfl
  · rw [hpasses, List.any_map]
    rfl

variable (filter : PacketFilter) {ctx : KlvancContext}

/-- A newly started analyzer, given a file of captured lines, reports exactly the packets placed on
them, line by line and in the order of their offsets, each with its octets, its line number and its
position; it reads nothing outside a line and meets no fault. It counts the packets placed that pass
the filter, and writes out exactly the records of the lines with such a packet. -/
theorem analyzeVANC_capturedLines (hall : ctx.registered (·.all) = true)
    (cs : List (CapturedLine qsort fresh)) :
    ∃ placed : CapturedLine qsort fresh → List (SdiPacket × ℤ),
      ∃ hdrs : CapturedLine qsort fresh → List KlvancPacketHeader,
      (∀ c, c.Places (placed c) ∧
        ReportPackets c.record.line.toNat ((placed c).map Prod.fst) (hdrs c)) ∧
      (analyzeVANC filter (.start ctx) (cs.flatMap (·.record.bytes))).val.run.allHeaders =
        cs.flatMap hdrs ∧
      (analyzeVANC filter (.start ctx) (cs.flatMap (·.record.bytes))).val.run.lineFaults = [] ∧
      (analyzeVANC filter (.start ctx) (cs.flatMap (·.record.bytes))).val.vancEntryCount =
        BitVec.ofNat 32
          (cs.flatMap fun c => (placed c).filter (·.1.passes filter)).length ∧
      (analyzeVANC filter (.start ctx) (cs.flatMap (·.record.bytes))).val.output =
        some ((cs.filter fun c => (placed c).any (·.1.passes filter)).flatMap (·.record.bytes)) ∧
      (analyzeVANC filter (.start ctx) (cs.flatMap (·.record.bytes))).Safe := by
  choose placed hplaces hreport hfound hpasses using
    fun c : CapturedLine qsort fresh => c.exists_found filter ctx
  have hfile : cs.flatMap (·.record.bytes) =
      (cs.map CapturedLine.record).flatMap VancRecord.bytes := by
    rw [List.flatMap_map]
  obtain ⟨hsame, hsafe⟩ :=
    @analyzeVANC_flatMap filter (.start ctx) hall (cs.map CapturedLine.record)
  obtain ⟨hrun, hentries, -, houtput⟩ :=
    @foldl_after filter (.start ctx) (cs.map CapturedLine.record)
  have hparsable : ∀ l ∈ (cs.map CapturedLine.record).map VancRecord.vancLine, l.Parsable := by
    intro l hl
    obtain ⟨r, -, rfl⟩ := List.mem_map.mp hl
    exact r.vancLine_parsable
  rw [← hfile] at hsame hsafe
  refine ⟨placed, fun c => c.record.vancLine.headers.filter ctx.reports,
    fun c => ⟨hplaces c, hreport c⟩, ?_, ?_, ?_, ?_, hsafe⟩
  · rw [hsame.run, hrun]
    have hheaders := @parseLines_allHeaders _ hparsable ctx
    rw [hall, if_pos rfl, reportedOn, List.map_map, List.flatMap_map] at hheaders
    rw [List.map_map]
    exact hheaders.trans List.filter_flatMap
  · rw [hsame.run, hrun, parseLines_vancLines_lineFaults]
    rfl
  · rw [hsame.vancEntryCount, hentries, List.flatMap_map, List.length_flatMap, List.length_flatMap]
    have hstart : (VancAnalysis.start ctx).vancEntryCount = 0 := rfl
    rw [hstart, zero_add]
    refine congrArg (fun l : List ℕ => BitVec.ofNat 32 l.sum) (List.map_congr_left fun c _ => ?_)
    exact hfound c
  · rw [hsame.output, houtput, List.filter_map, List.flatMap_map]
    refine congrArg
      (fun l : List (CapturedLine qsort fresh) => some (l.flatMap fun c => c.record.bytes))
      (List.filter_congr fun c _ => ?_)
    exact hpasses c

end CapturedLine

/-- The samples of the line of an AFD packet and a caption packet. -/
def twoSamples : List Word := line (twoPackets.reverse.map Prod.fst)

lemma twoBuffer_lt : ((packedBuffer twoSamples 481).flatMap uintBytes).length < maxbuflen := by
  rw [packedBuffer_bytes_length, maxbuflen]
  norm_num

/-- The line of the two packets in a line set. -/
def twoLine : KlvancLine := { lineNumber := 9, entries := twoPackets.map packetEntry }

lemma twoLine_inserted : (insertPackets 9 twoPackets).slot firstSlot = some twoLine := by
  decide +kernel

lemma twoLine_generated :
    klvancGenerateVancLineV210 Qsort.insertion (fun _ => 0) twoLine (List.replicate 481 0) 721 =
      pure (0, (placeEntries 721 (twoPackets.reverse.map packetEntry) 0).1,
        packedBuffer twoSamples 481) := by
  have hgen : klvancGenerateVancLine Qsort.insertion (fun _ => 0) twoLine 721 =
      pure (0, (placeEntries 721 (twoPackets.reverse.map packetEntry) 0).1, some twoSamples) := by
    decide +kernel
  have hlen : v210Words 721 twoSamples.length ≤ (List.replicate 481 (0 : BitVec 32)).length := by
    rw [List.length_replicate]
    decide
  exact klvancGenerateVancLineV210_of_some hgen hlen

/-- The record of the buffer. -/
def twoRecord : VancRecord :=
  ⟨9, 721, 486, (packedBuffer twoSamples 481).flatMap uintBytes, twoBuffer_lt⟩

lemma twoRecord_data : twoRecord.data = (packedBuffer twoSamples 481).flatMap uintBytes := by
  rw [twoRecord]

lemma blankBuffer_lt : ((packedBuffer (line []) 12).flatMap uintBytes).length < maxbuflen := by
  rw [packedBuffer_bytes_length, maxbuflen]
  norm_num

/-- A record of a line without packets. -/
def blankRecord : VancRecord :=
  ⟨10, 12, 486, (packedBuffer (line []) 12).flatMap uintBytes, blankBuffer_lt⟩

lemma blankRecord_data : blankRecord.data = (packedBuffer (line []) 12).flatMap uintBytes := by
  rw [blankRecord]

/-- A file of both records and a byte behind them. -/
def twoBlankFile : List Byte := [twoRecord, blankRecord].flatMap VancRecord.bytes ++ [0]

lemma freadHeader_zero : freadHeader [0] = none := by
  decide

lemma hasRecords_twoBlankFile :
    RecordFile.HasRecords VancRecord.bytes twoBlankFile [twoRecord, blankRecord] := by
  refine ⟨[0], rfl, fun r l h => ?_⟩
  have hread : freadHeader (r.bytes ++ l) =
      some (r.header, r.data ++ uintBytes vancEolIndicator ++ l) :=
    freadHeader_eq_some_iff.mpr (by rw [VancRecord.bytes, List.append_assoc])
  rw [← h, freadHeader_zero] at hread
  exact absurd hread.symm (Option.some_ne_none _)

/-- The first record passes the filters that ask for one of its packets. -/
lemma twoRecord_found (filter : PacketFilter) :
    (twoRecord.found filter allContext).length =
        ((twoPackets.reverse.map Prod.fst).filter (SdiPacket.passes filter)).length ∧
      twoRecord.passes filter allContext =
        (twoPackets.reverse.map Prod.fst).any (SdiPacket.passes filter) :=
  (found_packed (Nat.le_of_ble_eq_true rfl) (Nat.le_of_ble_eq_true rfl) (Nat.le_of_ble_eq_true rfl)
    twoRecord_data filter allContext).2

/-- The other one passes no filter. -/
lemma blankRecord_found (filter : PacketFilter) :
    (blankRecord.found filter allContext).length = 0 ∧
      blankRecord.passes filter allContext = false :=
  (found_packed (Nat.le_of_ble_eq_true rfl) (Nat.le_of_ble_eq_true rfl) (Nat.le_of_ble_eq_true rfl)
    blankRecord_data filter allContext).2

/-- A filter that one of the packets passes leaves the first record. -/
lemma filteredFile_twoBlank {filter : PacketFilter}
    (h : (twoPackets.reverse.map Prod.fst).any (SdiPacket.passes filter) = true) :
    filteredFile filter allContext twoBlankFile = twoRecord.bytes := by
  obtain ⟨rs, hrs, hout⟩ := @filteredFile_filtered filter allContext rfl twoBlankFile
  obtain rfl : rs = [twoRecord, blankRecord] :=
    RecordFile.records_unique VancRecord.prefixCode hrs hasRecords_twoBlankFile
  rw [hout, List.filter_cons, List.filter_singleton, (twoRecord_found filter).2, h,
    (blankRecord_found filter).2]
  exact List.flatMap_singleton _ _

/-- The file filtered for AFD packets and for caption packets. -/
theorem filteredFile_laws_twoBlank :
    filteredFile ⟨0x41, 0⟩ allContext twoBlankFile = twoRecord.bytes ∧
      twoRecord.bytes.Sublist twoBlankFile ∧
      filteredFile ⟨0x41, 0⟩ allContext twoRecord.bytes = twoRecord.bytes ∧
      filteredFile ⟨0x61, 0x02⟩ allContext twoRecord.bytes =
        filteredFile ⟨0x41, 0⟩ allContext
          (filteredFile ⟨0x61, 0x02⟩ allContext twoBlankFile) ∧
      (analyzeVANC ⟨0x61, 0x02⟩ (.start allContext) twoRecord.bytes).Safe := by
  have hfile : filteredFile ⟨0x41, 0⟩ allContext twoBlankFile = twoRecord.bytes :=
    filteredFile_twoBlank rfl
  obtain ⟨hsub, hidem, hcomm, -, hsafe⟩ :=
    filteredFile_laws ⟨0x41, 0⟩ allContext rfl ⟨0x61, 0x02⟩ twoBlankFile
  rw [hfile] at hsub hidem hcomm hsafe
  exact ⟨hfile, hsub, hidem, hcomm, hsafe⟩

/-- The line of the two packets, captured. -/
def twoCaptured : CapturedLine Qsort.insertion (fun _ => 0) where
  packets := twoPackets
  source := twoLine
  width := 721
  entries := (placeEntries 721 (twoPackets.reverse.map packetEntry) 0).1
  room := 481
  buffer := packedBuffer twoSamples 481
  record := twoRecord
  packets_le := Nat.le_of_ble_eq_true rfl
  offsets := by decide
  inserted := twoLine_inserted
  wide := by norm_num
  width_le := Nat.le_of_ble_eq_true rfl
  room_le := Nat.le_of_ble_eq_true rfl
  generated := twoLine_generated
  data := twoRecord_data

/-- The captured line is analyzed to its end. -/
theorem analyzeVANC_capturedLines_two :
    (analyzeVANC {} (.start allContext) (List.flatMap
      (fun c : CapturedLine Qsort.insertion fun _ => 0 => c.record.bytes) [twoCaptured])).Safe := by
  obtain ⟨-, -, -, -, -, -, -, hsafe⟩ :=
    @analyzeVANC_capturedLines Qsort.insertion (fun _ => 0) {} allContext rfl [twoCaptured]
  exact hsafe

end Libklvanc
