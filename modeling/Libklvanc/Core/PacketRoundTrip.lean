import Libklvanc.Core.LineScan
import Libklvanc.Core.SdiPayload

/-!
# Lines made of packets

A line that consists of well-formed packets, one after the other, is taken apart into exactly these
packets by `klvanc_packet_parse` (`klvancPacketParse_line`): the flags of the line are the starts of
the packets (`isAdf_line_iff`), because every word of a packet but its first one exceeds 2, and the
header taken at a start is the header of the packet that starts there (`headerAt_start`).
-/

namespace Libklvanc

namespace SdiPacket

/-- The line on which the packets stand one after the other. -/
def line (ps : List SdiPacket) : List Word := ps.flatMap words

/-- The positions at which the packets start, the first one at `off`. -/
def starts : ℕ → List SdiPacket → List ℕ
  | _, [] => []
  | off, p :: ps => off :: starts (off + p.words.length) ps

/-- The header of a packet that starts at `off` and is followed by the rest of the line `raw`, which
the packet itself begins. -/
def header (p : SdiPacket) (lineNr : ℕ) (raw : List Word) (off : ℕ) : KlvancPacketHeader where
  type := lookupTypeByDID (p.did.setWidth 16) (p.sdid.setWidth 16)
  adf := (0x000, 0x3ff, 0x3ff)
  did := p.did.setWidth 16
  dbnsdid := p.sdid.setWidth 16
  checksum := klvancChecksumCalculate p.body
  payload := p.bytes.map fun b => addParity (b.setWidth 16)
  checksumValid := true
  lineNr := lineNr
  raw := raw
  rawLengthWords := raw.length
  horizontalOffset := off % 2 ^ 16

/-- The header of a packet on line 9. -/
def onLine (p : SdiPacket) : KlvancPacketHeader := p.header 9 p.words 0

/-- The payload of a packet's header carries the octets of the packet. -/
lemma header_payload_lowByte (p : SdiPacket) (lineNr : ℕ) (raw : List Word) (off : ℕ) :
    (p.header lineNr raw off).payload.map lowByte = p.bytes := by
  rw [header, List.map_map]
  exact (List.map_congr_left fun b _ => (addParity_octet b).2.2).trans (List.map_id _)

/-- The payload octets of a packet's header are the octets of the packet. -/
lemma header_payloadByte (p : SdiPacket) (lineNr : ℕ) (raw : List Word) (off i : ℕ) :
    (p.header lineNr raw off).payloadByte i = p.bytes.getD i 0 := by
  simp only [KlvancPacketHeader.payloadByte, KlvancPacketHeader.payloadWord, SdiPacket.header,
    List.getD, List.getElem?_map]
  cases p.bytes[i]? with
  | none => rfl
  | some b => exact (addParity_octet b).2.2

/-- The headers of packets that stand one after the other, the first one at `off`. -/
def headers (lineNr : ℕ) : ℕ → List SdiPacket → List KlvancPacketHeader
  | _, [] => []
  | off, p :: ps => p.header lineNr (line (p :: ps)) off :: headers lineNr (off + p.words.length) ps

lemma line_cons (p : SdiPacket) (ps : List SdiPacket) : line (p :: ps) = p.words ++ line ps := rfl

/-! ### The words of one packet -/

section Packet

variable (p : SdiPacket) (pre post : List Word)

/-- The words of a packet that stands on a line. -/
lemma getD_words {k : ℕ} (hk : k < p.words.length) :
    (pre ++ (p.words ++ post)).getD (pre.length + k) 0 = p.words.getD k 0 := by
  rw [List.getD_append_right _ _ _ _ (Nat.le_add_right _ _), Nat.add_sub_cancel_left,
    List.getD_append _ _ _ _ hk]

/-- The words of a packet behind its ADF. -/
lemma words_getD_add_three (k : ℕ) :
    p.words.getD (3 + k) 0 = (p.body ++ [klvancChecksumCalculate p.body]).getD k 0 := by
  rw [words, List.append_assoc, List.getD_append_right _ _ _ _ (by simp)]
  congr 1
  simp

/-- The ADF of a packet. -/
lemma words_getD_adf : p.words.getD 0 0 = 0x000 ∧ p.words.getD 1 0 = 0x3ff ∧
    p.words.getD 2 0 = 0x3ff := by
  rw [words, List.append_assoc]
  exact ⟨rfl, rfl, rfl⟩

/-- Behind the ADF every word of a packet lies between `0x100` and `0x2ff`. -/
lemma words_getD_bounds {k : ℕ} (h : 3 ≤ k) (hk : k < p.words.length) :
    256 ≤ (p.words.getD k 0).toNat ∧ (p.words.getD k 0).toNat < 768 := by
  obtain ⟨j, rfl⟩ := Nat.exists_eq_add_of_le h
  have hj : j < (p.body ++ [klvancChecksumCalculate p.body]).length := by
    rw [words_length] at hk
    rw [List.length_append, body_length, List.length_singleton]
    omega
  rw [words_getD_add_three, List.getD_eq_getElem _ _ hj]
  exact p.word_bounds (List.getElem_mem hj)

/-- Every word of a packet but its first one exceeds 2. -/
lemma three_le_words_getD {k : ℕ} (hpos : 0 < k) (hk : k < p.words.length) :
    3 ≤ (p.words.getD k 0).toNat := by
  rcases lt_or_ge k 3 with h | h
  · obtain rfl | rfl : k = 1 ∨ k = 2 := by omega
    · rw [p.words_getD_adf.2.1]
      decide
    · rw [p.words_getD_adf.2.2]
      decide
  · exact (by norm_num : 3 ≤ 256).trans (p.words_getD_bounds h hk).1

/-- A flag stands where a packet starts. -/
lemma isAdf_start : isAdf (pre ++ (p.words ++ post)) pre.length = true := by
  have h := p.words_length
  obtain ⟨a₀, a₁, a₂⟩ := p.words_getD_adf
  have h₀ := p.getD_words pre post (k := 0) (by omega)
  rw [Nat.add_zero] at h₀
  rw [isAdf, p.getD_words pre post (k := 1) (by omega), p.getD_words pre post (k := 2) (by omega),
    h₀, a₀, a₁, a₂]
  rfl

/-- No flag stands inside a packet. -/
lemma not_isAdf_inside {k : ℕ} (hpos : 0 < k) (hk : k < p.words.length) :
    ¬isAdf (pre ++ (p.words ++ post)) (pre.length + k) = true := by
  have h := p.three_le_words_getD hpos hk
  rw [isAdf, p.getD_words pre post hk, decide_eq_false (not_lt.mpr h)]
  exact Bool.false_ne_true

/-- The words of the body of a packet that stands on a line. -/
lemma getD_body {k : ℕ} (hk : k < p.octets.length) :
    (pre ++ (p.words ++ post)).getD (pre.length + (3 + k)) 0 =
      addParity ((p.octets.getD k 0).setWidth 16) := by
  have hlen : p.octets.length = p.bytes.length + 3 := rfl
  have hk' : k < p.body.length := by
    rw [body_length]
    omega
  rw [getD_words _ _ _ (by rw [words_length]; omega), words_getD_add_three,
    List.getD_append _ _ _ _ hk', body_eq, List.getD_eq_getElem _ _ (by simpa using hk),
    List.getElem_map, List.getD_eq_getElem _ _ hk]

/-- The low octets of the body of a packet that stands on a line. -/
lemma sanitizeWord_getD_body {k : ℕ} (hk : k < p.octets.length) :
    sanitizeWord ((pre ++ (p.words ++ post)).getD (pre.length + (3 + k)) 0) =
      (p.octets.getD k 0).setWidth 16 := by
  apply BitVec.eq_of_toNat_eq
  rw [p.getD_body pre post hk, sanitizeWord_toNat, (addParity_octet _).2.2, BitVec.toNat_setWidth,
    Nat.mod_eq_of_lt (lt_trans (BitVec.isLt _) (by norm_num))]

/-- The data count of a packet that stands on a line. -/
lemma dataCount_start : dataCount (pre ++ (p.words ++ post)) pre.length = p.bytes.length := by
  have hle := p.bytes_le
  have h := p.getD_body pre post (k := 2) (by simp [octets])
  rw [dataCount, h, (addParity_octet _).2.2]
  change (BitVec.ofNat 8 p.bytes.length).toNat = _
  rw [BitVec.toNat_ofNat, Nat.mod_eq_of_lt (by omega)]

/-- A packet that stands on a line lies inside it. -/
lemma start_inside : pre.length + 7 + dataCount (pre ++ (p.words ++ post)) pre.length ≤
    (pre ++ (p.words ++ post)).length := by
  rw [dataCount_start, List.length_append, List.length_append, words_length]
  omega

/-- The words of a packet from its third one on. -/
lemma words_drop_six : p.words.drop 6 =
    (p.bytes.map fun b => addParity (b.setWidth 16)) ++ [klvancChecksumCalculate p.body] := by
  rw [show 6 = 3 + 3 from rfl, ← List.drop_drop, words_drop, body_eq]
  rfl

/-- The header taken where a packet starts is the header of the packet. -/
lemma headerAt_start (lineNr : ℕ) :
    headerAt lineNr (pre ++ (p.words ++ post)) (pre ++ (p.words ++ post)).length pre.length =
      p.header lineNr (p.words ++ post) pre.length := by
  have hlen : (pre ++ (p.words ++ post)).length = pre.length + (p.words ++ post).length :=
    List.length_append
  have hdrop : ∀ k, k ≤ p.words.length →
      (pre ++ (p.words ++ post)).drop (pre.length + k) = p.words.drop k ++ post := by
    intro k hk
    rw [List.drop_append, List.drop_eq_nil_of_le (Nat.le_add_right _ _), Nat.add_sub_cancel_left,
      List.nil_append, List.drop_append_of_le_length hk]
  have hoct : 3 ≤ p.octets.length := by simp [octets]
  obtain ⟨a₀, a₁, a₂⟩ := p.words_getD_adf
  have h₀ := p.getD_words pre post (k := 0) (by simp)
  have h₁ := p.getD_words pre post (k := 1) (by simp)
  have h₂ := p.getD_words pre post (k := 2) (by simp)
  have h₃ := p.sanitizeWord_getD_body pre post (k := 0) (by omega)
  have h₄ := p.sanitizeWord_getD_body pre post (k := 1) (by omega)
  have hsum : (pre ++ (p.words ++ post)).getD (pre.length + 6 + p.bytes.length) 0 =
      klvancChecksumCalculate p.body := by
    rw [Nat.add_assoc, p.getD_words pre post (by rw [words_length]; omega),
      show 6 + p.bytes.length = 3 + (3 + p.bytes.length) by omega, words_getD_add_three,
      List.getD_append_right _ _ _ _ (by rw [body_length]; omega), body_length,
      show 3 + p.bytes.length - (p.bytes.length + 3) = 0 by omega]
    rfl
  have hpayload : ((pre ++ (p.words ++ post)).drop (pre.length + 6)).take p.bytes.length =
      p.bytes.map fun b => addParity (b.setWidth 16) := by
    rw [hdrop 6 (by simp), words_drop_six, List.append_assoc, List.take_left' (by simp)]
  have hvalid : ((pre ++ (p.words ++ post)).drop (pre.length + 3)).take (p.bytes.length + 4) =
      p.words.drop 3 := by
    rw [hdrop 3 (by simp), List.take_left' (by simp)]
  have hraw : (pre ++ (p.words ++ post)).drop pre.length = p.words ++ post := List.drop_left
  rw [Nat.add_zero] at h₀ h₃
  rw [headerAt, hlen, Nat.add_sub_cancel_left, parseHeader_val hlen.ge (p.start_inside pre post),
    p.dataCount_start pre post, hpayload, hvalid, hsum, hraw, List.take_length, h₀, h₁, h₂, h₃, h₄,
    a₀, a₁, a₂, p.checksum_valid]
  rfl

end Packet

/-! ### The line -/

section Line

variable {ps : List SdiPacket}

/-- The starts lie at or behind the first one. -/
lemma le_of_mem_starts {off i : ℕ} (h : i ∈ starts off ps) : off ≤ i := by
  induction ps generalizing off with
  | nil => simp [starts] at h
  | cons p ps ih =>
    rcases List.mem_cons.mp h with rfl | h
    · exact le_rfl
    · exact le_of_add_le_left (ih h)

/-- The starts are spaced by the lengths of the packets. -/
lemma starts_spaced (off : ℕ) (ps : List SdiPacket) :
    (starts off ps).Pairwise fun i j => i + 7 ≤ j := by
  induction ps generalizing off with
  | nil => exact List.Pairwise.nil
  | cons p ps ih =>
    refine List.pairwise_cons.mpr ⟨fun j hj => ?_, ih _⟩
    have h := le_of_mem_starts hj
    rw [words_length] at h
    omega

/-- There is one start for each packet. -/
@[simp] lemma starts_length (off : ℕ) (ps : List SdiPacket) :
    (starts off ps).length = ps.length := by
  induction ps generalizing off with
  | nil => rfl
  | cons p ps ih => simp [starts, ih]

/-- Every packet leaves more than seven words of the line behind its start. -/
lemma start_add_lt {off i : ℕ} (h : i ∈ starts off ps) : i + 7 < off + (line ps).length := by
  induction ps generalizing off with
  | nil => simp [starts] at h
  | cons p ps ih =>
    have hpos := p.bytes_pos
    rw [line_cons, List.length_append]
    rcases List.mem_cons.mp h with rfl | h
    · rw [words_length]
      omega
    · have := ih h
      omega

/-- The flags of the line are the starts of its packets. -/
lemma isAdf_line_iff {pre : List Word} {i : ℕ} (hi : pre.length ≤ i) :
    isAdf (pre ++ line ps) i = true ↔ i ∈ starts pre.length ps := by
  induction ps generalizing pre with
  | nil =>
    simp only [starts, List.not_mem_nil, iff_false]
    intro h
    have := isAdf_lt h
    simp only [line, List.flatMap_nil, List.append_nil] at this
    omega
  | cons p ps ih =>
    rw [line_cons, starts, List.mem_cons]
    rcases lt_or_ge i (pre.length + p.words.length) with hlt | hge
    · have hnot : i ∉ starts (pre.length + p.words.length) ps := fun h => by
        have := le_of_mem_starts h
        omega
      obtain ⟨k, rfl⟩ := Nat.exists_eq_add_of_le hi
      rcases Nat.eq_zero_or_pos k with rfl | hk
      · simp [p.isAdf_start pre (line ps)]
      · have hadf := p.not_isAdf_inside pre (line ps) hk (by omega)
        exact iff_of_false hadf (not_or.mpr ⟨by omega, hnot⟩)
    · have h := @ih (pre ++ p.words) (by rwa [List.length_append])
      rw [List.append_assoc, List.length_append] at h
      rw [h]
      constructor
      · exact Or.inr
      · rintro (rfl | h')
        · have := p.words_length
          omega
        · exact h'

/-- The headers taken at the starts are the headers of the packets. -/
lemma map_headerAt_starts (lineNr : ℕ) (pre : List Word) (ps : List SdiPacket) :
    (starts pre.length ps).map (headerAt lineNr (pre ++ line ps) (pre ++ line ps).length) =
      headers lineNr pre.length ps := by
  induction ps generalizing pre with
  | nil => rfl
  | cons p ps ih =>
    have h := ih (pre ++ p.words)
    rw [List.append_assoc, ← line_cons, @List.length_append _ pre p.words] at h
    rw [starts, headers, List.map_cons, h, line_cons, p.headerAt_start]

/-- Taking apart the packets of the line reads inside it. -/
lemma parseHeader_starts_faults (pre : List Word) (ps : List SdiPacket) {i : ℕ}
    (hi : i ∈ starts pre.length ps) :
    (parseHeader (pre ++ line ps) i ((pre ++ line ps).length - i)).faults = [] := by
  have hlt := start_add_lt hi
  rw [← List.length_append] at hlt
  refine (safe_parseHeader hlt le_rfl).mpr ?_
  induction ps generalizing pre with
  | nil => simp [starts] at hi
  | cons p ps ih =>
    rcases List.mem_cons.mp hi with rfl | hi
    · exact p.start_inside pre (line ps)
    · have h := ih (pre ++ p.words) (by rwa [List.length_append])
        (by rwa [List.append_assoc, ← line_cons])
      rwa [List.append_assoc, ← line_cons] at h

/-- The header of one of the packets. -/
lemma headers_getElem? (lineNr off : ℕ) (ps : List SdiPacket) {i : ℕ} (hi : i < ps.length) :
    (headers lineNr off ps)[i]? = some
      (ps[i].header lineNr (line (ps.drop i)) (off + (line (ps.take i)).length)) := by
  induction ps generalizing off i with
  | nil => simp at hi
  | cons p ps ih =>
    cases i with
    | zero => rfl
    | succ i =>
      rw [headers, List.getElem?_cons_succ, ih _ (by simpa using hi), List.take_succ_cons,
        List.drop_succ_cons, line_cons, List.length_append, Nat.add_assoc]
      rfl

/-- There is one header for each packet. -/
@[simp] lemma headers_length (lineNr off : ℕ) (ps : List SdiPacket) :
    (headers lineNr off ps).length = ps.length := by
  induction ps generalizing off with
  | nil => rfl
  | cons p ps ih => simp [headers, ih]

/-- Every header of the line has a valid checksum. -/
lemma checksumValid_of_mem_headers {lineNr off : ℕ} {hdr : KlvancPacketHeader}
    (h : hdr ∈ headers lineNr off ps) : hdr.checksumValid = true := by
  induction ps generalizing off with
  | nil => simp [headers] at h
  | cons p ps ih =>
    rcases List.mem_cons.mp h with rfl | h
    · rfl
    · exact ih h

end Line

end SdiPacket

open SdiPacket

section Parse

variable {lineNr : ℕ} {ps : List SdiPacket} {run : KlvancRun}

/-- `klvanc_packet_parse` visits the packets of the line, one after the other. -/
theorem klvancPacketParse_line (hne : ps ≠ []) (hmax : (line ps).length ≤ packetMaxPayload) :
    klvancPacketParse lineNr (line ps) (line ps).length run =
      ((ps.length : ℤ), visits lineNr (line ps) (line ps).length run (starts 0 ps)) := by
  have h7 : 7 ≤ (line ps).length := by
    obtain ⟨p, ps, rfl⟩ := List.exists_cons_of_ne_nil hne
    rw [line_cons, List.length_append, words_length]
    omega
  have hadf : ∀ i, isAdf (line ps) i = true ↔ i ∈ starts 0 ps := fun i =>
    @isAdf_line_iff _ [] i (Nat.zero_le i)
  have hpositions : Scan.positions (isAdf (line ps)) 7 ((line ps).length - 7) = starts 0 ps := by
    rw [Scan.positions_eq_of_spaced (by norm_num) (starts_spaced 0 ps) fun i _ => hadf i]
    refine List.filter_eq_self.mpr fun i hi => decide_eq_true ?_
    have := start_add_lt hi
    omega
  rw [klvancPacketParse_eq h7 le_rfl hmax, hpositions, starts_length]

/-- `klvanc_packet_parse` reports the packets of the line. -/
theorem klvancPacketParse_line_allHeaders (hall : run.ctx.registered (·.all) = true) (hne : ps ≠ [])
    (hmax : (line ps).length ≤ packetMaxPayload) :
    (klvancPacketParse lineNr (line ps) (line ps).length run).2.allHeaders =
      run.allHeaders ++ headers lineNr 0 ps := by
  have hmap := map_headerAt_starts lineNr [] ps
  rw [List.nil_append, List.length_nil] at hmap
  rw [klvancPacketParse_line hne hmax, visits_allHeaders hall, hmap,
    List.filter_eq_self.mpr fun hdr h => ?_]
  rw [KlvancContext.reports, checksumValid_of_mem_headers h, Bool.true_or]

/-- `klvanc_packet_parse` reads inside the line. -/
theorem klvancPacketParse_line_lineFaults (hne : ps ≠ [])
    (hmax : (line ps).length ≤ packetMaxPayload) :
    (klvancPacketParse lineNr (line ps) (line ps).length run).2.lineFaults = run.lineFaults := by
  rw [klvancPacketParse_line hne hmax, visits_lineFaults, List.flatMap_eq_nil_iff.mpr,
    List.append_nil]
  exact fun i hi => parseHeader_starts_faults [] ps hi

/-- With no callback but `all` set, `klvanc_packet_parse` meets no fault on the line. -/
theorem klvancPacketParse_line_faults (h : run.ctx.callbacks = some { all := true }) (hne : ps ≠ [])
    (hmax : (line ps).length ≤ packetMaxPayload) :
    (klvancPacketParse lineNr (line ps) (line ps).length run).2.faults = run.faults := by
  rw [klvancPacketParse_line hne hmax, visits_faults h]

/-- `klvanc_packet_parse` processes a packet that stands alone on its line once. -/
theorem klvancPacketParse_words (p : SdiPacket) :
    klvancPacketParse lineNr p.words p.words.length run =
      (1, processPacket run (p.header lineNr p.words 0)) := by
  have hline : line [p] = p.words := List.append_nil _
  have hlen := p.words_length
  have hle := p.bytes_le
  have hparse := @klvancPacketParse_line lineNr _ run (List.cons_ne_nil p [])
    (by rw [hline, packetMaxPayload]; omega)
  have hhead := p.headerAt_start [] [] lineNr
  have hfaults := parseHeader_starts_faults [] [p] (i := 0) (by simp [starts])
  rw [List.nil_append, List.append_nil, List.length_nil] at hhead
  rw [List.nil_append, hline] at hfaults
  rw [hline] at hparse
  rw [hparse]
  have hvalid : (parseHeader p.words 0 (p.words.length - 0)).val.checksumValid = true :=
    congrArg KlvancPacketHeader.checksumValid hhead
  have hafter : afterParse p.words p.words.length run 0 = run := by
    simp only [afterParse, hfaults, hvalid, if_true, KlvancRun.addLineFaults, List.append_nil]
  have hvisit : visits lineNr p.words p.words.length run (starts 0 [p]) =
      processPacket (afterParse p.words p.words.length run 0)
        (headerAt lineNr p.words p.words.length 0) := rfl
  rw [hvisit, hafter, hhead]
  rfl

end Parse

end Libklvanc
