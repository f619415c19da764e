import Libklvanc.Core.LineRuns
import Libklvanc.Core.PixelRoundTrip
import Libklvanc.Foundation.RecordFile

/-!
# The VANC file analyzer

`tools/parse.c`: `AnalyzeVANC` reads a file of captured lines, record after record, converts each
line from v210 and hands it to `klvanc_packet_parse`; a record with a packet that passes the filter
is written to the output file. Integers stand in the file as the host has them in memory, the low
byte first. What is printed, and the single packets saved with `-x`, are left out.
-/

namespace Libklvanc

/-! ### Integers in a file -/

/-- The bytes of an `unsigned int`. -/
def uintBytes (x : BitVec 32) : List Byte :=
  (List.range 4).map fun i => BitVec.ofNat 8 (x.toNat / 2 ^ (8 * i))

/-- The number whose bytes are `bytes`, the low byte first. -/
def lowFirst : List Byte → ℕ
  | [] => 0
  | b :: bytes => b.toNat + 2 ^ 8 * lowFirst bytes

/-- `fread(&x, 1, sizeof(unsigned int), fh)`: the value and the rest of the file, unless the file
ends before. -/
def freadUint (file : List Byte) : Option (BitVec 32 × List Byte) :=
  if file.length < 4 then none else some (BitVec.ofNat 32 (lowFirst (file.take 4)), file.drop 4)

/-- The words of a buffer that is read as an array of `uint32_t`. -/
def uintWords (buf : List Byte) : List (BitVec 32) :=
  (List.range (buf.length / 4)).map fun i => BitVec.ofNat 32 (lowFirst ((buf.drop (4 * i)).take 4))

/-! ### The filter -/

/-- `g_filter_did` and `g_filter_sdid`. -/
structure PacketFilter where
  did : Word := 0
  sdid : Word := 0
  deriving DecidableEq

/-- `pkt_filtered`. -/
def pktFiltered (filter : PacketFilter) (pkt : KlvancPacketHeader) : Bool :=
  if 0 < filter.did then
    if 0 < filter.sdid then filter.did == pkt.did && filter.sdid == pkt.dbnsdid
    else filter.did == pkt.did
  else true

/-! ### Records -/

/-- `VANC_SOL_INDICATOR`. -/
def vancSolIndicator : BitVec 32 := 0xEFBEADDE

/-- `VANC_EOL_INDICATOR`. -/
def vancEolIndicator : BitVec 32 := 0xEDFEADDE

/-- `maxbuflen`. -/
def maxbuflen : ℕ := 16384

/-- The integers in front of the line of a record. -/
structure VancRecordHeader where
  sol : BitVec 32
  line : BitVec 32
  width : BitVec 32
  height : BitVec 32
  stride : BitVec 32
  deriving DecidableEq

/-- The reads of the integers in front of the line, and the rest of the file. -/
def freadHeader (file : List Byte) : Option (VancRecordHeader × List Byte) := do
  let (sol, file) ← freadUint file
  let (line, file) ← freadUint file
  let (width, file) ← freadUint file
  let (height, file) ← freadUint file
  let (stride, file) ← freadUint file
  pure ({ sol, line, width, height, stride }, file)

/-- `convert_colorspace_and_parse_vanc`: `decoded_words` has 16384 zeroed cells. -/
def convertColorspaceAndParseVanc (run : KlvancRun) (buf : List Byte) (uiWidth lineNr : BitVec 32) :
    Checked Fault KlvancRun := do
  let (ret, decodedWords) ← klvancV210LineToNv20C (uintWords buf) (List.replicate 16384 0) 32768
    (uiWidth / 6 * 6).toInt
  if ret < 0 then pure run
  else pure (klvancPacketParse lineNr.toNat decodedWords 16384 run).2

/-- The globals of the analyzer and the library context; `output` is there if the output file is
open. `filtermatchCount`, an `int`, is taken to wrap around. -/
structure VancAnalysis where
  run : KlvancRun
  frameCount : BitVec 32 := 0
  lastLine : BitVec 32 := 0
  vancEntryCount : BitVec 32 := 0
  filtermatchCount : BitVec 32 := 0
  output : Option (List Byte) := none

/-- The bytes written for a record whose line is in `buf`. -/
def recordBytes (h : VancRecordHeader) (buf : List Byte) (eol : BitVec 32) : List Byte :=
  uintBytes h.sol ++ uintBytes h.line ++ uintBytes h.width ++ uintBytes h.height ++
    uintBytes h.stride ++ buf.take h.stride.toNat ++ uintBytes eol

section Analyze

variable (filter : PacketFilter)

/-- What `AnalyzeVANC` does with a record that is not corrupt. The callbacks are made while its line
is parsed; `cb_all` sets `g_filterMatch` at a packet that passes the filter. -/
def analyzeLine (s : VancAnalysis) (h : VancRecordHeader) (buf : List Byte) (eol : BitVec 32) :
    Checked Fault VancAnalysis := do
  let parsed ← convertColorspaceAndParseVanc (.start s.run.ctx) buf h.stride h.line
  let matched := parsed.allHeaders.filter (pktFiltered filter)
  let s := { s with
    run := s.run.append parsed
    vancEntryCount := s.vancEntryCount + BitVec.ofNat 32 matched.length }
  if matched = [] then pure s
  else pure { s with
    filtermatchCount := s.filtermatchCount + 1
    output := s.output.map (· ++ recordBytes h buf eol) }

/-- The body of the loop of `AnalyzeVANC`: the rest of the file unless the loop is left, and the
state behind it. A failed assertion leaves it too. -/
def analyzeRecord (s : VancAnalysis) (file : List Byte) :
    Checked Fault (Option (List Byte) × VancAnalysis) :=
  match freadHeader file with
  | none => pure (none, s)
  | some (h, file) =>
    if maxbuflen < h.stride.toNat then pure (none, s)
    else
      let line := file.take h.stride.toNat
      let buf := line ++ List.replicate (maxbuflen - line.length) 0
      if maxbuflen ≤ h.stride.toNat then Checked.fault .assertion (none, s)
      else
        match freadUint (file.drop h.stride.toNat) with
        | none => pure (none, s)
        | some (eol, file) =>
          let s := { s with
            frameCount := if h.line ≤ s.lastLine then s.frameCount + 1 else s.frameCount
            lastLine := h.line }
          if h.sol ≠ vancSolIndicator then pure (none, s)
          else if eol ≠ vancEolIndicator then pure (none, s)
          else do
            let s ← analyzeLine filter s h buf eol
            pure (some file, s)

/-- The loop of `AnalyzeVANC`; every round takes 24 bytes or more. -/
def analyzeLoop : ℕ → VancAnalysis → List Byte → Checked Fault VancAnalysis
  | 0, s, _ => pure s
  | fuel + 1, s, file => do
    let (rest, s) ← analyzeRecord filter s file
    match rest with
    | none => pure s
    | some file => analyzeLoop fuel s file

/-- `AnalyzeVANC` on the bytes of the file. -/
def analyzeVANC (s : VancAnalysis) (file : List Byte) : Checked Fault VancAnalysis :=
  analyzeLoop filter (file.length + 1) s file

end Analyze

/-! ### The file format -/

section Integers

variable {file l : List Byte} {x : BitVec 32}

@[simp] lemma uintBytes_length (x : BitVec 32) : (uintBytes x).length = 4 := rfl

/-- The value of the bytes of an integer. -/
lemma lowFirst_uintBytes (x : BitVec 32) : BitVec.ofNat 32 (lowFirst (uintBytes x)) = x := by
  have hx := x.isLt
  apply BitVec.eq_of_toNat_eq
  simp only [uintBytes, List.range_succ, List.range_zero, List.nil_append, List.cons_append,
    List.map_cons, List.map_nil, lowFirst, BitVec.toNat_ofNat]
  omega

/-- The bytes of a value that four bytes have. -/
lemma uintBytes_lowFirst (h : l.length = 4) : uintBytes (BitVec.ofNat 32 (lowFirst l)) = l := by
  obtain ⟨a, b, c, d, rfl⟩ := List.length_eq_four.mp h
  have ha := a.isLt
  have hb := b.isLt
  have hc := c.isLt
  have hd := d.isLt
  have hbyte : ∀ {n : ℕ} {y : Byte}, n % 256 = y.toNat → BitVec.ofNat 8 n = y := by
    intro n y h
    apply BitVec.eq_of_toNat_eq
    rw [BitVec.toNat_ofNat]
    exact h
  simp only [uintBytes, List.range_succ, List.range_zero, List.nil_append, List.cons_append,
    List.map_cons, List.map_nil, lowFirst, BitVec.toNat_ofNat, List.cons.injEq, and_true]
  exact ⟨hbyte (by omega), hbyte (by omega), hbyte (by omega), hbyte (by omega)⟩

/-- An integer is read exactly where its bytes stand. -/
lemma freadUint_eq_some_iff : freadUint file = some (x, l) ↔ file = uintBytes x ++ l := by
  unfold freadUint
  constructor
  · intro h
    split_ifs at h with hlen
    obtain ⟨hx, hl⟩ := Prod.mk.inj (Option.some.inj h)
    rw [← hx, ← hl, uintBytes_lowFirst (by rw [List.length_take]; omega), List.take_append_drop]
  · rintro rfl
    rw [if_neg (by simp), List.take_left' (uintBytes_length x),
      List.drop_left' (uintBytes_length x), lowFirst_uintBytes]

end Integers

/-- The bytes of the integers in front of the line of a record. -/
def VancRecordHeader.bytes (h : VancRecordHeader) : List Byte :=
  uintBytes h.sol ++ (uintBytes h.line ++ (uintBytes h.width ++ (uintBytes h.height ++
    uintBytes h.stride)))

/-- The integers of a record are read exactly where their bytes stand. -/
lemma freadHeader_eq_some_iff {file l : List Byte} {h : VancRecordHeader} :
    freadHeader file = some (h, l) ↔ file = h.bytes ++ l := by
  unfold freadHeader VancRecordHeader.bytes
  constructor
  · intro hread
    simp only [Option.bind_eq_bind, Option.bind_eq_some_iff, freadUint_eq_some_iff, Prod.exists,
      Option.pure_def, Option.some.injEq, Prod.mk.injEq] at hread
    obtain ⟨sol, _, rfl, line, _, rfl, width, _, rfl, height, _, rfl, stride, _, rfl, rfl, rfl⟩ :=
      hread
    simp only [List.append_assoc]
  · rintro rfl
    simp only [List.append_assoc, Option.bind_eq_bind, Option.bind_eq_some_iff,
      freadUint_eq_some_iff, Prod.exists, Option.pure_def, Option.some.injEq, Prod.mk.injEq]
    exact ⟨_, _, rfl, _, _, rfl, _, _, rfl, _, _, rfl, _, _, rfl, rfl, rfl⟩

/-- A record of a captured line, as it stands in a file. -/
structure VancRecord where
  line : BitVec 32
  width : BitVec 32
  height : BitVec 32
  data : List Byte
  /-- The line is shorter than the buffer it is read into. -/
  data_lt : data.length < maxbuflen

namespace VancRecord

/-- The integers in front of the line. -/
def header (r : VancRecord) : VancRecordHeader where
  sol := vancSolIndicator
  line := r.line
  width := r.width
  height := r.height
  stride := BitVec.ofNat 32 r.data.length

/-- The bytes of the record. -/
def bytes (r : VancRecord) : List Byte := r.header.bytes ++ (r.data ++ uintBytes vancEolIndicator)

/-- The stride is the number of bytes of the line. -/
lemma stride_toNat (r : VancRecord) : r.header.stride.toNat = r.data.length := by
  have h := r.data_lt
  have hmax : maxbuflen = 16384 := rfl
  rw [header, BitVec.toNat_ofNat, Nat.mod_eq_of_lt (by omega)]

/-- What begins with the bytes of a record does so for one record only. -/
lemma prefixCode : RecordFile.PrefixCode bytes where
  ne_nil r := by
    intro h
    have hlen := congrArg List.length h
    simp [bytes, VancRecordHeader.bytes] at hlen
  inj r r' l l' h := by
    have hread : freadHeader (r.bytes ++ l) =
        some (r.header, r.data ++ uintBytes vancEolIndicator ++ l) :=
      freadHeader_eq_some_iff.mpr (by rw [bytes, List.append_assoc])
    have hread' : freadHeader (r'.bytes ++ l') =
        some (r'.header, r'.data ++ uintBytes vancEolIndicator ++ l') :=
      freadHeader_eq_some_iff.mpr (by rw [bytes, List.append_assoc])
    rw [h, hread'] at hread
    obtain ⟨hheader, hrest⟩ := Prod.mk.inj (Option.some.inj hread)
    have hlen : r'.data.length = r.data.length := by
      rw [← r.stride_toNat, ← r'.stride_toNat, hheader]
    rw [List.append_assoc, List.append_assoc] at hrest
    obtain ⟨hdata, htail⟩ := List.append_inj hrest hlen
    refine ⟨?_, (List.append_cancel_left htail).symm⟩
    simp only [header, VancRecordHeader.mk.injEq] at hheader
    obtain ⟨-, hline, hwidth, hheight, -⟩ := hheader
    cases r
    cases r'
    simp_all

/-! ### The line of a record -/

section Line

variable (r : VancRecord)

/-- The buffer that the line has been read into. -/
def buffer : List Byte := r.data ++ List.replicate (maxbuflen - r.data.length) 0

/-- The number of samples of one kind that are converted: a sixth of the bytes at a time. -/
def samples : ℕ := r.data.length / 6 * 6

/-- The line that is handed to `klvanc_packet_parse`: the samples of the one kind, then those of the
other one, then zeros. A line that is too short or too long to be converted is not handed over. -/
def vancLine : VancLine where
  lineNr := r.line.toNat
  words :=
    if 0 < r.samples ∧ r.samples * 6 ≤ 32768 then
      overlay (List.replicate 16384 0)
        (nv20Cells (v210Component (uintWords r.buffer)) r.samples (2 * r.samples))
    else []

/-- The width handed to the conversion. -/
lemma stride_width : (r.header.stride / 6 * 6).toInt = (r.samples : ℤ) := by
  have hlt := r.data_lt
  have hmax : maxbuflen = 16384 := rfl
  have hnat : (r.header.stride / 6 * 6).toNat = r.samples := by
    have hsix : (6 : BitVec 32).toNat = 6 := rfl
    rw [BitVec.toNat_mul, BitVec.toNat_udiv, r.stride_toNat, hsix, samples]
    omega
  rw [BitVec.toInt_eq_toNat_of_lt, hnat]
  rw [hnat, samples]
  omega

/-- The line is empty or has 16384 words. -/
lemma vancLine_length : r.vancLine.words.length = 0 ∨ r.vancLine.words.length = 16384 := by
  unfold vancLine
  split_ifs
  · exact Or.inr (by rw [overlay_length, List.length_replicate])
  · exact Or.inl rfl

lemma vancLine_parsable : r.vancLine.Parsable := by
  rcases r.vancLine_length with h | h
  · exact Or.inl h
  · exact Or.inr (by omega)

/-- The conversion meets no fault, and `klvanc_packet_parse` gets the line of the record. -/
lemma convertColorspaceAndParseVanc_eq (run : KlvancRun) :
    convertColorspaceAndParseVanc run r.buffer r.header.stride r.line =
      pure (klvancPacketParse r.vancLine.lineNr r.vancLine.words
        r.vancLine.words.length run).2 := by
  have hlt := r.data_lt
  have hmax : maxbuflen = 16384 := rfl
  have hwords : (uintWords r.buffer).length = 4096 := by
    simp only [uintWords, buffer, List.length_map, List.length_range, List.length_append,
      List.length_replicate]
    omega
  unfold convertColorspaceAndParseVanc
  rw [r.stride_width]
  by_cases hconv : 0 < r.samples ∧ r.samples * 6 ≤ 32768
  · have heven : r.samples % 2 = 0 := by
      rw [samples]
      omega
    have hnv20 := @klvancV210LineToNv20C_eq (uintWords r.buffer) (List.replicate 16384 0) r.samples
      hconv.1 heven 32768 (by omega) (by rw [List.length_replicate]; omega) (by omega)
    have hline : r.vancLine.words = overlay (List.replicate 16384 0)
        (nv20Cells (v210Component (uintWords r.buffer)) r.samples (2 * r.samples)) := if_pos hconv
    rw [hnv20, pure_bind, hline, overlay_length, List.length_replicate]
    rfl
  · have hline : r.vancLine.words = [] := if_neg hconv
    have hrefused : klvancV210LineToNv20C (uintWords r.buffer) (List.replicate 16384 0) 32768
        (r.samples : ℤ) = pure (-1, List.replicate 16384 0) := by
      unfold klvancV210LineToNv20C
      split_ifs with h₁ h₂
      · rfl
      · rfl
      · exact absurd ⟨by omega, by omega⟩ hconv
    rw [hrefused, pure_bind, hline]
    rfl

/-- Behind both kinds of samples the line is zero. -/
lemma vancLine_tail {i : ℕ} (hi : 2 * r.samples ≤ i) : r.vancLine.words.getD i 0 = 0 := by
  have hnone : nv20Cells (v210Component (uintWords r.buffer)) r.samples (2 * r.samples) i =
      none := by
    rw [nv20Cells, if_neg (by omega), if_neg (by omega)]
  unfold vancLine
  dsimp only
  split_ifs
  · rw [List.getD_eq_getElem?_getD, overlay_getElem?, hnone]
    rw [List.getElem?_replicate]
    split_ifs
    · rfl
    · rfl
  · rfl

/-- A line of samples followed by zeros is parsed without reading outside it. -/
lemma vancLine_lineFaults (run : KlvancRun) :
    (klvancPacketParse r.vancLine.lineNr r.vancLine.words
        r.vancLine.words.length run).2.lineFaults =
      run.lineFaults := by
  have hlt := r.data_lt
  have hmax : maxbuflen = 16384 := rfl
  rcases r.vancLine_length with hlen | hlen
  · unfold klvancPacketParse
    rw [if_pos hlen]
  · have hsamples : 2 * r.samples ≤ 10922 := by
      by_contra hlong
      have hwords : r.vancLine.words = [] := if_neg (by omega)
      rw [hwords] at hlen
      exact absurd hlen (by norm_num)
    rw [klvancPacketParse_eq (by omega) le_rfl (by rw [hlen, packetMaxPayload]), visits_lineFaults,
      List.flatMap_eq_nil_iff.mpr, List.append_nil]
    intro i hi
    obtain ⟨hbound, hcounted⟩ := (Scan.mem_positions (by norm_num)).mp hi
    have hhit := hcounted.isHit
    -- the third word of a flag is not zero, and so stands among the samples
    have hinside : i + 2 < 2 * r.samples := by
      by_contra hbehind
      rw [isAdf, r.vancLine_tail (not_lt.mp hbehind), Bool.and_eq_true] at hhit
      exact absurd hhit.2 (by decide)
    have hcount : dataCount r.vancLine.words i ≤ 255 := Nat.le_of_lt_succ (BitVec.isLt _)
    exact (safe_parseHeader (by omega) le_rfl).mpr (by omega)

end Line

end VancRecord

/-! ### Analyzing a file -/

section Analysis

variable (filter : PacketFilter) (ctx : KlvancContext)

/-- The packets of the record that are reported and pass the filter. -/
def VancRecord.found (r : VancRecord) : List KlvancPacketHeader :=
  (r.vancLine.headers.filter ctx.reports).filter (pktFiltered filter)

/-- The record has a packet that passes the filter. -/
def VancRecord.passes (r : VancRecord) : Bool := !(r.found filter ctx).isEmpty

/-- The state behind a record. -/
def VancAnalysis.after (s : VancAnalysis) (r : VancRecord) : VancAnalysis where
  run := parseLines s.run [r.vancLine]
  frameCount := if r.line ≤ s.lastLine then s.frameCount + 1 else s.frameCount
  lastLine := r.line
  vancEntryCount := s.vancEntryCount + BitVec.ofNat 32 (r.found filter s.run.ctx).length
  filtermatchCount :=
    if r.passes filter s.run.ctx then s.filtermatchCount + 1 else s.filtermatchCount
  output := s.output.map (· ++ if r.passes filter s.run.ctx then r.bytes else [])

variable {filter} {ctx} {s : VancAnalysis}

/-- The bytes written for a record are its bytes. -/
lemma recordBytes_eq (r : VancRecord) :
    recordBytes r.header r.buffer vancEolIndicator = r.bytes := by
  rw [recordBytes, r.stride_toNat, VancRecord.buffer, List.take_left' rfl, VancRecord.bytes,
    VancRecordHeader.bytes]
  simp only [List.append_assoc]

/-- A record that is not corrupt is analyzed without a fault. -/
lemma analyzeLine_eq (hall : s.run.ctx.registered (·.all) = true) (r : VancRecord) :
    analyzeLine filter { s with
      frameCount := if r.header.line ≤ s.lastLine then s.frameCount + 1 else s.frameCount
      lastLine := r.header.line } r.header r.buffer vancEolIndicator = pure (s.after filter r) := by
  have hparsable : ∀ l ∈ [r.vancLine], l.Parsable :=
    List.forall_mem_singleton.mpr r.vancLine_parsable
  have hparsed : (klvancPacketParse r.vancLine.lineNr r.vancLine.words r.vancLine.words.length
      (.start s.run.ctx)).2 = parseLines (.start s.run.ctx) [r.vancLine] := rfl
  have hfound :
      (parseLines (.start s.run.ctx) [r.vancLine]).allHeaders.filter (pktFiltered filter) =
      r.found filter s.run.ctx := by
    rw [parseLines_allHeaders hparsable, hall, if_pos rfl, reportedOn, List.flatMap_singleton,
      VancRecord.found]
  unfold analyzeLine VancAnalysis.after
  dsimp only
  have hline : r.header.line = r.line := rfl
  rw [hline, r.convertColorspaceAndParseVanc_eq, pure_bind, hparsed, hfound, recordBytes_eq,
    parseLines_append hparsable s.run]
  by_cases hnone : r.found filter s.run.ctx = []
  · rw [if_pos hnone, VancRecord.passes, hnone]
    cases s.output <;> simp
  · have hpasses : r.passes filter s.run.ctx = true := by
      rw [VancRecord.passes]
      simpa using hnone
    rw [if_neg hnone, hpasses]
    rfl

/-- A record at the beginning of a file is analyzed, and the analysis goes on behind it. -/
lemma analyzeRecord_record (hall : s.run.ctx.registered (·.all) = true) (r : VancRecord)
    (l : List Byte) :
    analyzeRecord filter s (r.bytes ++ l) = pure (some l, s.after filter r) := by
  have hread : freadHeader (r.bytes ++ l) =
      some (r.header, r.data ++ (uintBytes vancEolIndicator ++ l)) :=
    freadHeader_eq_some_iff.mpr (by rw [VancRecord.bytes, List.append_assoc, List.append_assoc])
  have heol : freadUint (uintBytes vancEolIndicator ++ l) = some (vancEolIndicator, l) :=
    freadUint_eq_some_iff.mpr rfl
  have hlt := r.data_lt
  unfold analyzeRecord
  rw [hread]
  dsimp only
  rw [r.stride_toNat, if_neg (by omega), if_neg (by omega), List.take_left' rfl,
    List.drop_left' rfl, heol]
  dsimp only
  have hsol : r.header.sol = vancSolIndicator := rfl
  rw [if_neg (not_not.mpr hsol), if_neg (not_not.mpr rfl)]
  have hline := @analyzeLine_eq filter s hall r
  rw [VancRecord.buffer] at hline
  rw [hline, pure_bind]

/-- The states agree on everything but the lines and frames counted. -/
structure VancAnalysis.SameRecords (s s' : VancAnalysis) : Prop where
  run : s'.run = s.run
  vancEntryCount : s'.vancEntryCount = s.vancEntryCount
  filtermatchCount : s'.filtermatchCount = s.filtermatchCount
  output : s'.output = s.output

/-- The assertion on the stride fails at the beginning of the file. -/
def AssertionFails (file : List Byte) : Prop :=
  ∃ h l, freadHeader file = some (h, l) ∧ h.stride.toNat = maxbuflen

/-- At a file that begins with no record the loop is left, without a fault unless the assertion
fails. -/
lemma analyzeRecord_rest {file : List Byte} (hrest : RecordFile.IsRest VancRecord.bytes file) :
    (analyzeRecord filter s file).val.1 = none ∧
      s.SameRecords (analyzeRecord filter s file).val.2 ∧
      ((analyzeRecord filter s file).Safe ↔ ¬AssertionFails file) := by
  have hsame : s.SameRecords s := ⟨rfl, rfl, rfl, rfl⟩
  unfold analyzeRecord
  cases hread : freadHeader file with
  | none =>
    refine ⟨rfl, hsame, iff_of_true (Checked.safe_pure _) ?_⟩
    rintro ⟨h, l, hsome, -⟩
    rw [hread] at hsome
    exact absurd hsome (by simp)
  | some hl =>
    obtain ⟨h, l⟩ := hl
    have hfails : AssertionFails file ↔ h.stride.toNat = maxbuflen := by
      constructor
      · rintro ⟨h', l', hsome, hstride⟩
        rw [hread, Option.some.injEq, Prod.mk.injEq] at hsome
        rw [hsome.1]
        exact hstride
      · exact fun hstride => ⟨h, l, hread, hstride⟩
    rw [hfails]
    dsimp only
    by_cases hlong : maxbuflen < h.stride.toNat
    · rw [if_pos hlong]
      exact ⟨rfl, hsame, iff_of_true (Checked.safe_pure _) (by omega)⟩
    rw [if_neg hlong]
    by_cases hmax : maxbuflen ≤ h.stride.toNat
    · rw [if_pos hmax]
      refine ⟨rfl, hsame, iff_of_false ?_ (not_not.mpr (by omega))⟩
      simp [Checked.fault, Checked.Safe]
    · rw [if_neg hmax]
      cases heol : freadUint (l.drop h.stride.toNat) with
      | none => exact ⟨rfl, hsame, iff_of_true (Checked.safe_pure _) (by omega)⟩
      | some el =>
        obtain ⟨eol, l'⟩ := el
        dsimp only
        by_cases hsol : h.sol ≠ vancSolIndicator
        · rw [if_pos hsol]
          exact ⟨rfl, ⟨rfl, rfl, rfl, rfl⟩, iff_of_true (Checked.safe_pure _) (by omega)⟩
        rw [if_neg hsol]
        by_cases heol' : eol ≠ vancEolIndicator
        · rw [if_pos heol']
          exact ⟨rfl, ⟨rfl, rfl, rfl, rfl⟩, iff_of_true (Checked.safe_pure _) (by omega)⟩
        · -- otherwise the file begins with a record
          exfalso
          rw [freadHeader_eq_some_iff] at hread
          rw [freadUint_eq_some_iff] at heol
          rw [not_not] at hsol heol'
          have hlen : h.stride.toNat ≤ l.length := by
            have := congrArg List.length heol
            rw [List.length_drop, List.length_append, uintBytes_length] at this
            omega
          have htake : (l.take h.stride.toNat).length = h.stride.toNat :=
            List.length_take_of_le hlen
          refine hrest ⟨h.line, h.width, h.height, l.take h.stride.toNat, by omega⟩ l' ?_
          have hheader : VancRecord.header ⟨h.line, h.width, h.height, l.take h.stride.toNat,
              by omega⟩ = h := by
            rw [VancRecord.header]
            dsimp only
            rw [htake, BitVec.ofNat_toNat, BitVec.setWidth_eq, ← hsol]
          rw [VancRecord.bytes, hheader, List.append_assoc, List.append_assoc, ← heol', ← heol,
            List.take_append_drop]
          exact hread

/-- The loop goes through the records of the file and is left behind them. -/
lemma analyzeLoop_records {rs : List VancRecord} {rest : List Byte}
    (hrest : RecordFile.IsRest VancRecord.bytes rest) {fuel : ℕ} (hfuel : rs.length < fuel)
    (hall : s.run.ctx.registered (·.all) = true) :
    (rs.foldl (VancAnalysis.after filter) s).SameRecords
        (analyzeLoop filter fuel s (rs.flatMap VancRecord.bytes ++ rest)).val ∧
      ((analyzeLoop filter fuel s (rs.flatMap VancRecord.bytes ++ rest)).Safe ↔
        ¬AssertionFails rest) := by
  obtain ⟨fuel, rfl⟩ : ∃ n, fuel = n + 1 := ⟨fuel - 1, by omega⟩
  induction rs generalizing s fuel with
  | nil =>
    obtain ⟨hleft, hsame, hsafe⟩ := @analyzeRecord_rest filter s rest hrest
    rcases hval : (analyzeRecord filter s rest).val with ⟨o, s'⟩
    rw [hval] at hleft hsame
    obtain rfl : o = none := hleft
    rw [List.flatMap_nil, List.nil_append, analyzeLoop, Checked.bind_val, Checked.safe_bind, hval]
    exact ⟨hsame, (and_iff_left (Checked.safe_pure _)).trans hsafe⟩
  | cons r rs ih =>
    rw [List.length_cons] at hfuel
    obtain ⟨fuel, rfl⟩ : ∃ n, fuel = n + 1 := ⟨fuel - 1, by omega⟩
    have hset : (s.after filter r).run.ctx.settings = s.run.ctx.settings :=
      parseLines_settings (List.forall_mem_singleton.mpr r.vancLine_parsable) _
    rw [List.flatMap_cons, List.append_assoc, analyzeLoop, analyzeRecord_record hall, pure_bind]
    exact ih (by rwa [registered_congr hset]) fuel (by omega)

/-- What the records leave in the state. -/
lemma foldl_after (rs : List VancRecord) :
    (rs.foldl (VancAnalysis.after filter) s).run = parseLines s.run (rs.map VancRecord.vancLine) ∧
      (rs.foldl (VancAnalysis.after filter) s).vancEntryCount = s.vancEntryCount +
        BitVec.ofNat 32 (rs.flatMap (VancRecord.found filter s.run.ctx)).length ∧
      (rs.foldl (VancAnalysis.after filter) s).filtermatchCount =
        s.filtermatchCount +
          BitVec.ofNat 32 (rs.filter (VancRecord.passes filter s.run.ctx)).length ∧
      (rs.foldl (VancAnalysis.after filter) s).output = s.output.map
        (· ++ (rs.filter (VancRecord.passes filter s.run.ctx)).flatMap VancRecord.bytes) := by
  induction rs generalizing s with
  | nil => simp [parseLines]
  | cons r rs ih =>
    have hset : (s.after filter r).run.ctx.settings = s.run.ctx.settings :=
      parseLines_settings (List.forall_mem_singleton.mpr r.vancLine_parsable) _
    have hfound : VancRecord.found filter (s.after filter r).run.ctx =
        VancRecord.found filter s.run.ctx := by
      funext r
      rw [VancRecord.found, VancRecord.found, reports_congr hset]
    have hpasses : VancRecord.passes filter (s.after filter r).run.ctx =
        VancRecord.passes filter s.run.ctx := by
      funext r
      rw [VancRecord.passes, VancRecord.passes, hfound]
    obtain ⟨hrun, hentries, hcount, houtput⟩ := @ih (s.after filter r)
    rw [hfound] at hentries
    rw [hpasses] at hcount houtput
    rw [List.foldl_cons, hrun, hentries, hcount, houtput, List.filter_cons]
    refine ⟨rfl, ?_, ?_, ?_⟩
    · rw [List.flatMap_cons, List.length_append, BitVec.ofNat_add, ← BitVec.add_assoc]
      rfl
    · have hstep : (s.after filter r).filtermatchCount =
          if r.passes filter s.run.ctx then s.filtermatchCount + 1 else s.filtermatchCount := rfl
      rw [hstep]
      split_ifs
      · rw [List.length_cons, Nat.add_comm, BitVec.ofNat_add, ← BitVec.add_assoc]
        rfl
      · rfl
    · have hstep : (s.after filter r).output =
          s.output.map (· ++ if r.passes filter s.run.ctx then r.bytes else []) := rfl
      rw [hstep, Option.map_map]
      refine congrArg (Option.map · s.output) ?_
      funext out
      split_ifs <;> simp

/-- The lines of records are parsed without reading outside them. -/
lemma parseLines_vancLines_lineFaults (rs : List VancRecord) (run : KlvancRun) :
    (parseLines run (rs.map VancRecord.vancLine)).lineFaults = run.lineFaults := by
  induction rs generalizing run with
  | nil => rfl
  | cons r rs ih => exact (ih _).trans (r.vancLine_lineFaults run)

/-- The records of a file and what the analysis of it leaves behind. -/
lemma analyzeVANC_spec (hall : s.run.ctx.registered (·.all) = true) (file : List Byte) :
    ∃ (rs : List VancRecord) (rest : List Byte), file = rs.flatMap VancRecord.bytes ++ rest ∧
      RecordFile.IsRest VancRecord.bytes rest ∧
      (rs.foldl (VancAnalysis.after filter) s).SameRecords (analyzeVANC filter s file).val ∧
      ((analyzeVANC filter s file).Safe ↔ ¬AssertionFails rest) := by
  obtain ⟨rs, rest, hfile, hrest⟩ := RecordFile.exists_records VancRecord.prefixCode file
  have hlen := RecordFile.length_le_length_flatMap VancRecord.prefixCode rs
  have hfuel : rs.length < file.length + 1 := by
    rw [hfile, List.length_append]
    omega
  obtain ⟨hsame, hsafe⟩ := @analyzeLoop_records filter s rs rest hrest _ hfuel hall
  rw [← hfile] at hsame hsafe
  exact ⟨rs, rest, hfile, hrest, hsame, hsafe⟩

/-- A file of nothing but records is analyzed to its end, without a fault. -/
lemma analyzeVANC_flatMap (hall : s.run.ctx.registered (·.all) = true) (rs : List VancRecord) :
    (rs.foldl (VancAnalysis.after filter) s).SameRecords
        (analyzeVANC filter s (rs.flatMap VancRecord.bytes)).val ∧
      (analyzeVANC filter s (rs.flatMap VancRecord.bytes)).Safe := by
  obtain ⟨rs', rest, hfile, hrest, hsame, hsafe⟩ :=
    @analyzeVANC_spec filter s hall (rs.flatMap VancRecord.bytes)
  obtain rfl : rs' = rs := RecordFile.records_unique VancRecord.prefixCode ⟨rest, hfile, hrest⟩
    (RecordFile.hasRecords_flatMap VancRecord.prefixCode _)
  have hnil : rest = [] := List.append_right_eq_self.mp hfile.symm
  refine ⟨hsame, hsafe.mpr ?_⟩
  rw [hnil]
  rintro ⟨h, l, hread, -⟩
  exact absurd hread (by simp [freadHeader, freadUint])

/-- A newly started analyzer with its output file open. -/
def VancAnalysis.start (ctx : KlvancContext) : VancAnalysis where
  run := .start ctx
  output := some []

/-- The output file that the analyzer writes. -/
def filteredFile (filter : PacketFilter) (ctx : KlvancContext) (file : List Byte) : List Byte :=
  (analyzeVANC filter (.start ctx) file).val.output.getD []

/-- The output file has the records of the file that pass the filter. -/
lemma filteredFile_filtered (hall : ctx.registered (·.all) = true) (file : List Byte) :
    RecordFile.Filtered VancRecord.bytes (VancRecord.passes filter ctx) file
      (filteredFile filter ctx file) := by
  obtain ⟨rs, rest, hfile, hrest, hsame, -⟩ := @analyzeVANC_spec filter (.start ctx) hall file
  obtain ⟨-, -, -, houtput⟩ := @foldl_after filter (.start ctx) rs
  refine ⟨rs, ⟨rest, hfile, hrest⟩, ?_⟩
  rw [filteredFile, hsame.output, houtput]
  rfl

variable (filter ctx) in
/-- Filtering a captured file keeps whole records of it, in order. Filtering it again with the same
filter changes nothing; with two filters it does not matter which one comes first, and what is left
has passed both; and an output file is always analyzed without a fault. -/
theorem filteredFile_laws (hall : ctx.registered (·.all) = true) (filter' : PacketFilter)
    (file : List Byte) :
    (filteredFile filter ctx file).Sublist file ∧
      filteredFile filter ctx (filteredFile filter ctx file) = filteredFile filter ctx file ∧
      filteredFile filter' ctx (filteredFile filter ctx file) =
        filteredFile filter ctx (filteredFile filter' ctx file) ∧
      RecordFile.Filtered VancRecord.bytes
        (fun r => r.passes filter ctx && r.passes filter' ctx) file
        (filteredFile filter' ctx (filteredFile filter ctx file)) ∧
      (analyzeVANC filter' (.start ctx) (filteredFile filter ctx file)).Safe := by
  have hfiltered := fun filter file => @filteredFile_filtered filter ctx hall file
  have htwice : ∀ filter filter', RecordFile.Filtered VancRecord.bytes
      (fun r => r.passes filter ctx && r.passes filter' ctx) file
      (filteredFile filter' ctx (filteredFile filter ctx file)) := fun filter filter' =>
    (hfiltered filter file).trans VancRecord.prefixCode (hfiltered filter' _)
  refine ⟨?_, ?_, ?_, htwice filter filter', ?_⟩
  · obtain ⟨rs, ⟨rest, hfile, -⟩, hout⟩ := hfiltered filter file
    rw [hout]
    conv_rhs => rw [hfile]
    exact (List.filter_sublist.flatMap _).trans (List.sublist_append_left _ _)
  · have h := htwice filter filter
    simp only [Bool.and_self] at h
    exact h.unique VancRecord.prefixCode (hfiltered filter file)
  · have hcomm : (fun r : VancRecord => r.passes filter' ctx && r.passes filter ctx) =
        fun r => r.passes filter ctx && r.passes filter' ctx :=
      funext fun r => Bool.and_comm _ _
    have h := htwice filter' filter
    rw [hcomm] at h
    exact (htwice filter filter').unique VancRecord.prefixCode h
  · obtain ⟨rs, -, hout⟩ := hfiltered filter file
    rw [hout]
    exact (@analyzeVANC_flatMap filter' (.start ctx) hall _).2

end Analysis

end Libklvanc
