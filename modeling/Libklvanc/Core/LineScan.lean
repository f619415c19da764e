import Libklvanc.Core.PacketParse
import Libklvanc.Foundation.Scan

/-!
# What a scan of a line finds

On a line of 7 words or more `klvanc_packet_parse` is a left-to-right scan: it visits the positions
of `Scan.positions (isAdf arr) 7 (len - 7)` in order and returns their number
(`klvancPacketParse_eq`). What one visit does to a run is said once (`visit_lineFaults`,
`visit_allHeaders`, `visit_settings`), and what the whole scan does follows by induction over the
positions.

A shorter line makes the bound `len - 7` wrap, and the scan runs past its end
(`klvancPacketParse_short`).
-/

namespace Libklvanc

/-! ### Ancillary data flags -/

/-- An ancillary data flag stands at position `i` of the line. -/
def isAdf (arr : List Word) (i : ℕ) : Bool :=
  decide ((arr.getD i 0).toNat < 3) && (arr.getD (i + 1) 0 &&& 0x3fc == 0x3fc) &&
    (arr.getD (i + 2) 0 &&& 0x3fc == 0x3fc)

/-- The words of a flag lie on the line. -/
lemma isAdf_lt {arr : List Word} {i : ℕ} (h : isAdf arr i = true) : i + 2 < arr.length := by
  by_contra hc
  have hz : arr.getD (i + 2) 0 = 0 := by
    rw [List.getD_eq_getElem?_getD, List.getElem?_eq_none (not_lt.mp hc)]
    rfl
  rw [isAdf, hz, Bool.and_eq_true] at h
  exact absurd h.2 (by decide)

/-- The data count of the packet at position `i` of the line. -/
def dataCount (arr : List Word) (i : ℕ) : ℕ := (lowByte (arr.getD (i + 5) 0)).toNat

/-- The comparisons find the flags. -/
lemma compareAdf_val (arr : List Word) (off : ℕ) : (compareAdf arr off).val = isAdf arr off := by
  unfold compareAdf isAdf
  rw [Checked.bind_val, Checked.read_val]
  split_ifs with h₀
  · rw [Checked.bind_val, Checked.read_val]
    split_ifs with h₁
    · rw [decide_eq_true h₀, beq_iff_eq.mpr h₁, Checked.bind_val, Checked.read_val]
      rfl
    · rw [beq_eq_false_iff_ne.mpr h₁, Bool.and_false]
      rfl
  · rw [decide_eq_false h₀]
    rfl

/-- The comparisons read three words. -/
lemma compareAdf_faults {arr : List Word} {off : ℕ} (h : off + 2 < arr.length) :
    (compareAdf arr off).faults = [] := by
  suffices (compareAdf arr off).Safe from this
  unfold compareAdf
  rw [Checked.safe_bind, Checked.safe_read]
  refine ⟨by omega, ?_⟩
  split_ifs
  · rw [Checked.safe_bind, Checked.safe_read]
    refine ⟨by omega, ?_⟩
    split_ifs
    · rw [Checked.safe_bind, Checked.safe_read]
      exact ⟨h, Checked.safe_pure _⟩
    · exact Checked.safe_pure _
  · exact Checked.safe_pure _

/-- The header check finds the flags, except among the last words of the line. -/
lemma isValidHeader_val (arr : List Word) (off len : ℕ) (ctx : KlvancContext) :
    (isValidHeader arr off len ctx).val = (decide (7 < len) && isAdf arr off) := by
  unfold isValidHeader
  by_cases h : 7 < len <;> split_ifs <;> simp [h, compareAdf_val]

/-- The header check reads three words. -/
lemma isValidHeader_faults {arr : List Word} {off : ℕ} (len : ℕ) (ctx : KlvancContext)
    (h : off + 2 < arr.length) : (isValidHeader arr off len ctx).faults = [] := by
  have hcopy : (copyWords arr off 3).faults = [] :=
    (Checked.safe_readRange ..).mpr (Or.inr (by omega))
  unfold isValidHeader
  by_cases h7 : 7 < len <;> split_ifs <;> simp [compareAdf_faults h, hcopy]

/-- The header check of a short rest reads nothing. -/
lemma isValidHeader_of_le {arr : List Word} {off len : ℕ} {ctx : KlvancContext} (h : len ≤ 7)
    (hv : ctx.verbose = 0) : isValidHeader arr off len ctx = pure false := by
  simp [isValidHeader, not_lt.mpr h, hv]

/-- The header check of a long rest reads its first word. -/
lemma mem_isValidHeader_faults {arr : List Word} {off len : ℕ} {ctx : KlvancContext}
    (h : 7 < len) (hoff : arr.length ≤ off) : off ∈ (isValidHeader arr off len ctx).faults := by
  have hmem : off ∈ (compareAdf arr off).faults :=
    List.mem_append_left _ ((Checked.mem_read_faults ..).mpr ⟨hoff, rfl⟩)
  unfold isValidHeader
  rw [if_pos h]
  exact List.mem_append_left _ hmem

/-! ### The packet at a position -/

/-- Taking a packet apart reads it up to its checksum word, and copies the rest of the line. -/
lemma safe_parseHeader {arr : List Word} {i len : ℕ} (hi : i + 7 < len) (hlen : len ≤ arr.length) :
    (parseHeader arr i (len - i)).Safe ↔ i + 7 + dataCount arr i ≤ arr.length := by
  have hdc : (sanitizeWord (arr.getD (i + 5) 0)).toNat = dataCount arr i := sanitizeWord_toNat _
  simp only [parseHeader, Checked.safe_bind, Checked.safe_readRange, Checked.safe_read,
    Checked.safe_pure, Checked.read_val, hdc, and_true]
  omega

/-- What taking a packet apart yields, for a packet inside the line. -/
lemma parseHeader_val {arr : List Word} {i n : ℕ} (hn : i + n ≤ arr.length)
    (h : i + 7 + dataCount arr i ≤ arr.length) :
    (parseHeader arr i n).val =
      { type := lookupTypeByDID (sanitizeWord (arr.getD (i + 3) 0))
          (sanitizeWord (arr.getD (i + 4) 0))
        adf := (arr.getD i 0, arr.getD (i + 1) 0, arr.getD (i + 2) 0)
        did := sanitizeWord (arr.getD (i + 3) 0)
        dbnsdid := sanitizeWord (arr.getD (i + 4) 0)
        checksum := arr.getD (i + 6 + dataCount arr i) 0
        payload := (arr.drop (i + 6)).take (dataCount arr i)
        checksumValid :=
          klvancChecksumIsValid ((arr.drop (i + 3)).take (dataCount arr i + 4))
        lineNr := 0
        raw := (arr.drop i).take n
        rawLengthWords := n
        horizontalOffset := 0 } := by
  have hdc : (sanitizeWord (arr.getD (i + 5) 0)).toNat = dataCount arr i := sanitizeWord_toNat _
  simp only [parseHeader, Checked.bind_val, Checked.pure_val, Checked.read_val, hdc]
  rw [Checked.readRange_val_of_le _ _ _ hn, Checked.readRange_val_of_le _ _ _ (by omega),
    Checked.readRange_val_of_le _ _ _ (by omega)]

/-- The header that a visit of position `i` hands on. -/
def headerAt (lineNr : ℕ) (arr : List Word) (len i : ℕ) : KlvancPacketHeader :=
  { (parseHeader arr i (len - i)).val with horizontalOffset := i % 2 ^ 16, lineNr := lineNr }

/-- A header has at most 255 payload words. -/
lemma headerAt_payloadLengthWords_le (lineNr : ℕ) (arr : List Word) (len i : ℕ) :
    (headerAt lineNr arr len i).payloadLengthWords ≤ 255 := by
  have h : (headerAt lineNr arr len i).payloadLengthWords =
      (sanitizeWord (arr.getD (i + 5) 0)).toNat := by
    simp [headerAt, parseHeader, KlvancPacketHeader.payloadLengthWords]
  rw [h, sanitizeWord_toNat]
  exact Nat.le_of_lt_succ (BitVec.isLt _)

/-- The run after `parse` has taken the packet at position `i` apart. -/
def afterParse (arr : List Word) (len : ℕ) (run : KlvancRun) (i : ℕ) : KlvancRun :=
  let hdr := parseHeader arr i (len - i)
  { run.addLineFaults hdr.faults with
    ctx := { run.ctx with
      checksumFailures :=
        if hdr.val.checksumValid then run.ctx.checksumFailures
        else run.ctx.checksumFailures + 1 } }

/-- A visit of the packet at position `i`. -/
def visit (lineNr : ℕ) (arr : List Word) (len : ℕ) (run : KlvancRun) (i : ℕ) : KlvancRun :=
  processPacket (afterParse arr len run i) (headerAt lineNr arr len i)

/-- The scan as a whole: the visits of the flags found, in order. -/
def visits (lineNr : ℕ) (arr : List Word) (len : ℕ) (run : KlvancRun) : List ℕ → KlvancRun :=
  List.foldl (visit lineNr arr len) run

section Scan

variable {lineNr : ℕ} {arr : List Word} {len : ℕ} {run : KlvancRun} {i : ℕ}

/-- `parse` inside the bound. -/
lemma parse_eq (hi : i + 7 < len) (hlen : len ≤ arr.length) (hmax : len ≤ packetMaxPayload) :
    parse run arr i (uintSub len i) =
      if isAdf arr i then
        (.ok (parseHeader arr i (len - i)).val, afterParse arr len run i)
      else (.error (-einval), run) := by
  have hrest : uintSub len i = len - i :=
    uintSub_of_le (by omega) (lt_of_le_of_lt hmax (by decide))
  have hlong : 7 < len - i := by omega
  have hfaults := isValidHeader_faults (len - i) run.ctx (show i + 2 < arr.length by omega)
  have hval := isValidHeader_val arr i (len - i) run.ctx
  rw [decide_eq_true hlong, Bool.true_and] at hval
  rw [hrest, parse, hfaults, hval]
  simp only [KlvancRun.addLineFaults, List.append_nil]
  rfl

/-- The loop visits the positions a scan records. -/
lemma klvancPacketParseLoop_eq (hlen : len ≤ arr.length) (hmax : len ≤ packetMaxPayload)
    {bound : ℕ} (hbound : bound + 7 ≤ len) (fuel : ℕ) (attempts : ℤ) :
    klvancPacketParseLoop lineNr arr len bound fuel i attempts run =
      (attempts + (Scan.positionsFrom (isAdf arr) 7 bound fuel i).length,
        visits lineNr arr len run (Scan.positionsFrom (isAdf arr) 7 bound fuel i)) := by
  induction fuel generalizing i attempts run with
  | zero => simp [klvancPacketParseLoop, Scan.positionsFrom, visits]
  | succ fuel ih =>
    unfold klvancPacketParseLoop Scan.positionsFrom
    by_cases hi : i < bound
    · rw [if_pos hi, if_pos hi, parse_eq (by omega) hlen hmax]
      by_cases hadf : isAdf arr i = true
      · simp only [hadf, if_true, ih, visits, List.length_cons, List.foldl_cons, visit]
        congr 1
        push_cast
        ring
      · simp only [hadf, if_false, Bool.false_eq_true, ih]
    · simp [hi, visits]

/-- On a line of 7 words or more the scan visits the counted flags below `len - 7`. -/
theorem klvancPacketParse_eq (h7 : 7 ≤ len) (hlen : len ≤ arr.length)
    (hmax : len ≤ packetMaxPayload) :
    klvancPacketParse lineNr arr len run =
      (((Scan.positions (isAdf arr) 7 (len - 7)).length : ℤ),
        visits lineNr arr len run (Scan.positions (isAdf arr) 7 (len - 7))) := by
  have hbound : uintSub len 7 = len - 7 :=
    uintSub_of_le h7 (lt_of_le_of_lt hmax (by decide))
  unfold klvancPacketParse
  rw [if_neg (by omega), if_neg (by omega), hbound,
    klvancPacketParseLoop_eq hlen hmax (by omega)]
  simp [Scan.positions]

end Scan

/-! ### What decoding leaves alone -/

/-- The settings that say which packets are reported to whom. -/
def KlvancContext.settings (ctx : KlvancContext) : ℤ × Bool × Option KlvancCallbacks × Bool :=
  (ctx.verbose, ctx.allowBadChecksums, ctx.callbacks, ctx.logCb)

/-- From `run` to `run'` neither the settings, the checksum failures nor the headers reported to the
`all` callback have changed, and the line has not been read. -/
structure KlvancRun.Keeps (run run' : KlvancRun) : Prop where
  settings : run'.ctx.settings = run.ctx.settings
  checksumFailures : run'.ctx.checksumFailures = run.ctx.checksumFailures
  allHeaders : run'.allHeaders = run.allHeaders
  lineFaults : run'.lineFaults = run.lineFaults

namespace KlvancRun.Keeps

variable {run run' run'' : KlvancRun}

lemma refl (run : KlvancRun) : run.Keeps run := ⟨rfl, rfl, rfl, rfl⟩

lemma trans (h : run.Keeps run') (h' : run'.Keeps run'') : run.Keeps run'' :=
  ⟨h'.settings.trans h.settings, h'.checksumFailures.trans h.checksumFailures,
    h'.allHeaders.trans h.allHeaders, h'.lineFaults.trans h.lineFaults⟩

lemma addFaults (run : KlvancRun) (fs : List Fault) : run.Keeps (run.addFaults fs) :=
  ⟨rfl, rfl, rfl, rfl⟩

lemma setFragments (run : KlvancRun) (s : Scte104Fragments) : run.Keeps (run.setFragments s) :=
  ⟨rfl, rfl, rfl, rfl⟩

/-- Calling a decoder's callback reports nothing to the `all` callback. -/
lemma call {c : KlvancCall} (hc : ∀ hdr, c ≠ .all hdr) : run.Keeps (run.call c) := by
  refine ⟨rfl, rfl, ?_, rfl⟩
  cases c <;> simp_all [KlvancRun.allHeaders]

end KlvancRun.Keeps

section Decoding

variable (run : KlvancRun) (hdr : KlvancPacketHeader)

/-- The decoder of a single packet keeps to its own callback. -/
lemma keeps_runDecoder {α : Type} (cb : KlvancCallbacks → Bool)
    (decode : KlvancPacketHeader → Checked Fault (Except ℤ α))
    {mkCall : KlvancPacketHeader → α → KlvancCall}
    (hc : ∀ hdr pkt hdr', mkCall hdr pkt ≠ .all hdr') :
    run.Keeps (runDecoder run hdr cb decode mkCall).2 := by
  unfold runDecoder
  dsimp only
  split_ifs
  · split
    · exact .addFaults _ _
    · exact (KlvancRun.Keeps.addFaults _ _).trans (.call (hc hdr _))
  · exact .refl _

/-- Delivering an SCTE-104 message calls the `scte_104` callback only. -/
lemma keeps_deliverScte104 (descriptor : Byte) :
    run.Keeps (deliverScte104 run hdr descriptor).2 := by
  unfold deliverScte104
  dsimp only
  split
  · exact .addFaults _ _
  · exact (KlvancRun.Keeps.addFaults _ _).trans (.call fun hdr => KlvancCall.noConfusion)

/-- The SCTE-104 parser calls the `scte_104` callback only. -/
lemma keeps_parseSCTE104 : run.Keeps (parseSCTE104 run hdr).2 := by
  unfold parseSCTE104
  have hfrag : ∀ (s : Scte104Fragments) (fs : List Fault),
      run.Keeps ((run.setFragments s).addFaults fs) := fun s fs =>
    (KlvancRun.Keeps.setFragments _ _).trans (.addFaults _ _)
  dsimp only
  split_ifs
  · exact .refl _
  · exact .refl _
  · split
    · exact hfrag _ _
    · exact hfrag _ _
    · split
      · exact hfrag _ _
      · exact (hfrag _ _).trans (keeps_deliverScte104 _ _ _)
    · exact .refl _
  · exact (KlvancRun.Keeps.setFragments _ _).trans (keeps_deliverScte104 _ _ _)

/-- Decoding a packet by its type reads no word of the line and reports no header. -/
lemma keeps_parseByType : run.Keeps (parseByType run hdr).2 := by
  unfold parseByType
  cases hdr.type with
  | undefined => exact .refl _
  | scte104 => exact keeps_parseSCTE104 _ _
  | afd => exact keeps_runDecoder _ _ _ _ (by simp)
  | eia708b => exact keeps_runDecoder _ _ _ _ (by simp)
  | eia608 => exact keeps_runDecoder _ _ _ _ (by simp)
  | klUint64Counter => exact keeps_runDecoder _ _ _ _ (by simp)
  | sdp => exact keeps_runDecoder _ _ _ _ (by simp)
  | smpteS12_2 => exact keeps_runDecoder _ _ _ _ (by simp)
  | smpteS2108_1 => exact keeps_runDecoder _ _ _ _ (by simp)

/-- With no callback but `all` set, decoding does nothing. -/
lemma parseByType_of_all (h : run.ctx.callbacks = some { all := true }) :
    (parseByType run hdr).2 = run := by
  unfold parseByType
  cases hdr.type <;> simp [runDecoder, parseSCTE104, KlvancContext.registered, h]

end Decoding

/-- A context with the `all` callback. -/
def allContext : KlvancContext := { KlvancContext.create with callbacks := some { all := true } }

/-! ### What a visit and a scan do -/

/-- Whether a packet is reported depends on the settings only. -/
lemma reports_congr {ctx ctx' : KlvancContext} (h : ctx'.settings = ctx.settings) :
    ctx'.reports = ctx.reports := by
  simp only [KlvancContext.settings, Prod.mk.injEq] at h
  funext hdr
  rw [KlvancContext.reports, KlvancContext.reports, h.2.1]

/-- Which callbacks are set depends on the settings only. -/
lemma registered_congr {ctx ctx' : KlvancContext} (h : ctx'.settings = ctx.settings) :
    ctx'.registered = ctx.registered := by
  simp only [KlvancContext.settings, Prod.mk.injEq] at h
  funext cb
  rw [KlvancContext.registered, KlvancContext.registered, h.2.2.1]

section Process

variable (run : KlvancRun) (hdr : KlvancPacketHeader)

/-- Processing a packet keeps the settings. -/
lemma processPacket_settings : (processPacket run hdr).ctx.settings = run.ctx.settings := by
  unfold processPacket
  dsimp only
  split_ifs
  · exact (keeps_parseByType _ _).settings
  · exact (keeps_parseByType _ _).settings
  · rfl

/-- Processing a packet does not count a checksum failure. -/
lemma processPacket_checksumFailures :
    (processPacket run hdr).ctx.checksumFailures = run.ctx.checksumFailures := by
  unfold processPacket
  dsimp only
  split_ifs
  · exact (keeps_parseByType _ _).checksumFailures
  · exact (keeps_parseByType _ _).checksumFailures
  · rfl

/-- Processing a packet reads no word of the line. -/
lemma processPacket_lineFaults : (processPacket run hdr).lineFaults = run.lineFaults := by
  unfold processPacket
  dsimp only
  split_ifs
  · exact (keeps_parseByType _ _).lineFaults
  · exact (keeps_parseByType _ _).lineFaults
  · rfl

/-- A packet that is reported is handed to the decoder of its type, behind the `all` callback. -/
lemma processPacket_reported (h : run.ctx.reports hdr = true) :
    ∃ run', processPacket run hdr = (parseByType run' hdr).2 ∧
      run'.ctx.callbacks = run.ctx.callbacks ∧ run'.faults = run.faults ∧
      (run'.calls = run.calls ∨ run'.calls = run.calls ++ [.all hdr]) := by
  have hrep : ∀ lines, (run.setCacheLines lines).ctx.reports hdr = true := fun _ => h
  unfold processPacket
  dsimp only
  rw [if_pos (hrep _)]
  split_ifs
  · exact ⟨_, rfl, rfl, rfl, Or.inr rfl⟩
  · exact ⟨_, rfl, rfl, rfl, Or.inl rfl⟩

/-- A packet with a valid checksum is handed to the decoder of its type, on a run that differs at
most in a call of `all`. -/
lemma processPacket_valid (h : hdr.checksumValid = true) :
    ∃ run', processPacket run hdr = (parseByType run' hdr).2 ∧
      run'.ctx.registered = run.ctx.registered ∧ run'.faults = run.faults ∧
      run'.scte104Packets = run.scte104Packets ∧ run'.eia708bPackets = run.eia708bPackets := by
  have hreports : run.ctx.reports hdr = true := by
    rw [KlvancContext.reports, h, Bool.true_or]
  obtain ⟨run', hprocess, hcallbacks, hfaults, hcalls⟩ := processPacket_reported run hdr hreports
  have hregistered : run'.ctx.registered = run.ctx.registered := by
    funext cb
    rw [KlvancContext.registered, KlvancContext.registered, hcallbacks]
  refine ⟨run', hprocess, hregistered, hfaults, ?_, ?_⟩
  · rcases hcalls with hsame | hall
    · rw [KlvancRun.scte104Packets, hsame, KlvancRun.scte104Packets]
    · simp [KlvancRun.scte104Packets, hall]
  · rcases hcalls with hsame | hall
    · rw [KlvancRun.eia708bPackets, hsame, KlvancRun.eia708bPackets]
    · simp [KlvancRun.eia708bPackets, hall]

/-- A packet that is not reported is handed to nobody. -/
lemma processPacket_calls_of_not_reported (h : run.ctx.reports hdr = false) :
    (processPacket run hdr).calls = run.calls := by
  have hrep : ∀ lines, (run.setCacheLines lines).ctx.reports hdr = false := fun _ => h
  unfold processPacket
  dsimp only
  rw [hrep]
  rfl

/-- Processing a packet reports it to the `all` callback, unless its checksum forbids it. -/
lemma processPacket_allHeaders (hall : run.ctx.registered (·.all) = true) :
    (processPacket run hdr).allHeaders =
      run.allHeaders ++ if run.ctx.reports hdr then [hdr] else [] := by
  have hall' : ∀ lines, (run.setCacheLines lines).ctx.registered (·.all) = true := fun _ => hall
  have hrep : ∀ lines, (run.setCacheLines lines).ctx.reports hdr = run.ctx.reports hdr :=
    fun _ => rfl
  unfold processPacket
  simp only [hall', hrep, if_true]
  split_ifs
  · rw [(keeps_parseByType _ _).allHeaders]
    simp [KlvancRun.allHeaders, KlvancRun.setCacheLines]
  · rw [List.append_nil]
    rfl

/-- With no callback but `all` set, processing a packet meets no fault. -/
lemma processPacket_faults (h : run.ctx.callbacks = some { all := true }) :
    (processPacket run hdr).faults = run.faults := by
  have hset : ∀ lines, (run.setCacheLines lines).ctx.callbacks = some { all := true } := fun _ => h
  have hall : ∀ lines, (run.setCacheLines lines).ctx.registered (·.all) = true := fun lines => by
    rw [KlvancContext.registered, hset]
    rfl
  unfold processPacket
  simp only [hall, if_true]
  split_ifs
  · rw [parseByType_of_all]
    · rfl
    · exact h
  · rfl

end Process

section Visit

variable (lineNr : ℕ) (arr : List Word) (len : ℕ) (run : KlvancRun) (i : ℕ)

/-- A visit keeps the settings. -/
lemma visit_settings : (visit lineNr arr len run i).ctx.settings = run.ctx.settings :=
  processPacket_settings _ _

/-- A visit reads the words that taking the packet apart reads. -/
lemma visit_lineFaults : (visit lineNr arr len run i).lineFaults =
    run.lineFaults ++ (parseHeader arr i (len - i)).faults :=
  processPacket_lineFaults _ _

/-- A visit reports its packet to the `all` callback, unless its checksum forbids it. -/
lemma visit_allHeaders (hall : run.ctx.registered (·.all) = true) :
    (visit lineNr arr len run i).allHeaders = run.allHeaders ++
      if run.ctx.reports (headerAt lineNr arr len i) then [headerAt lineNr arr len i] else [] :=
  processPacket_allHeaders (afterParse arr len run i) (headerAt lineNr arr len i) hall

end Visit

section Visits

variable {lineNr : ℕ} {arr : List Word} {len : ℕ} {run : KlvancRun}

/-- A scan reads the words that taking its packets apart reads. -/
lemma visits_lineFaults (ps : List ℕ) :
    (visits lineNr arr len run ps).lineFaults =
      run.lineFaults ++ ps.flatMap fun i => (parseHeader arr i (len - i)).faults := by
  induction ps generalizing run with
  | nil => simp [visits]
  | cons i ps ih =>
    have h := @ih (visit lineNr arr len run i)
    rw [visit_lineFaults, List.append_assoc] at h
    rw [List.flatMap_cons]
    exact h

/-- A scan reports the packets it visits, in order, except those whose checksum forbids it. -/
lemma visits_allHeaders (hall : run.ctx.registered (·.all) = true) (ps : List ℕ) :
    (visits lineNr arr len run ps).allHeaders =
      run.allHeaders ++ (ps.map (headerAt lineNr arr len)).filter run.ctx.reports := by
  induction ps generalizing run with
  | nil => simp [visits]
  | cons i ps ih =>
    have hs := visit_settings lineNr arr len run i
    have h := @ih (visit lineNr arr len run i) (by rwa [registered_congr hs])
    rw [visit_allHeaders _ _ _ _ _ hall, reports_congr hs, List.append_assoc] at h
    refine h.trans ?_
    rw [List.map_cons, List.filter_cons]
    split_ifs <;> rfl

/-- With no callback but `all` set, a scan meets no fault besides those of reading the line. -/
lemma visits_faults (h : run.ctx.callbacks = some { all := true }) (ps : List ℕ) :
    (visits lineNr arr len run ps).faults = run.faults := by
  induction ps generalizing run with
  | nil => rfl
  | cons i ps ih =>
    have hs := visit_settings lineNr arr len run i
    simp only [KlvancContext.settings, Prod.mk.injEq] at hs
    have hi := @ih (visit lineNr arr len run i) (hs.2.2.1.trans h)
    exact hi.trans (processPacket_faults (afterParse arr len run i) _ h)

end Visits

/-! ### Lines that are too short -/

section Short

variable {lineNr : ℕ} {arr : List Word} {len bound i : ℕ} {attempts : ℤ} {run : KlvancRun}

/-- `parse` forgets no position read outside the line. -/
lemma parse_lineFaults_ne_nil (h : run.lineFaults ≠ []) (rest : ℕ) :
    (parse run arr i rest).2.lineFaults ≠ [] := by
  unfold parse
  dsimp only
  split_ifs <;> simp [h]

/-- The loop forgets no position read outside the line. -/
lemma klvancPacketParseLoop_lineFaults_ne_nil (fuel : ℕ) (h : run.lineFaults ≠ []) :
    (klvancPacketParseLoop lineNr arr len bound fuel i attempts run).2.lineFaults ≠ [] := by
  induction fuel generalizing i attempts run with
  | zero => exact h
  | succ fuel ih =>
    unfold klvancPacketParseLoop
    split_ifs
    · have hp := @parse_lineFaults_ne_nil arr i _ h (uintSub len i)
      split
      · next heq =>
        rw [heq] at hp
        exact ih hp
      · next heq =>
        rw [heq] at hp
        exact ih (by rwa [processPacket_lineFaults])
    · exact h

/-- On a line shorter than a packet the loop walks past the end of the line and reads there. -/
lemma klvancPacketParseLoop_short (hv : run.ctx.verbose = 0) (hlen : arr.length < 7)
    (hbound : arr.length + 1 < bound) {fuel k : ℕ} (hk : i + k = arr.length + 1)
    (hfuel : k < fuel) :
    (klvancPacketParseLoop lineNr arr arr.length bound fuel i attempts run).2.lineFaults ≠ [] := by
  induction k generalizing i fuel with
  | zero =>
    obtain ⟨fuel, rfl⟩ : ∃ n, fuel = n + 1 := ⟨fuel - 1, by omega⟩
    have hrest : 7 < uintSub arr.length i := by
      rw [uintSub_of_lt (by omega) (by omega)]
      omega
    have hmem := @mem_isValidHeader_faults arr _ _ run.ctx hrest
      (show arr.length ≤ i by omega)
    have hp : (parse run arr i (uintSub arr.length i)).2.lineFaults ≠ [] := by
      unfold parse
      dsimp only
      split_ifs <;> simp [List.ne_nil_of_mem hmem]
    unfold klvancPacketParseLoop
    rw [if_pos (by omega)]
    split
    · next heq =>
      rw [heq] at hp
      exact klvancPacketParseLoop_lineFaults_ne_nil _ hp
    · next heq =>
      rw [heq] at hp
      exact klvancPacketParseLoop_lineFaults_ne_nil _ (by rwa [processPacket_lineFaults])
  | succ k ih =>
    obtain ⟨fuel, rfl⟩ : ∃ n, fuel = n + 1 := ⟨fuel - 1, by omega⟩
    have hrest : uintSub arr.length i ≤ 7 := by
      rw [uintSub_of_le (by omega) (by omega)]
      omega
    have hparse : parse run arr i (uintSub arr.length i) = (.error (-einval), run) := by
      unfold parse
      rw [isValidHeader_of_le hrest hv]
      simp [KlvancRun.addLineFaults]
    unfold klvancPacketParseLoop
    rw [if_pos (by omega), hparse]
    exact ih (by omega) (by omega)

/-- `klvanc_packet_parse` reads outside every line shorter than a packet. -/
theorem klvancPacketParse_short (hv : run.ctx.verbose = 0) (hpos : 0 < arr.length)
    (hlen : arr.length < 7) :
    (klvancPacketParse lineNr arr arr.length run).2.lineFaults ≠ [] := by
  have hbound : arr.length + 1 < uintSub arr.length 7 := by
    rw [uintSub_of_lt hlen (by norm_num)]
    omega
  have hmax : packetMaxPayload = 16384 := rfl
  unfold klvancPacketParse
  rw [if_neg (by omega), if_neg (by omega)]
  exact klvancPacketParseLoop_short hv hlen hbound (Nat.zero_add _) hbound

end Short

end Libklvanc
