import Libklvanc.Core.PacketRoundTrip
import Libklvanc.Scte104.Framing
import Libklvanc.Scte104.Reassembly

/-!
# Runs over many lines

An application hands line after line to `klvanc_packet_parse` on one context. Behind the scan of the
lines this is a run over the packets found on them (`parseLines_like`), and the services do not get
into each other's way: the callbacks of a service are those that its own reported packets make when
they alone are decoded, whatever stands between them (`parseLines_service`). The decoders of single
packets have no memory, and so their callbacks are those of each packet by itself; only SCTE-104
keeps fragments, and these are changed by SCTE-104 packets alone.

A run goes on behind a memory fault, which is recorded, and the decoder reads zeros there; up to the
first fault it is what the library does, and `parseLines_service` also says when there is one.

Decoding appends to what a run has done and depends on the settings and the fragments only
(`parseByType_append`, `parseByType_congr`); with that, what one packet does to the view of a
service is a case split on its type.
-/

namespace Libklvanc

/-! ### Lines -/

/-- A line handed to `klvanc_packet_parse`: its number and its words. -/
structure VancLine where
  lineNr : ℕ
  words : List Word
  deriving DecidableEq

/-- The line is empty or not shorter than a packet. -/
def VancLine.Parsable (l : VancLine) : Prop := l.words.length = 0 ∨ 7 ≤ l.words.length

instance (l : VancLine) : Decidable l.Parsable :=
  inferInstanceAs (Decidable (l.words.length = 0 ∨ 7 ≤ l.words.length))

/-- The positions of the packets that `klvanc_packet_parse` finds on the line; on a line that is too
short or too long it looks for none. -/
def VancLine.positions (l : VancLine) : List ℕ :=
  if 7 ≤ l.words.length ∧ l.words.length ≤ packetMaxPayload then
    Scan.positions (isAdf l.words) 7 (l.words.length - 7)
  else []

/-- The header of the packet at position `i` of the line. -/
def VancLine.header (l : VancLine) (i : ℕ) : KlvancPacketHeader :=
  headerAt l.lineNr l.words l.words.length i

/-- The packets that `klvanc_packet_parse` finds on the line. -/
def VancLine.headers (l : VancLine) : List KlvancPacketHeader := l.positions.map l.header

/-- One line after the other is handed to `klvanc_packet_parse`. -/
def parseLines (run : KlvancRun) (lines : List VancLine) : KlvancRun :=
  lines.foldl (fun run l => (klvancPacketParse l.lineNr l.words l.words.length run).2) run

/-- One packet after the other is decoded by its type. -/
def parseByTypes (run : KlvancRun) (hdrs : List KlvancPacketHeader) : KlvancRun :=
  hdrs.foldl (fun run hdr => (parseByType run hdr).2) run

/-- A visit of a packet, given by its line and its position. -/
def visitPacket (run : KlvancRun) (v : VancLine × ℕ) : KlvancRun :=
  visit v.1.lineNr v.1.words v.1.words.length run v.2

/-- The packets found on some lines, one after the other. -/
def foundOn (lines : List VancLine) : List (VancLine × ℕ) :=
  lines.flatMap fun l => l.positions.map fun i => (l, i)

/-- A run over some lines visits the packets found on them. -/
lemma parseLines_eq {lines : List VancLine} (h : ∀ l ∈ lines, l.Parsable) (run : KlvancRun) :
    parseLines run lines = (foundOn lines).foldl visitPacket run := by
  induction lines generalizing run with
  | nil => rfl
  | cons l lines ih =>
    obtain ⟨hl, hlines⟩ := List.forall_mem_cons.mp h
    have hline : (klvancPacketParse l.lineNr l.words l.words.length run).2 =
        (l.positions.map fun i => (l, i)).foldl visitPacket run := by
      rw [List.foldl_map, VancLine.positions]
      split_ifs with hlen
      · rw [klvancPacketParse_eq hlen.1 le_rfl hlen.2]
        rfl
      · unfold klvancPacketParse
        rcases hl with hl | hl
        · rw [if_pos hl]
          rfl
        · rw [if_neg (by omega), if_pos (by omega)]
          rfl
    rw [foundOn, List.flatMap_cons, List.foldl_append, ← hline]
    exact ih hlines _

/-- A run over some lines keeps the settings. -/
lemma parseLines_settings {lines : List VancLine} (h : ∀ l ∈ lines, l.Parsable) (run : KlvancRun) :
    (parseLines run lines).ctx.settings = run.ctx.settings := by
  rw [parseLines_eq h]
  induction foundOn lines generalizing run with
  | nil => rfl
  | cons v vs ih => exact (ih (visitPacket run v)).trans (visit_settings _ _ _ _ _)

/-- The headers of the packets found. -/
lemma map_header_foundOn (lines : List VancLine) :
    (foundOn lines).map (fun v => v.1.header v.2) = lines.flatMap VancLine.headers := by
  rw [foundOn, List.map_flatMap]
  refine List.flatMap_congr fun l _ => ?_
  rw [List.map_map]
  rfl

/-! ### What decoding depends on -/

namespace KlvancRun

/-- What `run` has done, and then what `later` has done. -/
def append (run later : KlvancRun) : KlvancRun where
  ctx := later.ctx
  calls := run.calls ++ later.calls
  lineFaults := run.lineFaults ++ later.lineFaults
  faults := run.faults ++ later.faults

lemma append_assoc (run later last : KlvancRun) :
    (run.append later).append last = run.append (later.append last) := by
  simp [append]

lemma append_start (run : KlvancRun) : run.append (.start run.ctx) = run := by
  simp [append]

end KlvancRun

section Append

variable (run : KlvancRun) (hdr : KlvancPacketHeader)

/-- The decoder of a single packet appends to what the run has done. -/
lemma runDecoder_append {α : Type} (cb : KlvancCallbacks → Bool)
    (decode : KlvancPacketHeader → Checked Fault (Except ℤ α))
    (mkCall : KlvancPacketHeader → α → KlvancCall) :
    (runDecoder run hdr cb decode mkCall).2 =
      run.append (runDecoder (.start run.ctx) hdr cb decode mkCall).2 := by
  cases hreg : run.ctx.registered cb with
  | false => simp [runDecoder, hreg, KlvancRun.append]
  | true =>
    cases hval : (decode hdr).val <;> simp [runDecoder, hreg, hval, KlvancRun.append,
      KlvancRun.addFaults, KlvancRun.call]

/-- Delivering an SCTE-104 message appends to what the run has done. -/
lemma deliverScte104_append (descriptor : Byte) :
    (deliverScte104 run hdr descriptor).2 =
      run.append (deliverScte104 (.start run.ctx) hdr descriptor).2 := by
  cases hval : (parseScte104Message hdr descriptor).val <;> simp [deliverScte104, hval,
    KlvancRun.append, KlvancRun.addFaults, KlvancRun.call]

/-- Delivering a message after new fragments have been stored appends to what the run has done. -/
lemma deliverScte104_setFragments_append (frags : Scte104Fragments) (fs : List Fault)
    (full : KlvancPacketHeader) (descriptor : Byte) :
    (deliverScte104 ((run.setFragments frags).addFaults fs) full descriptor).2 =
      run.append (deliverScte104 (((KlvancRun.start run.ctx).setFragments frags).addFaults fs) full
        descriptor).2 := by
  rw [deliverScte104_append,
    deliverScte104_append (((KlvancRun.start run.ctx).setFragments _).addFaults _)]
  simp [KlvancRun.append]

/-- The SCTE-104 parser appends to what the run has done. -/
lemma parseSCTE104_append :
    (parseSCTE104 run hdr).2 = run.append (parseSCTE104 (.start run.ctx) hdr).2 := by
  have hstored : ∀ frags fs, (run.setFragments frags).addFaults fs =
      run.append (((KlvancRun.start run.ctx).setFragments frags).addFaults fs) := by
    intro frags fs
    simp [KlvancRun.append, KlvancRun.addFaults, KlvancRun.setFragments]
  have hnone : run = run.append (.start run.ctx) := run.append_start.symm
  unfold parseSCTE104
  rw [KlvancRun.start_ctx]
  dsimp only
  split_ifs
  · exact hnone
  · exact hnone
  · split
    · exact hstored _ _
    · exact hstored _ _
    · split
      · exact hstored _ _
      · exact deliverScte104_setFragments_append _ _ _ _ _
    · exact hnone
  · have h := deliverScte104_setFragments_append run (messageFragmentReset run.ctx.scte104) [] hdr
      (hdr.payloadByte 0)
    rwa [KlvancRun.addFaults_nil, KlvancRun.addFaults_nil] at h

/-- Decoding appends to what the run has done. -/
lemma parseByType_append :
    (parseByType run hdr).2 = run.append (parseByType (.start run.ctx) hdr).2 := by
  unfold parseByType
  cases hdr.type with
  | undefined => simp [KlvancRun.append]
  | scte104 => exact parseSCTE104_append _ _
  | afd => exact runDecoder_append _ _ _ _ _
  | eia708b => exact runDecoder_append _ _ _ _ _
  | eia608 => exact runDecoder_append _ _ _ _ _
  | klUint64Counter => exact runDecoder_append _ _ _ _ _
  | sdp => exact runDecoder_append _ _ _ _ _
  | smpteS12_2 => exact runDecoder_append _ _ _ _ _
  | smpteS2108_1 => exact runDecoder_append _ _ _ _ _

end Append

section Depends

variable {ctx ctx' : KlvancContext} {hdr : KlvancPacketHeader}

/-- The decoder of a single packet leaves the context alone and depends on the callbacks set. -/
lemma runDecoder_congr {α : Type} (hreg : ctx.registered = ctx'.registered)
    (cb : KlvancCallbacks → Bool) (decode : KlvancPacketHeader → Checked Fault (Except ℤ α))
    (mkCall : KlvancPacketHeader → α → KlvancCall) :
    (runDecoder (.start ctx) hdr cb decode mkCall).2.ctx = ctx ∧
      (runDecoder (.start ctx) hdr cb decode mkCall).2.calls =
        (runDecoder (.start ctx') hdr cb decode mkCall).2.calls ∧
      (runDecoder (.start ctx) hdr cb decode mkCall).2.faults =
        (runDecoder (.start ctx') hdr cb decode mkCall).2.faults := by
  have hcb := congrFun hreg cb
  cases hset : ctx'.registered cb with
  | false => simp [runDecoder, hcb, hset]
  | true => cases hval : (decode hdr).val <;> simp [runDecoder, hcb, hset, hval]

/-- The decoder of a packet that is not SCTE-104 leaves the context alone and depends on the
callbacks set. -/
lemma parseByType_congr_of_ne (hreg : ctx.registered = ctx'.registered)
    (h : hdr.type ≠ .scte104) :
    (parseByType (.start ctx) hdr).2.ctx = ctx ∧
      (parseByType (.start ctx) hdr).2.calls = (parseByType (.start ctx') hdr).2.calls ∧
      (parseByType (.start ctx) hdr).2.faults = (parseByType (.start ctx') hdr).2.faults := by
  unfold parseByType
  cases htype : hdr.type with
  | undefined => exact ⟨rfl, rfl, rfl⟩
  | scte104 => exact absurd htype h
  | afd => exact runDecoder_congr hreg _ _ _
  | eia708b => exact runDecoder_congr hreg _ _ _
  | eia608 => exact runDecoder_congr hreg _ _ _
  | klUint64Counter => exact runDecoder_congr hreg _ _ _
  | sdp => exact runDecoder_congr hreg _ _ _
  | smpteS12_2 => exact runDecoder_congr hreg _ _ _
  | smpteS2108_1 => exact runDecoder_congr hreg _ _ _

/-- The SCTE-104 parser changes nothing of the context but the fragments. -/
lemma parseSCTE104_ctx (run : KlvancRun) (hdr : KlvancPacketHeader) :
    ∃ frags, (parseSCTE104 run hdr).2.ctx = { run.ctx with scte104 := frags } := by
  unfold parseSCTE104
  dsimp only
  split_ifs
  · exact ⟨_, rfl⟩
  · exact ⟨_, rfl⟩
  · split
    · exact ⟨_, rfl⟩
    · exact ⟨_, rfl⟩
    · split
      · exact ⟨_, rfl⟩
      · exact ⟨_, deliverScte104_ctx _ _ _⟩
    · exact ⟨_, rfl⟩
  · exact ⟨_, deliverScte104_ctx _ _ _⟩

/-- The SCTE-104 parser depends on the callbacks set and on the fragments. -/
lemma parseSCTE104_congr (hreg : ctx.registered = ctx'.registered)
    (hfrags : ctx.scte104 = ctx'.scte104) :
    (parseSCTE104 (.start ctx) hdr).2.ctx.scte104 =
        (parseSCTE104 (.start ctx') hdr).2.ctx.scte104 ∧
      (parseSCTE104 (.start ctx) hdr).2.calls = (parseSCTE104 (.start ctx') hdr).2.calls ∧
      (parseSCTE104 (.start ctx) hdr).2.faults = (parseSCTE104 (.start ctx') hdr).2.faults := by
  unfold parseSCTE104
  rw [KlvancRun.start_ctx, KlvancRun.start_ctx, hreg, hfrags]
  dsimp only
  split_ifs
  · exact ⟨hfrags, rfl, rfl⟩
  · exact ⟨hfrags, rfl, rfl⟩
  · split
    · exact ⟨rfl, rfl, rfl⟩
    · exact ⟨rfl, rfl, rfl⟩
    · split
      · exact ⟨rfl, rfl, rfl⟩
      · simp [deliverScte104_ctx, deliverScte104_calls, deliverScte104_faults]
    · exact ⟨hfrags, rfl, rfl⟩
  · simp [deliverScte104_ctx, deliverScte104_calls, deliverScte104_faults]

/-- Decoding a packet depends on the callbacks set and, if it is SCTE-104, on the fragments. -/
lemma parseByType_congr (hreg : ctx.registered = ctx'.registered)
    (hfrags : hdr.type = .scte104 → ctx.scte104 = ctx'.scte104) :
    (hdr.type = .scte104 → (parseByType (.start ctx) hdr).2.ctx.scte104 =
        (parseByType (.start ctx') hdr).2.ctx.scte104) ∧
      (parseByType (.start ctx) hdr).2.calls = (parseByType (.start ctx') hdr).2.calls ∧
      (parseByType (.start ctx) hdr).2.faults = (parseByType (.start ctx') hdr).2.faults := by
  by_cases htype : hdr.type = .scte104
  · obtain ⟨hafter, hcalls, hfaults⟩ := @parseSCTE104_congr _ _ hdr hreg (hfrags htype)
    unfold parseByType
    rw [htype]
    exact ⟨fun _ => hafter, hcalls, hfaults⟩
  · obtain ⟨-, hcalls, hfaults⟩ := parseByType_congr_of_ne hreg htype
    exact ⟨fun h => absurd h htype, hcalls, hfaults⟩

end Depends

/-! ### The calls of a service -/

/-- The service whose callback is called; `all` belongs to none. -/
def KlvancCall.service : KlvancCall → Option KlvancPacketType
  | .all _ => none
  | .afd _ _ => some .afd
  | .eia708b _ _ => some .eia708b
  | .eia608 _ _ => some .eia608
  | .scte104 _ => some .scte104
  | .klI64leCounter _ _ => some .klUint64Counter
  | .sdp _ _ => some .sdp
  | .smpte12_2 _ _ => some .smpteS12_2
  | .smpte2108_1 _ _ => some .smpteS2108_1

section Service

variable {ctx : KlvancContext} {hdr : KlvancPacketHeader}

/-- The decoder of a single packet calls the callback of its service only. -/
lemma runDecoder_service {α : Type} {cb : KlvancCallbacks → Bool}
    {decode : KlvancPacketHeader → Checked Fault (Except ℤ α)}
    {mkCall : KlvancPacketHeader → α → KlvancCall} {t : KlvancPacketType}
    (hcall : ∀ hdr pkt, (mkCall hdr pkt).service = some t) :
    ∀ c ∈ (runDecoder (.start ctx) hdr cb decode mkCall).2.calls, c.service = some t := by
  intro c hc
  unfold runDecoder at hc
  dsimp only at hc
  split_ifs at hc
  · cases hval : (decode hdr).val <;> simp_all
  · exact absurd hc List.not_mem_nil

/-- The SCTE-104 parser calls the callback of SCTE-104 only. -/
lemma parseSCTE104_service : ∀ c ∈ (parseSCTE104 (.start ctx) hdr).2.calls,
    c.service = some .scte104 := by
  have hdeliver : ∀ (run : KlvancRun) full descriptor, run.calls = [] →
      ∀ c ∈ (deliverScte104 run full descriptor).2.calls, c.service = some .scte104 := by
    intro run full descriptor hrun c hc
    rw [deliverScte104_calls, hrun, List.nil_append, Option.mem_toList,
      Option.map_eq_some_iff] at hc
    obtain ⟨pkt, -, rfl⟩ := hc
    rfl
  unfold parseSCTE104
  dsimp only
  split_ifs
  · exact List.forall_mem_nil _
  · exact List.forall_mem_nil _
  · split
    · exact List.forall_mem_nil _
    · exact List.forall_mem_nil _
    · split
      · exact List.forall_mem_nil _
      · exact hdeliver _ _ _ rfl
    · exact List.forall_mem_nil _
  · exact hdeliver _ _ _ rfl

/-- Decoding a packet calls the callback of its service only. -/
lemma parseByType_service : ∀ c ∈ (parseByType (.start ctx) hdr).2.calls,
    c.service = some hdr.type := by
  unfold parseByType
  cases htype : hdr.type with
  | undefined => exact fun c hc => absurd hc List.not_mem_nil
  | scte104 => exact parseSCTE104_service
  | afd => exact runDecoder_service fun _ _ => rfl
  | eia708b => exact runDecoder_service fun _ _ => rfl
  | eia608 => exact runDecoder_service fun _ _ => rfl
  | klUint64Counter => exact runDecoder_service fun _ _ => rfl
  | sdp => exact runDecoder_service fun _ _ => rfl
  | smpteS12_2 => exact runDecoder_service fun _ _ => rfl
  | smpteS2108_1 => exact runDecoder_service fun _ _ => rfl

/-- The calls of a service in what decoding a packet has done. -/
lemma filter_parseByType_calls (t : KlvancPacketType) :
    (parseByType (.start ctx) hdr).2.calls.filter (·.service = some t) =
      if hdr.type = t then (parseByType (.start ctx) hdr).2.calls else [] := by
  split_ifs with ht
  · refine List.filter_eq_self.mpr fun c hc => ?_
    rw [parseByType_service c hc, ht, decide_eq_true rfl]
  · refine List.filter_eq_nil_iff.mpr fun c hc => ?_
    rw [parseByType_service c hc]
    simpa using ht

end Service

/-! ### Visits -/

/-- What a visit does before the packet is decoded: its checksum is counted, it is recorded in the
cache, and if it is reported it is handed to the `all` callback. -/
def arrive (run : KlvancRun) (v : VancLine × ℕ) : KlvancRun :=
  let parsed := afterParse v.1.words v.1.words.length run v.2
  let stored := parsed.setCacheLines (klvancCacheUpdate run.ctx.cacheLines (v.1.header v.2)).1
  if run.ctx.reports (v.1.header v.2) && run.ctx.registered (·.all) then
    stored.call (.all (v.1.header v.2))
  else stored

section Visit

variable (run : KlvancRun) (v : VancLine × ℕ)

/-- A packet that has arrived is decoded if it is reported. -/
lemma visitPacket_eq : visitPacket run v =
    if run.ctx.reports (v.1.header v.2) then (parseByType (arrive run v) (v.1.header v.2)).2
    else arrive run v := by
  unfold visitPacket visit processPacket arrive
  dsimp only
  cases hrep : run.ctx.reports (v.1.header v.2) with
  | true =>
    rw [if_pos rfl, Bool.true_and]
    exact if_pos hrep
  | false =>
    rw [if_neg Bool.false_ne_true, Bool.false_and, if_neg Bool.false_ne_true]
    exact if_neg (ne_true_of_eq_false hrep)

/-- The arrival of a packet keeps the settings and the fragments and meets no fault. -/
lemma arrive_settings : (arrive run v).ctx.settings = run.ctx.settings := by
  unfold arrive
  dsimp only
  split_ifs <;> rfl

lemma arrive_scte104 : (arrive run v).ctx.scte104 = run.ctx.scte104 := by
  unfold arrive
  dsimp only
  split_ifs <;> rfl

lemma arrive_faults : (arrive run v).faults = run.faults := by
  unfold arrive
  dsimp only
  split_ifs <;> rfl

/-- The arrival of a reported packet is a call of `all`. -/
lemma arrive_calls : (arrive run v).calls = run.calls ++
    if run.ctx.reports (v.1.header v.2) && run.ctx.registered (·.all) then
      [.all (v.1.header v.2)] else [] := by
  unfold arrive
  dsimp only
  split_ifs
  · rfl
  · exact (List.append_nil _).symm

/-- The faults of a visit are those of decoding its packet, if it is reported. -/
lemma visitPacket_faults : (visitPacket run v).faults =
    run.faults ++ if run.ctx.reports (v.1.header v.2) then
      (parseByType (.start run.ctx) (v.1.header v.2)).2.faults else [] := by
  rw [visitPacket_eq]
  split_ifs
  · rw [parseByType_append, KlvancRun.append, arrive_faults,
      (parseByType_congr (registered_congr (arrive_settings run v))
        fun _ => arrive_scte104 run v).2.2]
  · rw [arrive_faults, List.append_nil]

end Visit

section VisitAppend

/-- The arrival of a packet appends to what the run has done. -/
lemma arrive_append (run : KlvancRun) (v : VancLine × ℕ) :
    arrive run v = run.append (arrive (.start run.ctx) v) := by
  unfold arrive
  rw [KlvancRun.start_ctx]
  dsimp only
  split_ifs
  · simp [KlvancRun.append, KlvancRun.call, KlvancRun.setCacheLines, afterParse,
      KlvancRun.addLineFaults]
  · simp [KlvancRun.append, KlvancRun.setCacheLines, afterParse, KlvancRun.addLineFaults]

/-- A visit appends to what the run has done. -/
lemma visitPacket_append (run : KlvancRun) (v : VancLine × ℕ) :
    visitPacket run v = run.append (visitPacket (.start run.ctx) v) := by
  rw [visitPacket_eq, visitPacket_eq, KlvancRun.start_ctx]
  split_ifs
  · rw [parseByType_append, parseByType_append (arrive (.start run.ctx) v), arrive_append run,
      KlvancRun.append_assoc]
    rfl
  · exact arrive_append run v

/-- Some visits append to what the run has done. -/
lemma foldl_visitPacket_append (vs : List (VancLine × ℕ)) (run : KlvancRun) :
    vs.foldl visitPacket run = run.append (vs.foldl visitPacket (.start run.ctx)) := by
  induction vs generalizing run with
  | nil => exact run.append_start.symm
  | cons v vs ih =>
    have hctx : (visitPacket run v).ctx = (visitPacket (.start run.ctx) v).ctx := by
      rw [visitPacket_append]
      rfl
    rw [List.foldl_cons, List.foldl_cons, ih, ih (visitPacket (.start run.ctx) v), hctx,
      ← KlvancRun.append_assoc, ← visitPacket_append]

/-- A run over lines appends to what has been done before. -/
lemma parseLines_append {lines : List VancLine} (h : ∀ l ∈ lines, l.Parsable) (run : KlvancRun) :
    parseLines run lines = run.append (parseLines (.start run.ctx) lines) := by
  rw [parseLines_eq h, parseLines_eq h]
  exact foldl_visitPacket_append _ _

end VisitAppend

/-! ### The view of a service -/

/-- To the service `t` the run looks like the run `own`, in which its own packets alone have been
decoded: both have the settings of `ctx`, the calls of the service are those of `own`, and so are
the fragments if it keeps any. -/
structure KlvancRun.LooksLike (ctx : KlvancContext) (t : KlvancPacketType) (run own : KlvancRun) :
    Prop where
  settings : run.ctx.settings = ctx.settings
  ownSettings : own.ctx.settings = ctx.settings
  scte104 : t = .scte104 → run.ctx.scte104 = own.ctx.scte104
  calls : run.calls.filter (·.service = some t) = own.calls

namespace KlvancRun.LooksLike

variable {ctx : KlvancContext} {t : KlvancPacketType} {run own : KlvancRun}
  {hdr : KlvancPacketHeader}

/-- The arrival of a packet is not seen by a service. -/
lemma arrive (h : run.LooksLike ctx t own) (v : VancLine × ℕ) :
    (arrive run v).LooksLike ctx t own := by
  refine ⟨(arrive_settings run v).trans h.settings, h.ownSettings,
    fun ht => (arrive_scte104 run v).trans (h.scte104 ht), ?_⟩
  rw [arrive_calls, List.filter_append, h.calls]
  split_ifs <;> exact List.append_nil _

/-- Decoding a packet of another service is not seen. -/
lemma decode_other (h : run.LooksLike ctx t own) (ht : hdr.type ≠ t) :
    (parseByType run hdr).2.LooksLike ctx t own := by
  rw [parseByType_append]
  refine ⟨?_, h.ownSettings, ?_, ?_⟩
  · exact (keeps_parseByType (.start run.ctx) hdr).settings.trans h.settings
  · rintro rfl
    obtain ⟨hctx, -⟩ := parseByType_congr_of_ne (rfl : run.ctx.registered = run.ctx.registered) ht
    rw [KlvancRun.append, hctx]
    exact h.scte104 rfl
  · rw [KlvancRun.append, List.filter_append, filter_parseByType_calls, if_neg ht, List.append_nil]
    exact h.calls

/-- Decoding a packet of the service itself does the same in both runs. -/
lemma decode_own (h : run.LooksLike ctx t own) (ht : hdr.type = t) :
    (parseByType run hdr).2.LooksLike ctx t (parseByType own hdr).2 := by
  have hreg : run.ctx.registered = own.ctx.registered :=
    registered_congr (h.settings.trans h.ownSettings.symm)
  obtain ⟨hfrags, hcalls, -⟩ :=
    parseByType_congr hreg fun htype => h.scte104 (ht.symm.trans htype)
  rw [parseByType_append run, parseByType_append own]
  refine ⟨?_, ?_, fun hscte => hfrags (ht.trans hscte), ?_⟩
  · exact (keeps_parseByType (.start run.ctx) hdr).settings.trans h.settings
  · exact (keeps_parseByType (.start own.ctx) hdr).settings.trans h.ownSettings
  · rw [KlvancRun.append, List.filter_append, filter_parseByType_calls, if_pos ht, h.calls, hcalls]
    rfl

/-- A visit of a packet of the service that is reported does to both runs what decoding it does. -/
lemma visit_own (h : run.LooksLike ctx t own) {v : VancLine × ℕ}
    (hrep : ctx.reports (v.1.header v.2) = true) (ht : (v.1.header v.2).type = t) :
    (visitPacket run v).LooksLike ctx t (parseByType own (v.1.header v.2)).2 := by
  rw [visitPacket_eq, reports_congr h.settings, if_pos hrep]
  exact (h.arrive v).decode_own ht

/-- A visit of any other packet is not seen. -/
lemma visit_other (h : run.LooksLike ctx t own) {v : VancLine × ℕ}
    (hother : ctx.reports (v.1.header v.2) = true → (v.1.header v.2).type ≠ t) :
    (visitPacket run v).LooksLike ctx t own := by
  rw [visitPacket_eq, reports_congr h.settings]
  split_ifs with hrep
  · exact (h.arrive v).decode_other (hother hrep)
  · exact h.arrive v

end KlvancRun.LooksLike

/-! ### Runs -/

/-- The reported ones among the packets visited. -/
def reportedHeaders (ctx : KlvancContext) (vs : List (VancLine × ℕ)) : List KlvancPacketHeader :=
  (vs.map fun v => v.1.header v.2).filter ctx.reports

/-- The run in which the reported packets of the service `t` alone are decoded. -/
def ownRun (ctx : KlvancContext) (t : KlvancPacketType) (vs : List (VancLine × ℕ)) : KlvancRun :=
  parseByTypes (.start ctx) ((reportedHeaders ctx vs).filter (·.type = t))

section Runs

variable (ctx : KlvancContext) (t : KlvancPacketType) (vs : List (VancLine × ℕ))

/-- One more visit. -/
lemma ownRun_append (v : VancLine × ℕ) : ownRun ctx t (vs ++ [v]) =
    if ctx.reports (v.1.header v.2) = true ∧ (v.1.header v.2).type = t then
      (parseByType (ownRun ctx t vs) (v.1.header v.2)).2
    else ownRun ctx t vs := by
  unfold ownRun reportedHeaders parseByTypes
  rw [List.map_append, List.map_singleton, List.filter_append, List.filter_append,
    List.foldl_append]
  split_ifs with h
  · rw [List.filter_cons_of_pos h.1, List.filter_nil, List.filter_cons_of_pos (by simpa using h.2)]
    rfl
  · have hnone : ([v.1.header v.2].filter ctx.reports).filter (·.type = t) = [] := by
      rw [List.filter_filter]
      refine List.filter_eq_nil_iff.mpr fun hdr hmem => ?_
      rw [List.mem_singleton.mp hmem, Bool.and_eq_true, decide_eq_true_eq]
      exact fun hand => h hand.symm
    rw [hnone]
    rfl

/-- After some visits the view of a service is that of its own packets decoded alone. -/
lemma looksLike_visits :
    (vs.foldl visitPacket (.start ctx)).LooksLike ctx t (ownRun ctx t vs) := by
  induction vs using List.reverseRecOn with
  | nil => exact ⟨rfl, rfl, fun _ => rfl, rfl⟩
  | append_singleton vs v ih =>
    rw [List.foldl_append, List.foldl_cons, List.foldl_nil, ownRun_append]
    split_ifs with h
    · exact ih.visit_own h.1 h.2
    · exact ih.visit_other fun hrep ht => h ⟨hrep, ht⟩

/-- Some visits meet the faults that the packets of the services meet when they alone are
decoded. -/
lemma mem_faults_visits (f : Fault) :
    f ∈ (vs.foldl visitPacket (.start ctx)).faults ↔ ∃ t, f ∈ (ownRun ctx t vs).faults := by
  induction vs using List.reverseRecOn with
  | nil => simp [ownRun, parseByTypes, reportedHeaders]
  | append_singleton vs v ih =>
    have hview := looksLike_visits ctx (v.1.header v.2).type vs
    have hreg := registered_congr (hview.settings.trans hview.ownSettings.symm)
    rw [List.foldl_append, List.foldl_cons, List.foldl_nil, visitPacket_faults, List.mem_append, ih,
      reports_congr hview.settings]
    simp only [ownRun_append]
    cases hrep : ctx.reports (v.1.header v.2) with
    | false => simp
    | true =>
      have hown : ∀ t, (v.1.header v.2).type = t →
          (parseByType (ownRun ctx t vs) (v.1.header v.2)).2.faults = (ownRun ctx t vs).faults ++
            (parseByType (.start (vs.foldl visitPacket (.start ctx)).ctx)
              (v.1.header v.2)).2.faults := by
        rintro t rfl
        rw [parseByType_append, KlvancRun.append, (parseByType_congr hreg hview.scte104).2.2]
      rw [if_pos rfl]
      constructor
      · rintro (⟨t, ht⟩ | hdecode)
        · refine ⟨t, ?_⟩
          split_ifs with htype
          · rw [hown t htype.2]
            exact List.mem_append_left _ ht
          · exact ht
        · refine ⟨(v.1.header v.2).type, ?_⟩
          rw [if_pos ⟨rfl, rfl⟩, hown _ rfl]
          exact List.mem_append_right _ hdecode
      · rintro ⟨t, ht⟩
        split_ifs at ht with htype
        · rw [hown t htype.2, List.mem_append] at ht
          exact ht.imp_left fun h => ⟨t, h⟩
        · exact Or.inl ⟨t, ht⟩

/-- Some visits hand the reported packets to the `all` callback, in order. -/
lemma allHeaders_visits : (vs.foldl visitPacket (.start ctx)).allHeaders =
    if ctx.registered (·.all) then reportedHeaders ctx vs else [] := by
  induction vs using List.reverseRecOn with
  | nil => split_ifs <;> rfl
  | append_singleton vs v ih =>
    have hsettings := (looksLike_visits ctx .undefined vs).settings
    have hvisit : ∀ run, (visitPacket run v).allHeaders = (arrive run v).allHeaders := by
      intro run
      rw [visitPacket_eq]
      split_ifs
      · exact (keeps_parseByType _ _).allHeaders
      · rfl
    rw [List.foldl_append, List.foldl_cons, List.foldl_nil, hvisit, KlvancRun.allHeaders,
      arrive_calls, List.filterMap_append, reports_congr hsettings, registered_congr hsettings]
    rw [KlvancRun.allHeaders] at ih
    rw [ih, reportedHeaders, reportedHeaders, List.map_append, List.map_singleton,
      List.filter_append]
    cases ctx.registered (·.all) <;> cases hrep : ctx.reports (v.1.header v.2) <;> simp [hrep]

end Runs

/-- The decoders of single packets have no memory: what they do to a run is what each packet does on
its own. -/
lemma parseByTypes_calls_of_ne {hdrs : List KlvancPacketHeader}
    (h : ∀ hdr ∈ hdrs, hdr.type ≠ .scte104) (run : KlvancRun) :
    (parseByTypes run hdrs).calls =
      run.calls ++ hdrs.flatMap fun hdr => (parseByType (.start run.ctx) hdr).2.calls := by
  induction hdrs generalizing run with
  | nil => exact (List.append_nil _).symm
  | cons hdr hdrs ih =>
    obtain ⟨hhdr, hhdrs⟩ := List.forall_mem_cons.mp h
    obtain ⟨hctx, -⟩ := parseByType_congr_of_ne (rfl : run.ctx.registered = _) hhdr
    have hstep : (parseByType run hdr).2.ctx = run.ctx ∧
        (parseByType run hdr).2.calls =
          run.calls ++ (parseByType (.start run.ctx) hdr).2.calls := by
      rw [parseByType_append]
      exact ⟨hctx, rfl⟩
    have hrest := ih hhdrs (parseByType run hdr).2
    rw [hstep.1, hstep.2, List.append_assoc] at hrest
    exact hrest

/-- The reported ones among the packets found on some lines. -/
def reportedOn (ctx : KlvancContext) (lines : List VancLine) : List KlvancPacketHeader :=
  (lines.flatMap VancLine.headers).filter ctx.reports

section Lines

variable {lines : List VancLine} (h : ∀ l ∈ lines, l.Parsable) (ctx : KlvancContext)
include h

/-- The reported packets are handed to the `all` callback. -/
lemma parseLines_allHeaders : (parseLines (.start ctx) lines).allHeaders =
    if ctx.registered (·.all) then reportedOn ctx lines else [] := by
  rw [parseLines_eq h, allHeaders_visits, reportedHeaders, map_header_foundOn, reportedOn]

/-- The calls of a service are those that its own packets make alone. -/
lemma filter_parseLines_calls (t : KlvancPacketType) :
    (parseLines (.start ctx) lines).calls.filter (·.service = some t) =
      (parseByTypes (.start ctx) ((reportedOn ctx lines).filter (·.type = t))).calls := by
  rw [parseLines_eq h, (looksLike_visits ctx t (foundOn lines)).calls, ownRun, reportedHeaders,
    map_header_foundOn, reportedOn]

/-- The faults are those that the packets of some service meet alone. -/
lemma mem_parseLines_faults (f : Fault) :
    f ∈ (parseLines (.start ctx) lines).faults ↔ ∃ t, f ∈ (parseByTypes (.start ctx)
      ((reportedOn ctx lines).filter (·.type = t))).faults := by
  rw [parseLines_eq h, mem_faults_visits]
  simp only [ownRun, reportedHeaders, map_header_foundOn, reportedOn]

end Lines

/-- The services do not get into each other's way. When line after line is handed to
`klvanc_packet_parse` on one context, the `all` callback gets the reported packets in order; the
calls of every service are those that its own reported packets make when they alone are decoded, for
all services but SCTE-104 each packet by itself; and every fault is one that the packets of some
service meet alone. -/
theorem parseLines_service {lines : List VancLine} (h : ∀ l ∈ lines, l.Parsable)
    (ctx : KlvancContext) :
    (parseLines (.start ctx) lines).allHeaders =
        (if ctx.registered (·.all) then reportedOn ctx lines else []) ∧
      (∀ t, (parseLines (.start ctx) lines).calls.filter (·.service = some t) =
        (parseByTypes (.start ctx) ((reportedOn ctx lines).filter (·.type = t))).calls) ∧
      (∀ t, t ≠ .scte104 →
        (parseLines (.start ctx) lines).calls.filter (·.service = some t) =
          ((reportedOn ctx lines).filter (·.type = t)).flatMap
            fun hdr => (parseByType (.start ctx) hdr).2.calls) ∧
      ∀ f, f ∈ (parseLines (.start ctx) lines).faults ↔ ∃ t, f ∈ (parseByTypes (.start ctx)
        ((reportedOn ctx lines).filter (·.type = t))).faults := by
  refine ⟨parseLines_allHeaders h ctx, filter_parseLines_calls h ctx, fun t ht => ?_,
    mem_parseLines_faults h ctx⟩
  rw [filter_parseLines_calls h ctx, parseByTypes_calls_of_ne]
  · rfl
  · intro hdr hmem htype
    have heq := List.of_mem_filter hmem
    rw [decide_eq_true_eq] at heq
    exact ht (heq.symm.trans htype)

/-- Two lines, the first one with an AFD packet and a caption packet on it. -/
def twoLines : List VancLine :=
  [⟨9, SdiPacket.line [.ofBytes 0x41 0x05 [0x44, 0, 0, 0, 0, 0, 0, 0] (Eq.refl true),
    .ofBytes 0x61 0x02 [0x80, 0x94, 0x2c] (Eq.refl true)]⟩, ⟨10, []⟩]

/-- A context with the callbacks of these two services. -/
def twoServices : KlvancContext :=
  { KlvancContext.create with callbacks := some { afd := true, eia608 := true } }

/-- On these lines the captions are decoded as if the AFD packet were not there. -/
theorem parseLines_service_two :
    (parseLines (.start twoServices) twoLines).calls.filter (·.service = some .eia608) =
      ((reportedOn twoServices twoLines).filter (·.type = .eia608)).flatMap
        fun hdr => (parseByType (.start twoServices) hdr).2.calls :=
  (parseLines_service (show ∀ l ∈ twoLines, l.Parsable by decide +kernel) twoServices).2.2.1
    .eia608 (by decide)

end Libklvanc
