import Libklvanc.Core.Cache
import Libklvanc.Core.LineRuns

/-!
# What a run leaves in the context

Besides the callbacks a run over many lines leaves two records in the context: the cache, if
`klvanc_context_enable_cache` has been called, and the count of the checksums that failed. Both are
about all the packets found, also about those that are not reported. Between lines the application
may reset the cache.

A visit is one update of the cache (`visitPacket_cacheLines`), and so a run of lines and resets is,
for the cache, a run of its operations (`runEvents_cacheLines`), about which `cacheRun_holds` says
what the cache holds. As in `LineRuns`, a run goes on behind a memory fault of a decoder, and is
what the library does as long as there is none.
-/

namespace Libklvanc

/-- `klvanc_context_enable_cache`; the allocation succeeds. -/
def klvancContextEnableCache (ctx : KlvancContext) : ℤ × KlvancContext :=
  (0, { ctx with cacheLines := some klvancCacheAlloc })

/-- What an application does with a context. -/
inductive ContextEvent
  /-- It hands a line to `klvanc_packet_parse`. -/
  | line (l : VancLine)
  /-- It calls `klvanc_cache_reset`. -/
  | resetCache
  deriving DecidableEq

namespace ContextEvent

/-- The run after an event. -/
def run (run : KlvancRun) : ContextEvent → KlvancRun
  | line l => (klvancPacketParse l.lineNr l.words l.words.length run).2
  | resetCache => run.setCacheLines (klvancCacheReset run.ctx.cacheLines)

/-- The line of the event is empty or not shorter than a packet. -/
def Parsable : ContextEvent → Prop
  | line l => l.Parsable
  | resetCache => True

instance : DecidablePred Parsable
  | line l => inferInstanceAs (Decidable l.Parsable)
  | resetCache => inferInstanceAs (Decidable True)

/-- The packets found at the event. -/
def headers : ContextEvent → List KlvancPacketHeader
  | line l => l.headers
  | resetCache => []

/-- What the event is for the cache: an update for every packet found, or a reset. -/
def cacheOps : ContextEvent → List CacheOp
  | line l => l.headers.map .update
  | resetCache => [.reset]

end ContextEvent

/-- The run after some events. -/
def runEvents (run : KlvancRun) (es : List ContextEvent) : KlvancRun :=
  es.foldl ContextEvent.run run

/-! ### Visits -/

section Visit

variable (run : KlvancRun) (v : VancLine × ℕ)

/-- Decoding changes nothing of the context but the fragments. -/
lemma parseByType_ctx (hdr : KlvancPacketHeader) :
    ∃ frags, (parseByType run hdr).2.ctx = { run.ctx with scte104 := frags } := by
  rw [parseByType_append]
  by_cases htype : hdr.type = .scte104
  · obtain ⟨frags, hctx⟩ := parseSCTE104_ctx (.start run.ctx) hdr
    refine ⟨frags, ?_⟩
    rw [KlvancRun.append, parseByType, htype]
    exact hctx
  · exact ⟨run.ctx.scte104, (parseByType_congr_of_ne rfl htype).1⟩

/-- A visit leaves in the context what the arrival of its packet has left there. -/
lemma visitPacket_ctx : ∃ frags, (visitPacket run v).ctx =
    { (arrive run v).ctx with scte104 := frags } := by
  rw [visitPacket_eq]
  split_ifs
  · exact parseByType_ctx _ _
  · exact ⟨_, rfl⟩

/-- A packet that has arrived has been counted and recorded. -/
lemma arrive_ctx : (arrive run v).ctx =
    { (afterParse v.1.words v.1.words.length run v.2).ctx with
      cacheLines := (klvancCacheUpdate run.ctx.cacheLines (v.1.header v.2)).1 } := by
  unfold arrive
  dsimp only
  split_ifs <;> rfl

/-- A visit is an update of the cache. -/
lemma visitPacket_cacheLines : (visitPacket run v).ctx.cacheLines =
    (CacheOp.update (v.1.header v.2)).run run.ctx.cacheLines := by
  obtain ⟨frags, hctx⟩ := visitPacket_ctx run v
  rw [hctx, arrive_ctx]
  rfl

/-- A visit counts a checksum that fails. -/
lemma visitPacket_checksumFailures : (visitPacket run v).ctx.checksumFailures =
    if (v.1.header v.2).checksumValid then run.ctx.checksumFailures
    else run.ctx.checksumFailures + 1 := by
  obtain ⟨frags, hctx⟩ := visitPacket_ctx run v
  rw [hctx, arrive_ctx]
  rfl

/-- A visit keeps the settings. -/
lemma visitPacket_settings : (visitPacket run v).ctx.settings = run.ctx.settings :=
  visit_settings _ _ _ _ _

/-- A visit hands a reported packet to the `all` callback. -/
lemma visitPacket_allHeaders (hall : run.ctx.registered (·.all) = true) :
    (visitPacket run v).allHeaders = run.allHeaders ++ [v.1.header v.2].filter run.ctx.reports := by
  refine (visit_allHeaders _ _ _ _ _ hall).trans ?_
  rw [List.filter_singleton, Bool.cond_eq_ite]
  rfl

end Visit

/-! ### Runs of lines and resets -/

/-- The headers whose checksum fails. -/
def failedHeaders (hdrs : List KlvancPacketHeader) : List KlvancPacketHeader :=
  hdrs.filter fun hdr => !hdr.checksumValid

/-- From `run` to `run'` the packets `hdrs` have been found, and the cache has gone through the
operations `ops`. -/
structure KlvancRun.Found (run run' : KlvancRun) (hdrs : List KlvancPacketHeader)
    (ops : List CacheOp) : Prop where
  settings : run'.ctx.settings = run.ctx.settings
  cacheLines : run'.ctx.cacheLines = ops.foldl CacheOp.run run.ctx.cacheLines
  checksumFailures : run'.ctx.checksumFailures =
    run.ctx.checksumFailures + BitVec.ofNat 32 (failedHeaders hdrs).length
  allHeaders : run.ctx.registered (·.all) = true →
    run'.allHeaders = run.allHeaders ++ hdrs.filter run.ctx.reports

namespace KlvancRun.Found

variable {run run' run'' : KlvancRun} {hdrs hdrs' : List KlvancPacketHeader}
  {ops ops' : List CacheOp}

lemma refl (run : KlvancRun) : run.Found run [] [] := by
  constructor <;> simp [failedHeaders]

lemma trans (h : run.Found run' hdrs ops) (h' : run'.Found run'' hdrs' ops') :
    run.Found run'' (hdrs ++ hdrs') (ops ++ ops') where
  settings := h'.settings.trans h.settings
  cacheLines := by rw [h'.cacheLines, h.cacheLines, List.foldl_append]
  checksumFailures := by
    rw [h'.checksumFailures, h.checksumFailures, BitVec.add_assoc, ← BitVec.ofNat_add,
      ← List.length_append, failedHeaders, failedHeaders, ← List.filter_append]
    rfl
  allHeaders hreg := by
    rw [h'.allHeaders (by rwa [registered_congr h.settings]), h.allHeaders hreg,
      reports_congr h.settings, List.filter_append, List.append_assoc]

/-- A visit has found its packet. -/
lemma visit (run : KlvancRun) (v : VancLine × ℕ) :
    run.Found (visitPacket run v) [v.1.header v.2] [.update (v.1.header v.2)] where
  settings := visitPacket_settings run v
  cacheLines := visitPacket_cacheLines run v
  checksumFailures := by
    rw [visitPacket_checksumFailures, failedHeaders, List.filter_singleton]
    cases (v.1.header v.2).checksumValid <;> simp
  allHeaders := visitPacket_allHeaders run v

/-- Some visits have found their packets. -/
lemma visits (run : KlvancRun) (vs : List (VancLine × ℕ)) :
    run.Found (vs.foldl visitPacket run) (vs.map fun v => v.1.header v.2)
      (vs.map fun v => .update (v.1.header v.2)) := by
  induction vs generalizing run with
  | nil => exact refl run
  | cons v vs ih => exact (visit run v).trans (ih (visitPacket run v))

/-- An event has found the packets of its line. -/
lemma event (run : KlvancRun) {e : ContextEvent} (he : e.Parsable) :
    run.Found (e.run run) e.headers e.cacheOps := by
  cases e with
  | line l =>
    have h := visits run (foundOn [l])
    rw [← parseLines_eq (List.forall_mem_singleton.mpr he), map_header_foundOn] at h
    have hops : (foundOn [l]).map (fun v => CacheOp.update (v.1.header v.2)) =
        l.headers.map .update := by
      rw [← List.flatMap_singleton VancLine.headers l, ← map_header_foundOn, List.map_map]
      rfl
    rw [hops, List.flatMap_singleton] at h
    exact h
  | resetCache =>
    refine ⟨rfl, rfl, ?_, fun _ => ?_⟩
    · exact (BitVec.add_zero _).symm
    · exact (List.append_nil _).symm

/-- Some events have found the packets of their lines. -/
lemma events (run : KlvancRun) {es : List ContextEvent} (hes : ∀ e ∈ es, e.Parsable) :
    run.Found (runEvents run es) (es.flatMap ContextEvent.headers)
      (es.flatMap ContextEvent.cacheOps) := by
  induction es generalizing run with
  | nil => exact refl run
  | cons e es ih =>
    obtain ⟨he, hes⟩ := List.forall_mem_cons.mp hes
    exact (event run he).trans (ih (e.run run) hes)

end KlvancRun.Found

/-- After `klvanc_context_enable_cache`, for every run of lines and cache resets in which no sum of
the cache has wrapped at a reset: the cache records the packets found since the last reset, reported
or not; the failed checksums have been counted, modulo the range of the counter; the `all` callback
got the packets found without those whose checksum forbids it, in order; and the settings are what
they were. -/
theorem runEvents_records {ctx : KlvancContext} {es : List ContextEvent}
    (hes : ∀ e ∈ es, e.Parsable) (hsums : SumsUnwrapped (es.flatMap ContextEvent.cacheOps)) :
    ∃ c, (runEvents (.start (klvancContextEnableCache ctx).2) es).ctx.cacheLines = some c ∧
      CacheRecords c (sinceReset (es.flatMap ContextEvent.cacheOps)) ∧
      (runEvents (.start (klvancContextEnableCache ctx).2) es).ctx.checksumFailures.toNat =
        (ctx.checksumFailures.toNat +
          (failedHeaders (es.flatMap ContextEvent.headers)).length) % 2 ^ 32 ∧
      (ctx.registered (·.all) = true →
        (runEvents (.start (klvancContextEnableCache ctx).2) es).allHeaders =
          (es.flatMap ContextEvent.headers).filter ctx.reports) ∧
      (runEvents (.start (klvancContextEnableCache ctx).2) es).ctx.settings = ctx.settings := by
  have hfound := KlvancRun.Found.events (.start (klvancContextEnableCache ctx).2) hes
  obtain ⟨c, hrun, hc⟩ := cacheRun_holds hsums
  refine ⟨c, hfound.cacheLines.trans hrun, hc.records, ?_, fun hall => hfound.allHeaders hall,
    hfound.settings⟩
  rw [hfound.checksumFailures, BitVec.toNat_add, BitVec.toNat_ofNat, Nat.add_mod_mod]
  rfl

/-- No sum wraps in a run of fewer than `2 ^ 32` operations. -/
lemma sumsUnwrapped_of_length_lt {ops : List CacheOp} (h : ops.length < 2 ^ 32) :
    SumsUnwrapped ops := by
  have hsince : ∀ pre : List CacheOp, (sinceReset pre).length ≤ pre.length := by
    intro pre
    induction pre using List.reverseRecOn with
    | nil => exact le_rfl
    | append_singleton pre op ih =>
      rw [List.length_append, List.length_singleton]
      cases op with
      | update pkt =>
        rw [sinceReset_append_update, List.length_append, List.length_singleton]
        omega
      | reset =>
        rw [sinceReset_append_reset]
        exact Nat.zero_le _
  intro pre hpre did sdid hdvd
  have hle : (entryHits did sdid (sinceReset pre)).length ≤ (sinceReset pre).length :=
    List.length_filter_le _ _
  have hpre := hpre.length_le
  rw [List.length_append] at hpre
  refine Nat.eq_zero_of_dvd_of_lt hdvd ?_
  have := hsince pre
  omega

/-- The two lines, a reset of the cache, and the two lines again. -/
def twoLinesTwice : List ContextEvent :=
  twoLines.map .line ++ .resetCache :: twoLines.map .line

/-- Behind the reset the cache records the packets of the second round. -/
theorem runEvents_records_twice :
    ∃ c, (runEvents (.start (klvancContextEnableCache .create).2) twoLinesTwice).ctx.cacheLines =
        some c ∧
      CacheRecords c (sinceReset (twoLinesTwice.flatMap ContextEvent.cacheOps)) := by
  obtain ⟨c, hcache, hrecords, -⟩ := @runEvents_records .create twoLinesTwice (by decide +kernel)
    (sumsUnwrapped_of_length_lt (by decide +kernel))
  exact ⟨c, hcache, hrecords⟩

end Libklvanc
