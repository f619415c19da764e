import Libklvanc.Scte104.Types
import Libklvanc.Services.Bitstream
import Libklvanc.Services.Fixed

/-!
# The context and its runs

`klvanc_context_s`: the application's settings and callbacks, the optional cache of the packets seen
(`core-cache.c`) and the fragments of an SCTE-104 message under way. A `KlvancRun` is a context
together with what a run on it has done so far: the callbacks made and the faults met, both oldest
first, and the positions outside the line that it has read. Output to the log and the rate limiter
in front of it are left out.
-/

namespace Libklvanc

/-! ### The cache -/

/-- `struct klvanc_cache_line_s`. -/
structure KlvancCacheLine where
  active : Bool := false
  count : BitVec 64 := 0
  pkt : Option KlvancPacketHeader := none

/-- `struct klvanc_cache_s`; `lines` has 2048 cells. -/
structure KlvancCache where
  did : Word := 0
  sdid : Word := 0
  activeCount : BitVec 32 := 0
  lines : ℕ → KlvancCacheLine := fun _ => {}

/-- The array of 65536 cache entries. -/
abbrev KlvancCacheLines : Type := ℕ → KlvancCache

/-- The index computed by `klvanc_cache_lookup`. -/
def klvancCacheIndex (didnr sdidnr : Byte) : ℕ := didnr.toNat * 256 + sdidnr.toNat

/-- The cache entry after `klvanc_cache_update` has recorded the packet `pkt` in it. -/
def KlvancCache.record (s : KlvancCache) (pkt : KlvancPacketHeader) : KlvancCache :=
  let s := if s.activeCount = 0 then { s with did := pkt.did, sdid := pkt.dbnsdid } else s
  let line := s.lines pkt.lineNr
  { s with
    activeCount := s.activeCount + 1
    lines := Function.update s.lines pkt.lineNr
      { active := true, count := line.count + 1, pkt := some pkt } }

/-- `klvanc_cache_update`, on the cache of the context if there is one. -/
def klvancCacheUpdate (cacheLines : Option KlvancCacheLines) (pkt : KlvancPacketHeader) :
    Option KlvancCacheLines × ℤ :=
  match cacheLines with
  | none => (none, -1)
  | some lines =>
    if 0xff < pkt.did.toNat ∨ 0xff < pkt.dbnsdid.toNat ∨ 2048 ≤ pkt.lineNr then (some lines, -1)
    else
      let index := klvancCacheIndex (lowByte pkt.did) (lowByte pkt.dbnsdid)
      (some (Function.update lines index ((lines index).record pkt)), 0)

/-! ### The context -/

/-- `struct klvanc_callbacks_s`: which of the callbacks are set. -/
structure KlvancCallbacks where
  afd : Bool := false
  eia708b : Bool := false
  eia608 : Bool := false
  scte104 : Bool := false
  all : Bool := false
  klI64leCounter : Bool := false
  sdp : Bool := false
  smpte12_2 : Bool := false
  smpte2108_1 : Bool := false
  deriving DecidableEq

/-- `LIBKLVANC_SCTE104_MAX_FRAGMENTS`. -/
def scte104MaxFragments : ℕ := 10

/-- `scte104_fragments` and `scte104_fragment_count`. -/
structure Scte104Fragments where
  slots : Vector (Option KlvancPacketHeader) scte104MaxFragments :=
    Vector.replicate scte104MaxFragments none
  count : ℕ := 0
  /-- The count stays within the array. -/
  count_le : count ≤ scte104MaxFragments := by decide

/-- `struct klvanc_context_s`. -/
structure KlvancContext where
  verbose : ℤ := 0
  allowBadChecksums : Bool := false
  callbacks : Option KlvancCallbacks := none
  /-- Whether a logger is set. -/
  logCb : Bool := true
  checksumFailures : BitVec 32 := 0
  cacheLines : Option KlvancCacheLines := none
  scte104 : Scte104Fragments := {}

namespace KlvancContext

/-- `klvanc_context_create`. -/
def create : KlvancContext := {}

/-- Whether the callback `cb` is set: `ctx->callbacks && ctx->callbacks->cb`. -/
def registered (ctx : KlvancContext) (cb : KlvancCallbacks → Bool) : Bool :=
  ctx.callbacks.any cb

/-- Whether a packet is reported: `hdr->checksumValid || ctx->allow_bad_checksums`. -/
def reports (ctx : KlvancContext) (hdr : KlvancPacketHeader) : Bool :=
  hdr.checksumValid || ctx.allowBadChecksums

end KlvancContext

/-! ### Runs -/

/-- A call of one of the application's callbacks. -/
inductive KlvancCall
  | all (hdr : KlvancPacketHeader)
  | afd (hdr : KlvancPacketHeader) (pkt : KlvancPacketAfd)
  | eia708b (hdr : KlvancPacketHeader) (pkt : KlvancPacketEia708b)
  | eia608 (hdr : KlvancPacketHeader) (pkt : KlvancPacketEia608)
  | scte104 (pkt : KlvancPacketScte104)
  | klI64leCounter (hdr : KlvancPacketHeader) (pkt : KlvancPacketKlU64leCounter)
  | sdp (hdr : KlvancPacketHeader) (pkt : KlvancPacketSdp)
  | smpte12_2 (hdr : KlvancPacketHeader) (pkt : KlvancPacketSmpte12_2)
  | smpte2108_1 (hdr : KlvancPacketHeader) (pkt : KlvancPacketSmpte2108_1)
  deriving DecidableEq

/-- A context, the callbacks made and the faults met so far. -/
structure KlvancRun where
  ctx : KlvancContext
  calls : List KlvancCall := []
  /-- The positions outside the line at which a word of the line was read. -/
  lineFaults : List ℕ := []
  /-- The other faults. -/
  faults : List Fault := []

namespace KlvancRun

/-- A run on `ctx` that has not done anything yet. -/
def start (ctx : KlvancContext) : KlvancRun := { ctx }

/-- Make a callback. -/
def call (run : KlvancRun) (c : KlvancCall) : KlvancRun := { run with calls := run.calls ++ [c] }

/-- Record faults. -/
def addFaults (run : KlvancRun) (fs : List Fault) : KlvancRun :=
  { run with faults := run.faults ++ fs }

/-- Record positions read outside the line. -/
def addLineFaults (run : KlvancRun) (is : List ℕ) : KlvancRun :=
  { run with lineFaults := run.lineFaults ++ is }

/-- Replace the fragments. -/
def setFragments (run : KlvancRun) (scte104 : Scte104Fragments) : KlvancRun :=
  { run with ctx := { run.ctx with scte104 } }

/-- Replace the cache. -/
def setCacheLines (run : KlvancRun) (cacheLines : Option KlvancCacheLines) : KlvancRun :=
  { run with ctx := { run.ctx with cacheLines } }

/-- The headers handed to the `all` callback, in order. -/
def allHeaders (run : KlvancRun) : List KlvancPacketHeader :=
  run.calls.filterMap fun
    | .all hdr => some hdr
    | _ => none

/-- The packets handed to the `scte_104` callback, in order. -/
def scte104Packets (run : KlvancRun) : List KlvancPacketScte104 :=
  run.calls.filterMap fun
    | .scte104 pkt => some pkt
    | _ => none

/-- The packets handed to the `eia_708b` callback, in order. -/
def eia708bPackets (run : KlvancRun) : List KlvancPacketEia708b :=
  run.calls.filterMap fun
    | .eia708b _ pkt => some pkt
    | _ => none

@[simp] lemma start_ctx (ctx : KlvancContext) : (start ctx).ctx = ctx := rfl

@[simp] lemma start_calls (ctx : KlvancContext) : (start ctx).calls = [] := rfl

@[simp] lemma start_faults (ctx : KlvancContext) : (start ctx).faults = [] := rfl

@[simp] lemma call_ctx (run : KlvancRun) (c : KlvancCall) : (run.call c).ctx = run.ctx := rfl

@[simp] lemma call_calls (run : KlvancRun) (c : KlvancCall) :
    (run.call c).calls = run.calls ++ [c] := rfl

@[simp] lemma start_lineFaults (ctx : KlvancContext) : (start ctx).lineFaults = [] := rfl

@[simp] lemma call_lineFaults (run : KlvancRun) (c : KlvancCall) :
    (run.call c).lineFaults = run.lineFaults := rfl

@[simp] lemma addFaults_lineFaults (run : KlvancRun) (fs : List Fault) :
    (run.addFaults fs).lineFaults = run.lineFaults := rfl

@[simp] lemma setFragments_lineFaults (run : KlvancRun) (s : Scte104Fragments) :
    (run.setFragments s).lineFaults = run.lineFaults := rfl

@[simp] lemma addLineFaults_ctx (run : KlvancRun) (is : List ℕ) :
    (run.addLineFaults is).ctx = run.ctx := rfl

@[simp] lemma addLineFaults_calls (run : KlvancRun) (is : List ℕ) :
    (run.addLineFaults is).calls = run.calls := rfl

@[simp] lemma addLineFaults_faults (run : KlvancRun) (is : List ℕ) :
    (run.addLineFaults is).faults = run.faults := rfl

@[simp] lemma addLineFaults_lineFaults (run : KlvancRun) (is : List ℕ) :
    (run.addLineFaults is).lineFaults = run.lineFaults ++ is := rfl

@[simp] lemma call_faults (run : KlvancRun) (c : KlvancCall) :
    (run.call c).faults = run.faults := rfl

@[simp] lemma addFaults_nil (run : KlvancRun) : run.addFaults [] = run := by
  simp [addFaults]

@[simp] lemma addFaults_ctx (run : KlvancRun) (fs : List Fault) :
    (run.addFaults fs).ctx = run.ctx := rfl

@[simp] lemma addFaults_calls (run : KlvancRun) (fs : List Fault) :
    (run.addFaults fs).calls = run.calls := rfl

@[simp] lemma addFaults_faults (run : KlvancRun) (fs : List Fault) :
    (run.addFaults fs).faults = run.faults ++ fs := rfl

@[simp] lemma setFragments_ctx (run : KlvancRun) (s : Scte104Fragments) :
    (run.setFragments s).ctx = { run.ctx with scte104 := s } := rfl

@[simp] lemma setFragments_calls (run : KlvancRun) (s : Scte104Fragments) :
    (run.setFragments s).calls = run.calls := rfl

@[simp] lemma setFragments_faults (run : KlvancRun) (s : Scte104Fragments) :
    (run.setFragments s).faults = run.faults := rfl

end KlvancRun

end Libklvanc
