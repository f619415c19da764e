import Libklvanc.Core.LineStatistics
import Libklvanc.Foundation.Ownership

/-!
# The memory of a context

What the library allocates and frees from `klvanc_context_create` to `klvanc_context_destroy`. The
definitions here follow the same functions as those of the other modules, but compute the pointers:
a block stands for what it points to, and what a function decides by the contents of a block is
asked of the definitions that compute the contents. Allocations succeed. The callbacks free nothing.

The contents are computed on behind a memory fault, which is recorded: a decoder that leaves its
buffer (for a proprietary command shorter than 5 octets, say) and a search on a line of 1 to 6 words
read zeros there. The pointers follow, and so what is shown of a run says what the library does as
long as the run has met no fault.
-/

namespace Libklvanc.Blocks

open Ownership

/-! ### The context -/

/-- `cacheLines`: the array, and the pointers `pkt` of the line entries by index and line. -/
structure Cache where
  array : ℕ
  pkts : ℕ × ℕ → Option ℕ := fun _ => none

/-- `struct klvanc_context_s`: the context, its cache, and the fragments below
`scte104_fragment_count`. -/
structure Context where
  self : ℕ
  cacheLines : Option Cache := none
  scte104Fragments : List ℕ := []

/-- `klvanc_context_create`. -/
def klvancContextCreate : Program Context := do
  let p ← alloc
  pure { self := p }

/-- `klvanc_context_enable_cache`: a cache that is there already is overwritten. -/
def klvancContextEnableCache (ctx : Context) : Program Context := do
  let array ← alloc
  pure { ctx with cacheLines := some { array } }

/-- `klvanc_packet_copy`. -/
def klvancPacketCopy : Program ℕ := alloc

/-- `klvanc_packet_free`. -/
def klvancPacketFree (src : Option ℕ) : Program Unit := freePtr src

/-! ### The cache -/

/-- `klvanc_cache_update`. -/
def klvancCacheUpdate (cache : Option Cache) (pkt : KlvancPacketHeader) : Program (Option Cache) :=
  match cache with
  | none => pure none
  | some c =>
    if 0xff < pkt.did.toNat ∨ 0xff < pkt.dbnsdid.toNat ∨ 2048 ≤ pkt.lineNr then pure (some c)
    else do
      let line := (klvancCacheIndex (lowByte pkt.did) (lowByte pkt.dbnsdid), pkt.lineNr)
      klvancPacketFree (c.pkts line)
      let copy ← klvancPacketCopy
      pure (some { c with pkts := Function.update c.pkts line (some copy) })

/-- The innermost loop of `klvanc_cache_reset`, for the line `l` of the entry `e` at the index
`i`. -/
def resetLine (e : KlvancCache) (i : ℕ) (c : Cache) (l : ℕ) : Program Cache :=
  if (e.lines l).active then do
    klvancPacketFree (c.pkts (i, l))
    pure { c with pkts := Function.update c.pkts (i, l) none }
  else pure c

/-- The body of the loops of `klvanc_cache_reset` over the identifiers. -/
def resetEntry (lines : KlvancCacheLines) (c : Cache) (i : ℕ) : Program Cache :=
  if (lines i).activeCount = 0 then pure c
  else (List.range 2048).foldlM (resetLine (lines i) i) c

/-- `klvanc_cache_reset`, for a cache with the entries `lines`; no entry is visited twice. -/
def klvancCacheReset (lines : KlvancCacheLines) (c : Cache) : Program Cache :=
  klvancCacheIndices.foldlM (resetEntry lines) c

/-- `klvanc_cache_free`. -/
def klvancCacheFree (cacheLines : Option KlvancCacheLines) (cache : Option Cache) : Program Unit :=
  match cacheLines, cache with
  | some lines, some c => do
    let c ← klvancCacheReset lines c
    free c.array
  | _, _ => pure ()

/-! ### Fragments -/

section Fragments

variable (frags : List ℕ)

/-- `messageFragmentAppend`. -/
def messageFragmentAppend : Program (List ℕ) := do
  let copy ← klvancPacketCopy
  pure (frags ++ [copy])

/-- `messageFragmentReset`, and `cleanup_SCTE_104`. -/
def messageFragmentReset : Program (List ℕ) := do
  freeAll frags
  pure []

/-- `messageFragmentFollowing`. -/
def messageFragmentFollowing : Program (List ℕ) :=
  if frags.length = 0 then messageFragmentReset frags
  else if frags.length + 1 = scte104MaxFragments then messageFragmentReset frags
  else messageFragmentAppend frags

/-- `messageFragmentFinal`: the assembled header if there is one, and the fragments left. A header
of which the fragments overflow the payload is not freed. -/
def messageFragmentFinal (contents : Scte104Fragments) (hdr : KlvancPacketHeader) :
    Program (Option ℕ × List ℕ) :=
  if frags.length = 0 then do
    let frags ← messageFragmentReset frags
    pure (none, frags)
  else do
    let frags ← messageFragmentAppend frags
    let dst ← klvancPacketCopy
    let frags ← messageFragmentReset frags
    match (Libklvanc.messageFragmentFinal contents hdr).val.1 with
    | none => pure (none, frags)
    | some _ => pure (some dst, frags)

end Fragments

/-! ### Decoded packets -/

/-- The blocks of a decoded packet. -/
inductive Decoded
  | plain (pkt : ℕ)
  /-- An SCTE-104 message, its array `ops`, and the arrays `data` of its operations. -/
  | scte104 (pkt ops : ℕ) (data : List ℕ)

/-- `klvanc_free_SCTE_104`. -/
def klvancFreeSCTE104 (pkt ops : ℕ) (data : List ℕ) : Program Unit := do
  freeAll data
  free ops
  free pkt

/-- `freeByType`. -/
def freeByType : Decoded → Program Unit
  | .plain pkt => free pkt
  | .scte104 pkt ops data => klvancFreeSCTE104 pkt ops data

/-- `freeByType` of what a decoder has left, if it has left anything. -/
def freeDecoded : Option Decoded → Program Unit
  | none => pure ()
  | some d => freeByType d

/-- The decoders without a bitstream reader; they check what they check before they allocate. -/
def decodePlain (registered accepted : Bool) : Program (Option Decoded) :=
  if registered && accepted then do
    let pkt ← alloc
    pure (some (.plain pkt))
  else pure none

/-- The decoders with a bitstream reader `bs`. -/
def decodeBitstream (registered accepted : Bool) : Program (Option Decoded) :=
  if registered then do
    let bs ← alloc
    let pkt ← alloc
    if accepted then do
      free bs
      pure (some (.plain pkt))
    else do
      free pkt
      free bs
      pure none
  else pure none

section Message

variable (payload : List Byte) (payloadLengthBytes : ℕ)

/-- The loop of `parse_SCTE_104` over the operations, behind those with the arrays `data`; on an
error these are freed. `parse_time_descriptor` reads with a reader of its own. -/
def parseOperations (pos : ℕ) : ℕ → List ℕ → Program (Option (List ℕ))
  | 0, data => pure (some data)
  | count + 1, data => do
    let opID := (readBe16 .messagePayload payload pos).val
    let dataLength := (readBe16 .messagePayload payload (pos + 2)).val
    if payloadLengthBytes < pos + dataLength.toNat then do
      freeAll data
      pure none
    else do
      let d ← alloc
      if MomOperation.ofID opID = some .insertTimeDescriptor then do
        let bs ← alloc
        free bs
        parseOperations (pos + (4 + dataLength.toNat)) count (data ++ [d])
      else parseOperations (pos + (4 + dataLength.toNat)) count (data ++ [d])

/-- The second half of `parse_SCTE_104`, for the message in the block `pkt`. -/
def parseScte104Message (pkt : ℕ) : Program (Option Decoded) := do
  let opID := (readBe16 .messagePayload payload 0).val
  let messageSize := (readBe16 .messagePayload payload 2).val
  let pos := (parseMomTimestamp payload 10).val.2
  let numOps := (readAt .messagePayload payload pos).val
  if opID ≠ 0xffff ∨ payloadLengthBytes < 10 ∨ payloadLengthBytes < messageSize.toNat then do
    free pkt
    pure none
  else do
    let ops ← alloc
    let data ← parseOperations payload payloadLengthBytes (pos + 1) numOps.toNat []
    match data with
    | none => do
      free ops
      free pkt
      pure none
    | some data => pure (some (.scte104 pkt ops data))

end Message

section Decoders

variable (run : KlvancRun) (hdr : KlvancPacketHeader) (frags : List ℕ)

/-- `parse_SCTE_104`: the decoded packet and the fragments left. The assembled header is freed only
behind the callback. -/
def parseSCTE104 : Program (Option Decoded × List ℕ) :=
  if !run.ctx.registered (·.scte104) then pure (none, frags)
  else do
    let pkt ← alloc
    let descriptor := hdr.payloadByte 0
    if descriptor.getLsbD 0 then do
      free pkt
      pure (none, frags)
    else if descriptor ≠ 0x08 then
      match descriptor.getLsbD 2, descriptor.getLsbD 1 with
      | true, false => do
        let frags ← messageFragmentReset frags
        let frags ← messageFragmentAppend frags
        free pkt
        pure (none, frags)
      | true, true => do
        let frags ← messageFragmentFollowing frags
        free pkt
        pure (none, frags)
      | false, true => do
        let (fullhdr, frags) ← messageFragmentFinal frags run.ctx.scte104 hdr
        match fullhdr, (Libklvanc.messageFragmentFinal run.ctx.scte104 hdr).val.1 with
        | some full, some contents => do
          let decoded ← parseScte104Message (messageOctets contents) (messageLength contents) pkt
          match decoded with
          | none => pure (none, frags)
          | some d => do
            klvancPacketFree (some full)
            pure (some d, frags)
        | _, _ => do
          free pkt
          pure (none, frags)
      | false, false => do
        free pkt
        pure (none, frags)
    else do
      let frags ← messageFragmentReset frags
      let decoded ← parseScte104Message (messageOctets hdr) (messageLength hdr) pkt
      pure (decoded, frags)

/-- `parseByType`: the decoded packet, and the fragments left. -/
def parseByType : Program (Option Decoded × List ℕ) :=
  let others (p : Program (Option Decoded)) : Program (Option Decoded × List ℕ) := do
    let decoded ← p
    pure (decoded, frags)
  match hdr.type with
  | .undefined => others (pure none)
  | .klUint64Counter => others (decodePlain (run.ctx.registered (·.klI64leCounter)) true)
  | .afd => others (decodePlain (run.ctx.registered (·.afd)) true)
  | .scte104 => parseSCTE104 run hdr frags
  | .smpteS12_2 =>
    others (decodePlain (run.ctx.registered (·.smpte12_2)) (parseSMPTE12_2 hdr).isOk)
  | .smpteS2108_1 => others (decodeBitstream (run.ctx.registered (·.smpte2108_1)) true)
  | .eia708b =>
    others (decodeBitstream (run.ctx.registered (·.eia708b)) (parseEIA708B hdr).val.isOk)
  | .eia608 => others (decodePlain (run.ctx.registered (·.eia608)) true)
  | .sdp => others (decodePlain (run.ctx.registered (·.sdp)) (parseSDP hdr).isOk)

end Decoders

/-! ### Lines -/

/-- What the loop of `klvanc_packet_parse` does with a packet that `parse` has found. -/
def processPacket (run : KlvancRun) (hdr : KlvancPacketHeader) (ctx : Context) :
    Program Context := do
  let packet ← alloc
  let cacheLines ← klvancCacheUpdate ctx.cacheLines hdr
  if run.ctx.reports hdr then do
    let (decoded, scte104Fragments) ← parseByType run hdr ctx.scte104Fragments
    freeDecoded decoded
    free packet
    pure { ctx with cacheLines, scte104Fragments }
  else do
    free packet
    pure { ctx with cacheLines }

section Lines

variable (lineNr : ℕ) (arr : List Word) (len : ℕ)

/-- The loop of `klvanc_packet_parse`. -/
def klvancPacketParseLoop (bound : ℕ) : ℕ → ℕ → KlvancRun → Context → Program Context
  | 0, _, _, ctx => pure ctx
  | fuel + 1, i, run, ctx =>
    if i < bound then
      match parse run arr i (uintSub len i) with
      | (.error _, run) => klvancPacketParseLoop bound fuel (i + 1) run ctx
      | (.ok hdr, run) => do
        let hdr := { hdr with horizontalOffset := i % 2 ^ 16, lineNr := lineNr }
        let ctx ← processPacket run hdr ctx
        klvancPacketParseLoop bound fuel (i + 7) (Libklvanc.processPacket run hdr) ctx
    else pure ctx

/-- `klvanc_packet_parse`. -/
def klvancPacketParse (run : KlvancRun) (ctx : Context) : Program Context :=
  if len = 0 then pure ctx
  else if packetMaxPayload < len then pure ctx
  else klvancPacketParseLoop lineNr arr len (uintSub len 7) (uintSub len 7) 0 run ctx

end Lines

/-! ### From the first call to the last -/

/-- What an application does with a context between its creation and its destruction. -/
inductive Call
  /-- It calls `klvanc_context_enable_cache`. -/
  | enableCache
  | event (e : ContextEvent)

/-- The run after a call. -/
def Call.run (run : KlvancRun) : Call → KlvancRun
  | enableCache => { run with ctx := (Libklvanc.klvancContextEnableCache run.ctx).2 }
  | event e => e.run run

/-- What a call does to the blocks of the context. -/
def Call.blocks (run : KlvancRun) (ctx : Context) : Call → Program Context
  | enableCache => klvancContextEnableCache ctx
  | event (.line l) => klvancPacketParse l.lineNr l.words l.words.length run ctx
  | event .resetCache =>
    match run.ctx.cacheLines, ctx.cacheLines with
    | some lines, some c => do
      let c ← klvancCacheReset lines c
      pure { ctx with cacheLines := some c }
    | _, _ => pure ctx

/-- The run after some calls, and the blocks of the context. -/
def runCalls : KlvancRun → Context → List Call → Program (KlvancRun × Context)
  | run, ctx, [] => pure (run, ctx)
  | run, ctx, c :: cs => do
    let ctx ← c.blocks run ctx
    runCalls (c.run run) ctx cs

/-- `klvanc_context_destroy`. -/
def klvancContextDestroy (run : KlvancRun) (ctx : Context) : Program Unit := do
  klvancCacheFree run.ctx.cacheLines ctx.cacheLines
  let _ ← messageFragmentReset ctx.scte104Fragments
  free ctx.self

/-- A context is created with the given callbacks, used and destroyed. -/
def lifetime (callbacks : Option KlvancCallbacks) (allowBadChecksums : Bool) (calls : List Call) :
    Program Unit := do
  let ctx ← klvancContextCreate
  let (run, ctx) ←
    runCalls (.start { KlvancContext.create with callbacks, allowBadChecksums }) ctx calls
  klvancContextDestroy run ctx

end Libklvanc.Blocks
