import Libklvanc.Core.Context
import Libklvanc.Foundation.Keyed
import Libklvanc.Foundation.Runs

/-!
# The cache of packets seen

`klvanc_cache_alloc`, `klvanc_cache_lookup` and `klvanc_cache_reset` of `core-cache.c`, and runs of
them together with `klvanc_cache_update`. `CacheHolds c pkts` says that the cache `c` is the record
of the updates `pkts`: each line entry holds the number and the last one of the updates with its
identifiers and its line, and each entry their sum, as far as the counters can hold them. An update
extends the record by one packet (`CacheHolds.update`), and so after a run of updates the cache is
the record of all of them (`klvancCacheUpdate_records`).

A reset looks at the sum first and passes over the entries whose sum is zero. The sum is kept modulo
`2 ^ 32`, and hence a reset leaves an empty record exactly when no entry has seen a positive
multiple of `2 ^ 32` updates since the last one (`resetsForget_iff`).
-/

namespace Libklvanc

/-! ### Lookup and reset -/

/-- `klvanc_cache_alloc`: the array is zeroed. -/
def klvancCacheAlloc : KlvancCacheLines := fun _ => {}

/-- `klvanc_cache_lookup`. -/
def klvancCacheLookup (lines : KlvancCacheLines) (didnr sdidnr : Byte) : KlvancCache :=
  lines (klvancCacheIndex didnr sdidnr)

/-- The innermost loop of `klvanc_cache_reset`: clear a line entry that is active. -/
def KlvancCacheLine.reset (line : KlvancCacheLine) : KlvancCacheLine :=
  if line.active then { active := false, count := 0, pkt := none } else line

/-- The body of the loops of `klvanc_cache_reset` over the identifiers. -/
def KlvancCache.reset (e : KlvancCache) : KlvancCache :=
  if e.activeCount = 0 then e
  else
    { e with
      activeCount := 0
      lines := (List.range 2048).foldl
        (fun lines l => Function.update lines l (lines l).reset) e.lines }

/-- The indices of the cache entries in the order in which `klvanc_cache_reset` visits them. -/
def klvancCacheIndices : List ℕ :=
  (List.range 256).flatMap fun d => (List.range 256).map fun s =>
    klvancCacheIndex (BitVec.ofNat 8 d) (BitVec.ofNat 8 s)

/-- `klvanc_cache_reset`, on the cache of the context if there is one. -/
def klvancCacheReset (cacheLines : Option KlvancCacheLines) : Option KlvancCacheLines :=
  cacheLines.map fun lines => klvancCacheIndices.foldl
    (fun lines i => Function.update lines i (lines i).reset) lines

/-! ### The record of a list of updates -/

section Hits

variable (did sdid : Byte) (line : Fin 2048) (pkts : List KlvancPacketHeader)

/-- The updates that `klvanc_cache_update` accepts for an entry. -/
def entryHits : List KlvancPacketHeader :=
  pkts.filter fun pkt =>
    pkt.did = did.setWidth 16 ∧ pkt.dbnsdid = sdid.setWidth 16 ∧ pkt.lineNr < 2048

/-- The updates that `klvanc_cache_update` accepts for a line entry. -/
def lineHits : List KlvancPacketHeader :=
  pkts.filter fun pkt =>
    pkt.did = did.setWidth 16 ∧ pkt.dbnsdid = sdid.setWidth 16 ∧ pkt.lineNr = line

end Hits

/-- The line entry after the updates `hits` of it. -/
def lineRecord (hits : List KlvancPacketHeader) : KlvancCacheLine where
  active := !hits.isEmpty
  count := BitVec.ofNat 64 hits.length
  pkt := hits.getLast?

/-- The cache is the record of the updates `pkts`. -/
structure CacheHolds (c : KlvancCacheLines) (pkts : List KlvancPacketHeader) : Prop where
  activeCount : ∀ did sdid : Byte,
    (klvancCacheLookup c did sdid).activeCount = BitVec.ofNat 32 (entryHits did sdid pkts).length
  lines : ∀ (did sdid : Byte) (line : Fin 2048),
    (klvancCacheLookup c did sdid).lines line = lineRecord (lineHits did sdid line pkts)

section Index

variable {d d' s s' : Byte}

/-- Different identifiers have different entries. -/
lemma klvancCacheIndex_inj :
    klvancCacheIndex d s = klvancCacheIndex d' s' ↔ d = d' ∧ s = s' := by
  have hs := s.isLt
  have hs' := s'.isLt
  constructor
  · intro h
    unfold klvancCacheIndex at h
    exact ⟨BitVec.eq_of_toNat_eq (by omega), BitVec.eq_of_toNat_eq (by omega)⟩
  · rintro ⟨rfl, rfl⟩
    rfl

/-- Every pair of identifiers is visited. -/
lemma klvancCacheIndex_mem (d s : Byte) : klvancCacheIndex d s ∈ klvancCacheIndices := by
  refine List.mem_flatMap.mpr ⟨d.toNat, List.mem_range.mpr d.isLt, List.mem_map.mpr
    ⟨s.toNat, List.mem_range.mpr s.isLt, ?_⟩⟩
  rw [BitVec.ofNat_toNat, BitVec.ofNat_toNat, BitVec.setWidth_eq, BitVec.setWidth_eq]

/-- No pair of identifiers is visited twice. -/
lemma klvancCacheIndices_nodup : klvancCacheIndices.Nodup := by
  have hbyte : ∀ {a b : ℕ}, a < 256 → b < 256 → BitVec.ofNat 8 a = BitVec.ofNat 8 b → a = b := by
    intro a b ha hb h
    have hnat := congrArg BitVec.toNat h
    rwa [BitVec.toNat_ofNat, BitVec.toNat_ofNat, Nat.mod_eq_of_lt ha, Nat.mod_eq_of_lt hb] at hnat
  refine List.nodup_flatMap.mpr ⟨fun d _ => ?_, ?_⟩
  · refine List.Nodup.map_on (fun a ha b hb h => ?_) List.nodup_range
    rw [List.mem_range] at ha hb
    exact hbyte ha hb (klvancCacheIndex_inj.mp h).2
  · refine List.nodup_range.imp_of_mem ?_
    intro a b ha hb hne i hi hi'
    rw [List.mem_range] at ha hb
    obtain ⟨s, -, rfl⟩ := List.mem_map.mp hi
    obtain ⟨s', -, h⟩ := List.mem_map.mp hi'
    exact hne (hbyte ha hb (klvancCacheIndex_inj.mp h).1.symm)

end Index

/-! ### Updates -/

/-- The packets that `klvanc_cache_update` refuses. -/
def CacheRefuses (pkt : KlvancPacketHeader) : Prop :=
  0xff < pkt.did.toNat ∨ 0xff < pkt.dbnsdid.toNat ∨ 2048 ≤ pkt.lineNr

instance (pkt : KlvancPacketHeader) : Decidable (CacheRefuses pkt) := by
  unfold CacheRefuses
  infer_instance

section Update

variable {c : KlvancCacheLines} {pkts : List KlvancPacketHeader} {pkt : KlvancPacketHeader}
  {did sdid : Byte} {line : Fin 2048}

/-- A refused update changes nothing. -/
lemma klvancCacheUpdate_of_refused (h : CacheRefuses pkt) :
    klvancCacheUpdate (some c) pkt = (some c, -1) :=
  if_pos h

/-- An accepted update changes the entry of its identifiers. -/
lemma klvancCacheUpdate_of_accepted (h : ¬CacheRefuses pkt) :
    klvancCacheUpdate (some c) pkt = (some (Function.update c
      (klvancCacheIndex (lowByte pkt.did) (lowByte pkt.dbnsdid))
      ((klvancCacheLookup c (lowByte pkt.did) (lowByte pkt.dbnsdid)).record pkt)), 0) :=
  if_neg h

/-- The identifier of an accepted packet is its low octet. -/
lemma eq_setWidth_iff {w : Word} {b : Byte} :
    w = b.setWidth 16 ↔ w.toNat ≤ 0xff ∧ lowByte w = b := by
  have hb := b.isLt
  constructor
  · rintro rfl
    refine ⟨?_, by simp⟩
    rw [BitVec.toNat_setWidth]
    omega
  · rintro ⟨hw, rfl⟩
    apply BitVec.eq_of_toNat_eq
    simp only [lowByte, BitVec.toNat_setWidth]
    omega

/-- The hits of an entry are the accepted updates with its identifiers. -/
lemma entryHits_eq :
    entryHits did sdid pkts = pkts.filter fun pkt => decide (¬CacheRefuses pkt ∧
      lowByte pkt.did = did ∧ lowByte pkt.dbnsdid = sdid) := by
  refine List.filter_congr fun pkt _ => decide_eq_decide.mpr ?_
  rw [eq_setWidth_iff, eq_setWidth_iff, CacheRefuses, not_or, not_or, not_lt, not_lt, not_le]
  tauto

/-- The hits of a line entry are those of its entry with its line. -/
lemma lineHits_eq :
    lineHits did sdid line pkts =
      (entryHits did sdid pkts).filter fun pkt => decide (pkt.lineNr = (line : ℕ)) := by
  have hline := line.isLt
  rw [lineHits, entryHits, List.filter_filter]
  refine List.filter_congr fun pkt _ => ?_
  rw [← Bool.decide_and]
  refine decide_eq_decide.mpr ⟨?_, ?_⟩
  · rintro ⟨hdid, hsdid, hlineNr⟩
    exact ⟨hlineNr, hdid, hsdid, by omega⟩
  · rintro ⟨hlineNr, hdid, hsdid, -⟩
    exact ⟨hdid, hsdid, hlineNr⟩

/-- Recording a packet counts it. -/
lemma record_activeCount (s : KlvancCache) (pkt : KlvancPacketHeader) :
    (s.record pkt).activeCount = s.activeCount + 1 := by
  unfold KlvancCache.record
  dsimp only
  split_ifs <;> rfl

/-- Recording a packet changes the line entry of its line. -/
lemma record_lines (s : KlvancCache) (pkt : KlvancPacketHeader) :
    (s.record pkt).lines = Function.update s.lines pkt.lineNr
      { active := true, count := (s.lines pkt.lineNr).count + 1, pkt := some pkt } := by
  unfold KlvancCache.record
  dsimp only
  split_ifs <;> rfl

/-- The line entry after one more update. -/
lemma lineRecord_append (hits : List KlvancPacketHeader) (pkt : KlvancPacketHeader) :
    lineRecord (hits ++ [pkt]) =
      { active := true, count := (lineRecord hits).count + 1, pkt := some pkt } := by
  simp [lineRecord, BitVec.ofNat_add]

/-- Looking an entry up after an accepted update. -/
lemma klvancCacheLookup_update (e : KlvancCache) (did' sdid' : Byte) :
    klvancCacheLookup (Function.update c (klvancCacheIndex did' sdid') e) did sdid =
      if did' = did ∧ sdid' = sdid then e else klvancCacheLookup c did sdid := by
  unfold klvancCacheLookup
  rw [Function.update_apply]
  simp only [klvancCacheIndex_inj, eq_comm]

/-- A freshly allocated cache is the record of no update. -/
lemma CacheHolds.alloc : CacheHolds klvancCacheAlloc [] where
  activeCount _ _ := rfl
  lines _ _ _ := rfl

/-- An update extends the record by one packet. -/
lemma CacheHolds.update (h : CacheHolds c pkts) (pkt : KlvancPacketHeader) :
    ∃ c', (klvancCacheUpdate (some c) pkt).1 = some c' ∧ CacheHolds c' (pkts ++ [pkt]) := by
  by_cases href : CacheRefuses pkt
  · rw [klvancCacheUpdate_of_refused href]
    have hentry : ∀ did sdid : Byte, entryHits did sdid (pkts ++ [pkt]) =
        entryHits did sdid pkts := by
      intro did sdid
      rw [entryHits_eq, entryHits_eq, List.filter_append]
      simp [href]
    refine ⟨c, rfl, fun did sdid => ?_, fun did sdid line => ?_⟩
    · rw [hentry, h.activeCount]
    · rw [lineHits_eq, hentry, ← lineHits_eq, h.lines]
  · rw [klvancCacheUpdate_of_accepted href]
    have hentry : ∀ did sdid : Byte, entryHits did sdid (pkts ++ [pkt]) =
        entryHits did sdid pkts ++
          if lowByte pkt.did = did ∧ lowByte pkt.dbnsdid = sdid then [pkt] else [] := by
      intro did sdid
      rw [entryHits_eq, entryHits_eq, List.filter_append, List.filter_singleton]
      simp [href]
    refine ⟨_, rfl, fun did sdid => ?_, fun did sdid line => ?_⟩
    · rw [klvancCacheLookup_update, hentry]
      split_ifs with hid
      · obtain ⟨rfl, rfl⟩ := hid
        rw [record_activeCount, h.activeCount, List.length_append, List.length_singleton,
          BitVec.ofNat_add]
        rfl
      · rw [List.append_nil, h.activeCount]
    · rw [klvancCacheLookup_update, lineHits_eq, hentry]
      split_ifs with hid
      · obtain ⟨rfl, rfl⟩ := hid
        rw [record_lines, Function.update_apply, List.filter_append, ← lineHits_eq]
        by_cases hline : pkt.lineNr = line
        · rw [if_pos hline.symm, hline, h.lines, List.filter_cons_of_pos (by simpa using hline),
            List.filter_nil, lineRecord_append]
        · rw [if_neg (fun heq => hline heq.symm), h.lines,
            List.filter_cons_of_neg (by simpa using hline), List.filter_nil, List.append_nil]
      · rw [List.append_nil, ← lineHits_eq, h.lines]

/-- The sum of the counters of the line entries. -/
lemma CacheHolds.sum_count (h : CacheHolds c pkts) (did sdid : Byte) :
    (klvancCacheLookup c did sdid).activeCount =
      BitVec.ofNat 32 (∑ line : Fin 2048,
        ((klvancCacheLookup c did sdid).lines line).count.toNat) := by
  have hkey : ∀ line : Fin 2048, lineHits did sdid line pkts =
      (entryHits did sdid pkts).filter fun pkt => decide (Fin.ofNat 2048 pkt.lineNr = line) := by
    intro line
    rw [lineHits_eq]
    refine List.filter_congr fun pkt hpkt => decide_eq_decide.mpr ?_
    have hlt : pkt.lineNr < 2048 := by
      have hmem := List.of_mem_filter hpkt
      rw [decide_eq_true_eq] at hmem
      exact hmem.2.2
    rw [Fin.ext_iff, Fin.val_ofNat, Nat.mod_eq_of_lt hlt]
  rw [h.activeCount, ← @Keyed.sum_length_filter _ _ _ (fun pkt => Fin.ofNat 2048 pkt.lineNr)]
  apply BitVec.eq_of_toNat_eq
  rw [BitVec.toNat_ofNat, BitVec.toNat_ofNat, Finset.sum_nat_mod,
    Finset.sum_nat_mod Finset.univ (2 ^ 32) fun line : Fin 2048 =>
      ((klvancCacheLookup c did sdid).lines line).count.toNat]
  refine congrArg (· % 2 ^ 32) (Finset.sum_congr rfl fun line _ => ?_)
  rw [h.lines, hkey, lineRecord, BitVec.toNat_ofNat, Nat.mod_mod_of_dvd _ (by norm_num)]

end Update

/-! ### Resets -/

section Reset

variable {c : KlvancCacheLines} {pkts : List KlvancPacketHeader} {did sdid : Byte}

/-- No line entry is active, counts anything or holds a packet, and no sum is left. -/
structure CacheForgotten (c : KlvancCacheLines) : Prop where
  activeCount : ∀ did sdid : Byte, (klvancCacheLookup c did sdid).activeCount = 0
  active : ∀ (did sdid : Byte) (line : Fin 2048),
    ((klvancCacheLookup c did sdid).lines line).active = false
  count : ∀ (did sdid : Byte) (line : Fin 2048),
    ((klvancCacheLookup c did sdid).lines line).count = 0
  pkt : ∀ (did sdid : Byte) (line : Fin 2048),
    ((klvancCacheLookup c did sdid).lines line).pkt = none

/-- A record of no update has nothing in it. -/
lemma CacheHolds.forgotten (h : CacheHolds c []) : CacheForgotten c where
  activeCount := h.activeCount
  active did sdid line := by
    rw [h.lines]
    rfl
  count did sdid line := by
    rw [h.lines]
    rfl
  pkt did sdid line := by
    rw [h.lines]
    rfl

/-- A reset visits every entry once. -/
lemma klvancCacheReset_eq (c : KlvancCacheLines) :
    ∃ c', klvancCacheReset (some c) = some c' ∧
      ∀ did sdid, klvancCacheLookup c' did sdid = (klvancCacheLookup c did sdid).reset := by
  refine ⟨_, rfl, fun did sdid => ?_⟩
  have hvisit := Keyed.foldl_keys_apply (f := KlvancCache.reset) klvancCacheIndices_nodup c
    (klvancCacheIndex did sdid)
  rwa [if_pos (klvancCacheIndex_mem did sdid)] at hvisit

/-- A reset visits every line entry of an entry that it does not pass over once. -/
lemma reset_lines {e : KlvancCache} (h : e.activeCount ≠ 0) (line : Fin 2048) :
    e.reset.lines line = (e.lines line).reset := by
  have hstep : (fun (lines : ℕ → KlvancCacheLine) l => Function.update lines l (lines l).reset) =
      Keyed.step id fun line _ => line.reset := rfl
  rw [KlvancCache.reset, if_neg h]
  dsimp only
  rw [hstep, Keyed.foldl_keys_apply List.nodup_range, if_pos (List.mem_range.mpr line.isLt)]

/-- Clearing a line entry leaves the record of no update. -/
lemma lineRecord_reset (hits : List KlvancPacketHeader) :
    (lineRecord hits).reset = lineRecord [] := by
  cases hits <;> rfl

/-- An entry without hits has none on any line. -/
lemma lineHits_eq_nil (h : entryHits did sdid pkts = []) (line : Fin 2048) :
    lineHits did sdid line pkts = [] := by
  rw [lineHits_eq, h, List.filter_nil]

/-- A reset of a record in which every sum that is zero says that nothing was seen leaves the record
of no update. -/
lemma CacheHolds.reset (h : CacheHolds c pkts)
    (hsums : ∀ did sdid : Byte, 2 ^ 32 ∣ (entryHits did sdid pkts).length →
      entryHits did sdid pkts = []) :
    ∃ c', klvancCacheReset (some c) = some c' ∧ CacheHolds c' [] := by
  obtain ⟨c', hreset, hlookup⟩ := klvancCacheReset_eq c
  have hzero : ∀ did sdid : Byte, (klvancCacheLookup c did sdid).activeCount = 0 →
      entryHits did sdid pkts = [] := by
    intro did sdid hcount
    rw [h.activeCount] at hcount
    have hnat := congrArg BitVec.toNat hcount
    rw [BitVec.toNat_ofNat] at hnat
    exact hsums did sdid (Nat.dvd_of_mod_eq_zero hnat)
  refine ⟨c', hreset, fun did sdid => ?_, fun did sdid line => ?_⟩
  · rw [hlookup, KlvancCache.reset]
    split_ifs with hcount
    · exact hcount
    · rfl
  · rw [hlookup]
    by_cases hcount : (klvancCacheLookup c did sdid).activeCount = 0
    · rw [KlvancCache.reset, if_pos hcount, h.lines, lineHits_eq_nil (hzero did sdid hcount)]
      rfl
    · rw [reset_lines hcount, h.lines, lineRecord_reset]
      rfl

/-- A reset passes over an entry whose sum has wrapped to zero. -/
lemma CacheHolds.not_forgotten (h : CacheHolds c pkts)
    (hwrap : 2 ^ 32 ∣ (entryHits did sdid pkts).length) (hne : entryHits did sdid pkts ≠ [])
    {c' : KlvancCacheLines} (hreset : klvancCacheReset (some c) = some c') :
    ¬CacheForgotten c' := by
  obtain ⟨c'', hreset', hlookup⟩ := klvancCacheReset_eq c
  obtain rfl : c' = c'' := Option.some.inj (hreset.symm.trans hreset')
  intro hforgotten
  have hcount : (klvancCacheLookup c did sdid).activeCount = 0 := by
    rw [h.activeCount]
    apply BitVec.eq_of_toNat_eq
    rw [BitVec.toNat_ofNat, Nat.mod_eq_zero_of_dvd hwrap]
    rfl
  obtain ⟨pkt, hpkt⟩ := List.exists_mem_of_ne_nil _ hne
  have hlt : pkt.lineNr < 2048 := by
    have hmem := List.of_mem_filter hpkt
    rw [decide_eq_true_eq] at hmem
    exact hmem.2.2
  -- the line of any packet seen is still active
  have hactive := hforgotten.active did sdid ⟨pkt.lineNr, hlt⟩
  rw [hlookup, KlvancCache.reset, if_pos hcount, h.lines, lineRecord, Bool.not_eq_false',
    List.isEmpty_iff, lineHits_eq] at hactive
  have hin : pkt ∈ (entryHits did sdid pkts).filter fun p => decide (p.lineNr = pkt.lineNr) :=
    List.mem_filter.mpr ⟨hpkt, by simp⟩
  rw [hactive] at hin
  exact List.not_mem_nil hin

end Reset

/-! ### Runs -/

/-- An operation on the cache. -/
inductive CacheOp
  /-- `klvanc_cache_update`. -/
  | update (pkt : KlvancPacketHeader)
  /-- `klvanc_cache_reset`. -/
  | reset
  deriving DecidableEq

/-- The cache after an operation. -/
def CacheOp.run (cacheLines : Option KlvancCacheLines) : CacheOp → Option KlvancCacheLines
  | .update pkt => (klvancCacheUpdate cacheLines pkt).1
  | .reset => klvancCacheReset cacheLines

/-- The cache after a run of operations on a freshly allocated one. -/
def cacheRun (ops : List CacheOp) : Option KlvancCacheLines :=
  ops.foldl CacheOp.run (some klvancCacheAlloc)

section Run

variable {ops pre : List CacheOp} {c : KlvancCacheLines} {pkts later : List KlvancPacketHeader}

lemma cacheRun_append (ops : List CacheOp) (op : CacheOp) :
    cacheRun (ops ++ [op]) = op.run (cacheRun ops) := by
  simp [cacheRun]

/-- A run of updates extends the record by all of them. -/
lemma cacheRun_updates (hrun : cacheRun ops = some c) (h : CacheHolds c pkts)
    (later : List KlvancPacketHeader) :
    ∃ c', cacheRun (ops ++ later.map .update) = some c' ∧ CacheHolds c' (pkts ++ later) := by
  induction later using List.reverseRecOn with
  | nil =>
    rw [List.map_nil, List.append_nil, List.append_nil]
    exact ⟨c, hrun, h⟩
  | append_singleton later pkt ih =>
    obtain ⟨c', hrun', h'⟩ := ih
    obtain ⟨c'', hupdate, h''⟩ := h'.update pkt
    refine ⟨c'', ?_, by rwa [← List.append_assoc]⟩
    rw [List.map_append, ← List.append_assoc, List.map_singleton, cacheRun_append, hrun']
    exact hupdate

/-- The fields of the cache against the updates `pkts`: a line entry is active, and holds a packet,
exactly when there was an accepted update of it; the count is their number and the packet the last
of them; and the sum of an entry is that of its lines, as far as the counters hold them. -/
structure CacheRecords (c : KlvancCacheLines) (pkts : List KlvancPacketHeader) : Prop where
  active_iff : ∀ (did sdid : Byte) (line : Fin 2048),
    ((klvancCacheLookup c did sdid).lines line).active = true ↔ lineHits did sdid line pkts ≠ []
  pkt_iff : ∀ (did sdid : Byte) (line : Fin 2048),
    ((klvancCacheLookup c did sdid).lines line).pkt.isSome = true ↔
      lineHits did sdid line pkts ≠ []
  count : ∀ (did sdid : Byte) (line : Fin 2048),
    ((klvancCacheLookup c did sdid).lines line).count.toNat =
      (lineHits did sdid line pkts).length % 2 ^ 64
  pkt : ∀ (did sdid : Byte) (line : Fin 2048),
    ((klvancCacheLookup c did sdid).lines line).pkt = (lineHits did sdid line pkts).getLast?
  activeCount : ∀ did sdid : Byte, (klvancCacheLookup c did sdid).activeCount.toNat =
    (∑ line : Fin 2048, ((klvancCacheLookup c did sdid).lines line).count.toNat) % 2 ^ 32

/-- A record answers for each of its fields. -/
lemma CacheHolds.records (h : CacheHolds c pkts) : CacheRecords c pkts where
  active_iff did sdid line := by
    rw [h.lines]
    cases lineHits did sdid line pkts <;> simp [lineRecord]
  pkt_iff did sdid line := by
    rw [h.lines, lineRecord, List.getLast?_isSome]
  count did sdid line := by
    rw [h.lines, lineRecord, BitVec.toNat_ofNat]
  pkt did sdid line := by
    rw [h.lines, lineRecord]
  activeCount did sdid := by
    rw [h.sum_count, BitVec.toNat_ofNat]

/-- The updates since the last reset. -/
def sinceReset (ops : List CacheOp) : List KlvancPacketHeader :=
  ops.foldl (fun pkts op => match op with
    | .update pkt => pkts ++ [pkt]
    | .reset => []) []

/-- At every reset of a run, an entry has seen no positive multiple of `2 ^ 32` updates since the
one before. -/
def SumsUnwrapped (ops : List CacheOp) : Prop :=
  ∀ pre, pre ++ [.reset] <+: ops → ∀ did sdid : Byte,
    2 ^ 32 ∣ (entryHits did sdid (sinceReset pre)).length →
      (entryHits did sdid (sinceReset pre)).length = 0

/-- Two caches with the same sums and the same line entries. -/
def SameStatistics (c c' : KlvancCacheLines) : Prop :=
  ∀ did sdid : Byte,
    (klvancCacheLookup c did sdid).activeCount = (klvancCacheLookup c' did sdid).activeCount ∧
      ∀ line : Fin 2048,
        (klvancCacheLookup c did sdid).lines line = (klvancCacheLookup c' did sdid).lines line

/-- Every reset of a run forgets everything, and updates after it leave the same statistics as on a
freshly allocated cache. -/
def ResetsForget (ops : List CacheOp) : Prop :=
  ∀ pre, pre ++ [.reset] <+: ops → ∃ c, cacheRun (pre ++ [.reset]) = some c ∧ CacheForgotten c ∧
    ∀ later : List KlvancPacketHeader, ∃ c₁ c₂,
      cacheRun (pre ++ [.reset] ++ later.map .update) = some c₁ ∧
      cacheRun (later.map .update) = some c₂ ∧ SameStatistics c₁ c₂

lemma sinceReset_append_update (ops : List CacheOp) (pkt : KlvancPacketHeader) :
    sinceReset (ops ++ [.update pkt]) = sinceReset ops ++ [pkt] := by
  simp [sinceReset]

lemma sinceReset_append_reset (ops : List CacheOp) : sinceReset (ops ++ [.reset]) = [] := by
  simp [sinceReset]

lemma sinceReset_updates (pkts : List KlvancPacketHeader) :
    sinceReset (pkts.map .update) = pkts := by
  induction pkts using List.reverseRecOn with
  | nil => rfl
  | append_singleton pkts pkt ih =>
    rw [List.map_append, List.map_singleton, sinceReset_append_update, ih]

/-- The resets of a shorter run. -/
lemma SumsUnwrapped.of_prefix (h : SumsUnwrapped ops) (hpre : pre <+: ops) : SumsUnwrapped pre :=
  fun pre' hpre' => h pre' (hpre'.trans hpre)

/-- As long as no sum has wrapped at a reset, the cache is the record of the updates since the last
one. -/
lemma cacheRun_holds (h : SumsUnwrapped ops) :
    ∃ c, cacheRun ops = some c ∧ CacheHolds c (sinceReset ops) := by
  induction ops using List.reverseRecOn with
  | nil => exact ⟨_, rfl, CacheHolds.alloc⟩
  | append_singleton ops op ih =>
    obtain ⟨c, hrun, hc⟩ := ih (h.of_prefix (List.prefix_append _ _))
    rw [cacheRun_append, hrun]
    cases op with
    | update pkt =>
      rw [sinceReset_append_update]
      exact hc.update pkt
    | reset =>
      rw [sinceReset_append_reset]
      refine hc.reset fun did sdid hdvd => ?_
      exact List.eq_nil_of_length_eq_zero (h ops (List.prefix_refl _) did sdid hdvd)

/-- Where no sum has wrapped, every reset forgets everything. -/
lemma SumsUnwrapped.resetsForget (h : SumsUnwrapped ops) : ResetsForget ops := by
  intro pre hpre
  obtain ⟨c, hrun, hc⟩ := cacheRun_holds (h.of_prefix hpre)
  rw [sinceReset_append_reset] at hc
  refine ⟨c, hrun, hc.forgotten, fun later => ?_⟩
  obtain ⟨c₁, hrun₁, h₁⟩ := cacheRun_updates hrun hc later
  obtain ⟨c₂, hrun₂, h₂⟩ := @cacheRun_updates [] klvancCacheAlloc [] rfl CacheHolds.alloc later
  refine ⟨c₁, c₂, hrun₁, hrun₂, fun did sdid => ⟨?_, fun line => ?_⟩⟩
  · rw [h₁.activeCount, h₂.activeCount]
  · rw [h₁.lines, h₂.lines]

/-- Where every reset forgets everything, no sum has wrapped at one. -/
lemma ResetsForget.sumsUnwrapped (h : ResetsForget ops) : SumsUnwrapped ops := by
  -- the sums at the resets before are not wrapped, and so the cache is the record of what came
  -- since
  refine Runs.forall_points fun pre hpre hunwrapped did sdid hdvd => ?_
  by_contra hne
  obtain ⟨c, hrun, hc⟩ := cacheRun_holds hunwrapped
  obtain ⟨c', hrun', hforgotten, -⟩ := h pre hpre
  rw [cacheRun_append, hrun] at hrun'
  exact hc.not_forgotten hdvd (fun hnil => hne (congrArg List.length hnil)) hrun' hforgotten

/-- A closed caption packet on line 9. -/
def cachedPacket : KlvancPacketHeader where
  type := .eia708b
  adf := (0x000, 0x3ff, 0x3ff)
  did := 0x61
  dbnsdid := 0x01
  checksum := 0
  payload := []
  checksumValid := true
  lineNr := 9
  raw := []
  rawLengthWords := 0
  horizontalOffset := 0

lemma entryHits_replicate (n : ℕ) :
    entryHits 0x61 0x01 (List.replicate n cachedPacket) = List.replicate n cachedPacket := by
  rw [entryHits, List.filter_replicate, if_pos (by decide)]

lemma lineHits_replicate (n : ℕ) :
    lineHits 0x61 0x01 9 (List.replicate n cachedPacket) = List.replicate n cachedPacket := by
  rw [lineHits, List.filter_replicate, if_pos (by decide)]

/-- After every run of updates, the line entry of a line is active, and holds a packet, exactly when
there was an accepted update of it; the count is their number modulo `2 ^ 64`, and the packet is the
last of them; and the sum of an entry is that of its lines modulo `2 ^ 32`. One more update is
refused exactly when an identifier exceeds an octet or the line is 2048 or more, and leaves the
cache as it is then; otherwise it leaves the line entries of the other identifiers and lines as they
are. -/
theorem klvancCacheUpdate_records (pkts : List KlvancPacketHeader) :
    ∃ c, cacheRun (pkts.map .update) = some c ∧ CacheRecords c pkts ∧
      ∀ pkt, ((klvancCacheUpdate (some c) pkt).2 < 0 ↔
          0xff < pkt.did.toNat ∨ 0xff < pkt.dbnsdid.toNat ∨ 2048 ≤ pkt.lineNr) ∧
        ((klvancCacheUpdate (some c) pkt).2 < 0 → (klvancCacheUpdate (some c) pkt).1 = some c) ∧
        ∃ c', (klvancCacheUpdate (some c) pkt).1 = some c' ∧
          ∀ (did sdid : Byte) (line : Fin 2048),
            ¬(pkt.did = did.setWidth 16 ∧ pkt.dbnsdid = sdid.setWidth 16 ∧ pkt.lineNr = line) →
            (klvancCacheLookup c' did sdid).lines line =
              (klvancCacheLookup c did sdid).lines line := by
  obtain ⟨c, hrun, hc⟩ := @cacheRun_updates [] klvancCacheAlloc [] rfl CacheHolds.alloc pkts
  refine ⟨c, hrun, hc.records, fun pkt => ?_⟩
  obtain ⟨c', hupdate, hc'⟩ := hc.update pkt
  refine ⟨?_, ?_, c', hupdate, fun did sdid line hother => ?_⟩
  · change _ ↔ CacheRefuses pkt
    by_cases href : CacheRefuses pkt
    · simp [klvancCacheUpdate_of_refused href, href]
    · simp [klvancCacheUpdate_of_accepted href, href]
  · by_cases href : CacheRefuses pkt
    · rw [klvancCacheUpdate_of_refused href]
      exact fun _ => rfl
    · rw [klvancCacheUpdate_of_accepted href]
      exact fun hlt => absurd hlt (lt_irrefl 0)
  · have hnone : lineHits did sdid line [pkt] = [] := by
      rw [lineHits, List.filter_cons_of_neg (by simpa using hother), List.filter_nil]
    have happend : lineHits did sdid line (pkts ++ [pkt]) = lineHits did sdid line pkts := by
      rw [lineHits, List.filter_append, ← lineHits, ← lineHits, hnone, List.append_nil]
    rw [hc'.lines, hc.lines, List.nil_append, happend]

/-- An update of identifiers and a line that the cache has not seen leaves the records of two
earlier packets alone. -/
theorem klvancCacheUpdate_records_two :
    ∃ c c', cacheRun ([cachedPacket, cachedPacket].map .update) = some c ∧
      (klvancCacheUpdate (some c) { cachedPacket with lineNr := 10 }).1 = some c' ∧
      ((klvancCacheLookup c' 0x61 0x01).lines 9).count.toNat = 2 := by
  obtain ⟨c, hrun, hc, hupdate⟩ := klvancCacheUpdate_records [cachedPacket, cachedPacket]
  obtain ⟨-, -, c', hc', hframe⟩ := hupdate { cachedPacket with lineNr := 10 }
  refine ⟨c, c', hrun, hc', ?_⟩
  have hcount := hc.count 0x61 0x01 9
  rw [← hframe 0x61 0x01 9 (by decide)] at hcount
  exact hcount.trans (by decide)

/-- The count of a line entry that has seen `2 ^ 64` updates is zero. -/
theorem not_klvancCacheUpdate_counts :
    ¬∀ (pkts : List KlvancPacketHeader) (c : KlvancCacheLines),
      cacheRun (pkts.map .update) = some c → ∀ (did sdid : Byte) (line : Fin 2048),
        (((klvancCacheLookup c did sdid).lines line).active = true ↔
          ((klvancCacheLookup c did sdid).lines line).count ≠ 0) ∧
        ((klvancCacheLookup c did sdid).lines line).count.toNat =
          (lineHits did sdid line pkts).length := by
  intro h
  obtain ⟨c, hrun, hc⟩ := @cacheRun_updates [] klvancCacheAlloc [] rfl CacheHolds.alloc
    (List.replicate (2 ^ 64) cachedPacket)
  have hcounts := (h _ c hrun 0x61 0x01 9).2
  rw [hc.records.count, List.nil_append, lineHits_replicate, List.length_replicate] at hcounts
  norm_num at hcounts

/-- In a run of updates and resets every reset forgets everything, with the same statistics
afterwards as on a freshly allocated cache, exactly when at no reset an entry has seen a positive
multiple of `2 ^ 32` updates since the one before. -/
theorem resetsForget_iff : ResetsForget ops ↔ SumsUnwrapped ops :=
  ⟨ResetsForget.sumsUnwrapped, SumsUnwrapped.resetsForget⟩

end Run

/-- After `2 ^ 32` updates of one entry a reset passes over it. -/
theorem not_resetsForget_wrapped : ¬∀ ops : List CacheOp, ResetsForget ops := by
  intro h
  have hunwrapped := (h ((List.replicate (2 ^ 32) cachedPacket).map .update ++
    [.reset])).sumsUnwrapped
  have hsum := hunwrapped _ (List.prefix_refl _) 0x61 0x01
  rw [sinceReset_updates, entryHits_replicate, List.length_replicate] at hsum
  exact absurd (hsum dvd_rfl) (by norm_num)

end Libklvanc
