import Libklvanc.Core.Blocks
import Libklvanc.Scte104.Reassembly

/-!
# No block is freed twice, and which ones are never freed

Whatever an application does with a context, no block is freed twice, and the destruction of the
context leaves exactly the blocks that some call before has let go of (`lifetime_lost`): the header
assembled from fragments that make no message, a cache that is enabled over with all it holds, and
the packets in the entries that `klvanc_cache_reset` passes over. With one cache whose sums do not
wrap, only the headers are left (`lifetime_fragments`).

Every block has one owner throughout (`Context.owned`), and the pointers of the context are null
where the contents that the other modules compute have nothing (`Mirrors`). Each function hands on
the blocks that it is given but for those it lets go of. The contents are computed on behind memory
faults of the decoders; the results are about the library in runs without one.
-/

namespace Libklvanc.Blocks

open Ownership

/-! ### Owners -/

/-- The line entries of the cache; too many for a proof to list them. -/
@[irreducible] def cacheKeys : Finset (ℕ × ℕ) := Finset.range 65536 ×ˢ Finset.range 2048

lemma mem_cacheKeys {i l : ℕ} : (i, l) ∈ cacheKeys ↔ i < 65536 ∧ l < 2048 := by
  unfold cacheKeys
  simp only [Finset.mem_product, Finset.mem_range]

/-- The blocks of a cache. -/
def Cache.owned (c : Cache) : Multiset ℕ := {c.array} + table cacheKeys c.pkts

/-- The blocks of a cache that may be there. -/
def ownedCache : Option Cache → Multiset ℕ
  | none => 0
  | some c => c.owned

/-- The blocks of a context. -/
def Context.owned (ctx : Context) : Multiset ℕ :=
  {ctx.self} + (ownedCache ctx.cacheLines + (ctx.scte104Fragments : Multiset ℕ))

/-- The blocks of a decoded packet. -/
def Decoded.owned : Decoded → Multiset ℕ
  | plain pkt => {pkt}
  | scte104 pkt ops data => (data : Multiset ℕ) + ({ops} + {pkt})

/-- The blocks of a decoded packet that may be there. -/
def ownedDecoded : Option Decoded → Multiset ℕ
  | none => 0
  | some d => d.owned

/-- The pointers of a cache are null where its line entries have no packet, and an entry is active
where it has one. -/
structure CacheMirrors (lines : KlvancCacheLines) (c : Cache) : Prop where
  pkts : ∀ i l, (c.pkts (i, l)).isSome = ((lines i).lines l).pkt.isSome
  active : ∀ i l, ((lines i).lines l).active = ((lines i).lines l).pkt.isSome

/-- The context has a cache and fragments where its pointers have. -/
structure Mirrors (contents : KlvancContext) (ctx : Context) : Prop where
  cacheLines : Option.Rel CacheMirrors contents.cacheLines ctx.cacheLines
  fragments : ctx.scte104Fragments.length = contents.scte104.count
  count_lt : contents.scte104.count < scte104MaxFragments

section Programs

variable {α : Type} {m : Program α} {pre pre' : Multiset ℕ} {Q : α → Multiset ℕ → Prop}

/-- The blocks given may be written differently. -/
lemma given (h : pre = pre') (hm : Transfers m pre' Q) : Transfers m pre Q := h ▸ hm

end Programs

/-! ### The cache -/

section Cache

variable {lines : KlvancCacheLines} {c : Cache}

/-- A line entry whose pointer has been followed by `free` and is null now. -/
lemma table_clear {k : ℕ × ℕ} (hk : k ∈ cacheKeys) :
    c.owned = ofPtr (c.pkts k) + Cache.owned { c with pkts := Function.update c.pkts k none } := by
  have h := @table_update _ _ c.pkts _ k hk none
  rw [ofPtr, add_zero] at h
  rw [Cache.owned, Cache.owned, ← h]
  abel

/-- A line entry whose pointer was null and points to a block now. -/
lemma table_set {k : ℕ × ℕ} (hk : k ∈ cacheKeys) (b : ℕ) :
    {b} + Cache.owned { c with pkts := Function.update c.pkts k none } =
      Cache.owned { c with pkts := Function.update c.pkts k (some b) } := by
  have h := @table_update _ _ (Function.update c.pkts k none) _ _ hk (some b)
  rw [Function.update_idem, Function.update_self, ofPtr, add_zero, ofPtr] at h
  rw [Cache.owned, Cache.owned, h]
  abel

/-- An update hands on the blocks of the cache. -/
lemma transfers_klvancCacheUpdate {cacheLines : Option KlvancCacheLines} {cache : Option Cache}
    (h : Option.Rel CacheMirrors cacheLines cache) (pkt : KlvancPacketHeader) :
    Transfers (klvancCacheUpdate cache pkt) (ownedCache cache) fun cache' post =>
      Option.Rel CacheMirrors (Libklvanc.klvancCacheUpdate cacheLines pkt).1 cache' ∧
        post = ownedCache cache' := by
  cases h with
  | none => exact Transfers.pure ⟨Option.Rel.none, rfl⟩
  | @some lines c hmirrors =>
    rw [klvancCacheUpdate, Libklvanc.klvancCacheUpdate]
    dsimp only
    split_ifs with hrefused
    · exact Transfers.pure ⟨Option.Rel.some hmirrors, rfl⟩
    · set i := klvancCacheIndex (lowByte pkt.did) (lowByte pkt.dbnsdid) with hi
      have hkey : (i, pkt.lineNr) ∈ cacheKeys := by
        have h₁ := (lowByte pkt.did).isLt
        have h₂ := (lowByte pkt.dbnsdid).isLt
        have hlt : i < 65536 := by
          rw [hi, klvancCacheIndex]
          omega
        exact mem_cacheKeys.mpr ⟨hlt, by omega⟩
      refine given (table_clear hkey) (transfers_freePtr ?_)
      refine transfers_alloc fun b =>
        Transfers.pure ⟨Option.Rel.some ⟨fun j l => ?_, fun j l => ?_⟩,
        table_set hkey b⟩
      · dsimp only
        by_cases hj : j = i
        · subst hj
          rw [Function.update_self, record_lines]
          by_cases hl : l = pkt.lineNr
          · subst hl
            rw [Function.update_self, Function.update_self]
            rfl
          · rw [Function.update_of_ne (fun heq => hl (Prod.mk.inj heq).2), Function.update_of_ne hl]
            exact hmirrors.pkts _ _
        · rw [Function.update_of_ne (fun heq => hj (Prod.mk.inj heq).1), Function.update_of_ne hj]
          exact hmirrors.pkts _ _
      · by_cases hj : j = i
        · subst hj
          rw [Function.update_self, record_lines]
          by_cases hl : l = pkt.lineNr
          · subst hl
            rw [Function.update_self]
            rfl
          · rw [Function.update_of_ne hl]
            exact hmirrors.active _ _
        · rw [Function.update_of_ne hj]
          exact hmirrors.active _ _

/-! ### Resets -/

/-- The cache after `resetLine`. -/
def clearLine (e : KlvancCache) (i : ℕ) (c : Cache) (l : ℕ) : Cache :=
  if (e.lines l).active then { c with pkts := Function.update c.pkts (i, l) none } else c

/-- The cache after `resetEntry`. -/
def clearEntry (lines : KlvancCacheLines) (c : Cache) (i : ℕ) : Cache :=
  if (lines i).activeCount = 0 then c else (List.range 2048).foldl (clearLine (lines i) i) c

/-- The cache after a reset. -/
def clearCache (lines : KlvancCacheLines) (c : Cache) : Cache :=
  klvancCacheIndices.foldl (clearEntry lines) c

/-- The indices of the entries. -/
lemma lt_of_mem_klvancCacheIndices {i : ℕ} (h : i ∈ klvancCacheIndices) : i < 65536 := by
  obtain ⟨d, -, hd⟩ := List.mem_flatMap.mp h
  obtain ⟨s, -, rfl⟩ := List.mem_map.mp hd
  have h₁ := (BitVec.ofNat 8 d).isLt
  have h₂ := (BitVec.ofNat 8 s).isLt
  rw [klvancCacheIndex]
  omega

/-- A reset hands on the blocks of the cache but for the packets it clears. -/
lemma transfers_klvancCacheReset (lines : KlvancCacheLines) (c : Cache) :
    Transfers (klvancCacheReset lines c) c.owned fun c' post =>
      c' = clearCache lines c ∧ post = c'.owned := by
  refine transfers_foldlM (fun c i hi => ?_) c
  rw [resetEntry, clearEntry]
  split_ifs with hcount
  · exact Transfers.pure ⟨rfl, rfl⟩
  · refine transfers_foldlM (fun c l hl => ?_) c
    rw [resetLine, clearLine]
    split_ifs with hactive
    · have hkey : (i, l) ∈ cacheKeys :=
        mem_cacheKeys.mpr ⟨lt_of_mem_klvancCacheIndices hi, List.mem_range.mp hl⟩
      exact given (table_clear hkey) (transfers_freePtr (Transfers.pure ⟨rfl, rfl⟩))
    · exact Transfers.pure ⟨rfl, rfl⟩

/-- The pointers after the line entries `ls` of an entry have been reset. -/
lemma foldl_clearLine_pkts (e : KlvancCache) (i : ℕ) (ls : List ℕ) (c : Cache) (j l : ℕ) :
    (ls.foldl (clearLine e i) c).pkts (j, l) =
      if j = i ∧ l ∈ ls ∧ (e.lines l).active = true then none else c.pkts (j, l) := by
  induction ls generalizing c with
  | nil => simp
  | cons m ls ih =>
    have hone : (clearLine e i c m).pkts (j, l) =
        if j = i ∧ l = m ∧ (e.lines l).active = true then none else c.pkts (j, l) := by
      rw [clearLine]
      by_cases hm : (j, l) = (i, m)
      · obtain ⟨rfl, rfl⟩ := Prod.mk.inj hm
        split_ifs <;> simp_all
      · have hne : ¬(j = i ∧ l = m ∧ (e.lines l).active = true) :=
          fun h => hm (Prod.ext h.1 h.2.1)
        rw [if_neg hne]
        split_ifs
        · exact Function.update_of_ne hm _ _
        · rfl
    rw [List.foldl_cons, ih, hone]
    by_cases h : j = i ∧ l ∈ ls ∧ (e.lines l).active = true
    · rw [if_pos h, if_pos ⟨h.1, List.mem_cons_of_mem _ h.2.1, h.2.2⟩]
    · rw [if_neg h]
      by_cases h' : j = i ∧ l = m ∧ (e.lines l).active = true
      · rw [if_pos h', if_pos ⟨h'.1, h'.2.1 ▸ List.mem_cons_self, h'.2.2⟩]
      · rw [if_neg h', if_neg]
        rintro ⟨hj, hl, hactive⟩
        rcases List.mem_cons.mp hl with rfl | hl
        · exact h' ⟨hj, rfl, hactive⟩
        · exact h ⟨hj, hl, hactive⟩

/-- The pointers after some entries have been reset. -/
lemma foldl_clearEntry_pkts (lines : KlvancCacheLines) (is : List ℕ) (c : Cache) (j l : ℕ) :
    (is.foldl (clearEntry lines) c).pkts (j, l) =
      if j ∈ is ∧ (lines j).activeCount ≠ 0 ∧ l < 2048 ∧ ((lines j).lines l).active = true then none
      else c.pkts (j, l) := by
  induction is generalizing c with
  | nil => simp
  | cons i is ih =>
    have hone : (clearEntry lines c i).pkts (j, l) =
        if j = i ∧ (lines j).activeCount ≠ 0 ∧ l < 2048 ∧
        ((lines j).lines l).active = true then none
        else c.pkts (j, l) := by
      rw [clearEntry]
      split_ifs with hcount h h
      · obtain ⟨rfl, hne, -⟩ := h
        exact absurd hcount hne
      · rfl
      · rw [foldl_clearLine_pkts, if_pos]
        obtain ⟨rfl, -, hl, hactive⟩ := h
        exact ⟨rfl, List.mem_range.mpr hl, hactive⟩
      · rw [foldl_clearLine_pkts, if_neg]
        rintro ⟨rfl, hl, hactive⟩
        exact h ⟨rfl, hcount, List.mem_range.mp hl, hactive⟩
    rw [List.foldl_cons, ih, hone]
    by_cases h : (lines j).activeCount ≠ 0 ∧ l < 2048 ∧ ((lines j).lines l).active = true
    · simp only [h, ne_eq, not_false_eq_true, and_self, and_true, List.mem_cons]
      split_ifs <;> simp_all
    · rw [if_neg (fun hand => h hand.2), if_neg (fun hand => h hand.2),
        if_neg (fun hand => h hand.2)]

/-- A reset clears the line entries that are active, in the entries that it does not pass over. -/
lemma clearCache_pkts {lines : KlvancCacheLines} {c : Cache} {i l : ℕ} (hi : i < 65536) :
    (clearCache lines c).pkts (i, l) =
      if (lines i).activeCount ≠ 0 ∧ l < 2048 ∧ ((lines i).lines l).active = true then none
      else c.pkts (i, l) := by
  have hmem : i ∈ klvancCacheIndices := by
    have h := klvancCacheIndex_mem (BitVec.ofNat 8 (i / 256)) (BitVec.ofNat 8 (i % 256))
    have hindex : klvancCacheIndex (BitVec.ofNat 8 (i / 256)) (BitVec.ofNat 8 (i % 256)) = i := by
      rw [klvancCacheIndex, BitVec.toNat_ofNat, BitVec.toNat_ofNat]
      omega
    rwa [hindex] at h
  rw [clearCache, foldl_clearEntry_pkts]
  simp only [hmem, true_and]

/-- The line entries after the innermost loop of a reset. -/
lemma foldl_reset_line (entries : ℕ → KlvancCacheLine) (n l : ℕ) :
    (List.range n).foldl (fun entries l => Function.update entries l (entries l).reset) entries l =
      if l < n then (entries l).reset else entries l := by
  have h := Keyed.foldl_keys_apply (f := KlvancCacheLine.reset) (@List.nodup_range n) entries l
  simp only [List.mem_range] at h
  exact h

/-- The line entries after a reset. -/
lemma klvancCacheReset_lines (lines : KlvancCacheLines) : ∃ lines',
    Libklvanc.klvancCacheReset (some lines) = some lines' ∧ ∀ i l, (lines' i).lines l =
      if i ∈ klvancCacheIndices ∧ (lines i).activeCount ≠ 0 ∧ l < 2048 then
        ((lines i).lines l).reset
      else (lines i).lines l := by
  refine ⟨_, rfl, fun i l => ?_⟩
  have hvisit := Keyed.foldl_keys_apply (f := KlvancCache.reset) klvancCacheIndices_nodup lines i
  have hstep : (fun (lines : KlvancCacheLines) i => Function.update lines i (lines i).reset) =
      Keyed.step id fun s _ => s.reset := rfl
  rw [hstep]
  dsimp only
  rw [hvisit]
  by_cases hi : i ∈ klvancCacheIndices
  · rw [if_pos hi, KlvancCache.reset]
    by_cases hcount : (lines i).activeCount = 0
    · rw [if_pos hcount, if_neg (fun h => h.2.1 hcount)]
    · rw [if_neg hcount]
      dsimp only
      rw [foldl_reset_line]
      by_cases hl : l < 2048
      · rw [if_pos hl, if_pos ⟨hi, hcount, hl⟩]
      · rw [if_neg hl, if_neg (fun h => hl h.2.2)]
  · rw [if_neg hi, if_neg (fun h => hi h.1)]

/-- A reset keeps the correspondence. -/
lemma CacheMirrors.reset (h : CacheMirrors lines c) : ∃ lines',
    Libklvanc.klvancCacheReset (some lines) = some lines' ∧
    CacheMirrors lines' (clearCache lines c) := by
  obtain ⟨lines', hreset, hlines⟩ := klvancCacheReset_lines lines
  refine ⟨lines', hreset, fun i l => ?_, fun i l => ?_⟩
  · rw [hlines, clearCache, foldl_clearEntry_pkts]
    by_cases hall : i ∈ klvancCacheIndices ∧ (lines i).activeCount ≠ 0 ∧ l < 2048
    · rw [if_pos hall, KlvancCacheLine.reset]
      by_cases hactive : ((lines i).lines l).active = true
      · rw [if_pos hactive, if_pos ⟨hall.1, hall.2.1, hall.2.2, hactive⟩]
        rfl
      · rw [if_neg hactive, if_neg (fun hand => hactive hand.2.2.2), h.pkts]
    · rw [if_neg hall, if_neg (fun hand => hall ⟨hand.1, hand.2.1, hand.2.2.1⟩), h.pkts]
  · rw [hlines]
    split_ifs with hall
    · rw [KlvancCacheLine.reset]
      split_ifs with hactive
      · rfl
      · exact h.active i l
    · exact h.active i l

/-- The number of packets in the entries of a cache. -/
def heldPackets (lines : KlvancCacheLines) : ℕ :=
  (cacheKeys.filter fun k => ((lines k.1).lines k.2).pkt.isSome).card

/-- The number of packets in the entries that a reset passes over. -/
def strandedPackets (lines : KlvancCacheLines) : ℕ :=
  (cacheKeys.filter fun k =>
    (lines k.1).activeCount = 0 ∧ ((lines k.1).lines k.2).pkt.isSome).card

/-- A cache has as many blocks as packets, and its array. -/
lemma CacheMirrors.card_owned (h : CacheMirrors lines c) :
    c.owned.card = 1 + heldPackets lines := by
  rw [Cache.owned, Multiset.card_add, Multiset.card_singleton, card_table, heldPackets]
  simp only [h.pkts]

/-- The number of blocks of a cache that may be there. -/
lemma card_ownedCache {cacheLines : Option KlvancCacheLines} {cache : Option Cache}
    (h : Option.Rel CacheMirrors cacheLines cache) :
    (ownedCache cache).card = cacheLines.elim 0 fun lines => 1 + heldPackets lines := by
  cases h with
  | none => rw [ownedCache, Option.elim_none, Multiset.card_zero]
  | some hmirrors => rw [ownedCache, Option.elim_some, hmirrors.card_owned]

/-- Freeing the cache leaves the packets in the entries that a reset passes over. -/
lemma transfers_klvancCacheFree {cacheLines : Option KlvancCacheLines} {cache : Option Cache}
    (h : Option.Rel CacheMirrors cacheLines cache) :
    Transfers (klvancCacheFree cacheLines cache) (ownedCache cache) fun _ post =>
      post.card = cacheLines.elim 0 strandedPackets := by
  cases h with
  | none => exact Transfers.pure rfl
  | @some lines c hmirrors =>
    rw [klvancCacheFree, ownedCache]
    refine (transfers_klvancCacheReset lines c).bind fun c' post hpost => ?_
    obtain ⟨hc', rfl⟩ := hpost
    rw [Cache.owned, ← bind_pure (free c'.array), hc']
    refine transfers_free (Transfers.pure ?_)
    rw [card_table, Option.elim_some]
    unfold strandedPackets
    refine congrArg Finset.card (Finset.filter_congr fun k hk => ?_)
    obtain ⟨hi, hl⟩ := mem_cacheKeys.mp hk
    rw [clearCache_pkts hi, hmirrors.active]
    split_ifs with hcleared
    · exact iff_of_false Bool.false_ne_true (fun hand => hcleared.1 hand.1)
    · rw [hmirrors.pkts]
      constructor
      · intro hsome
        exact ⟨by_contra fun hcount => hcleared ⟨hcount, hl, hsome⟩, hsome⟩
      · exact And.right

end Cache

/-! ### Fragments -/

section Fragments

variable {frags : List ℕ}

/-- A reset frees the fragments. -/
lemma transfers_messageFragmentReset {α : Type} {f : List ℕ → Program α} {pre : Multiset ℕ}
    {Q : α → Multiset ℕ → Prop} (hf : Transfers (f []) pre Q) :
    Transfers (messageFragmentReset frags >>= f) ((frags : Multiset ℕ) + pre) Q := by
  rw [messageFragmentReset, bind_assoc]
  exact transfers_freeAll hf

/-- A fragment is appended. -/
lemma transfers_messageFragmentAppend {α : Type} {f : List ℕ → Program α} {pre : Multiset ℕ}
    {Q : α → Multiset ℕ → Prop}
    (hf : ∀ b, Transfers (f (frags ++ [b])) (((frags ++ [b] : List ℕ) : Multiset ℕ) + pre) Q) :
    Transfers (messageFragmentAppend frags >>= f) ((frags : Multiset ℕ) + pre) Q := by
  rw [messageFragmentAppend, bind_assoc]
  refine transfers_alloc fun b => given ?_ (hf b)
  rw [← Multiset.coe_add, Multiset.coe_singleton]
  abel

/-- A following fragment is appended, unless the fragments are given up. -/
lemma transfers_messageFragmentFollowing {α : Type} {f : List ℕ → Program α} {pre : Multiset ℕ}
    {Q : α → Multiset ℕ → Prop} {contents : Scte104Fragments} (hdr : KlvancPacketHeader)
    (hcount : frags.length = contents.count) (hlt : contents.count < scte104MaxFragments)
    (hf : ∀ frags' : List ℕ,
      frags'.length = (Libklvanc.messageFragmentFollowing contents hdr).val.count →
      Transfers (f frags') ((frags' : Multiset ℕ) + pre) Q) :
    Transfers (messageFragmentFollowing frags >>= f) ((frags : Multiset ℕ) + pre) Q := by
  rw [Libklvanc.messageFragmentFollowing] at hf
  rw [messageFragmentFollowing, hcount]
  split_ifs with hzero hfull
  · rw [if_pos hzero] at hf
    refine transfers_messageFragmentReset (given ?_ (hf [] rfl))
    rw [Multiset.coe_nil, zero_add]
  · rw [if_neg hzero, if_pos hfull] at hf
    refine transfers_messageFragmentReset (given ?_ (hf [] rfl))
    rw [Multiset.coe_nil, zero_add]
  · rw [if_neg hzero, if_neg hfull, Libklvanc.messageFragmentAppend, dif_pos hlt] at hf
    refine transfers_messageFragmentAppend fun b => hf _ ?_
    rw [List.length_append, List.length_singleton, hcount]
    rfl

/-- A final fragment leaves no fragments, and a header if the fragments make one or are too long. -/
lemma transfers_messageFragmentFinal {α : Type} {f : Option ℕ × List ℕ → Program α}
    {pre : Multiset ℕ}
    {Q : α → Multiset ℕ → Prop} {contents : Scte104Fragments} (hdr : KlvancPacketHeader)
    (hcount : frags.length = contents.count)
    (hzero : contents.count = 0 → Transfers (f (none, [])) pre Q)
    (hnone : contents.count ≠ 0 → (Libklvanc.messageFragmentFinal contents hdr).val.1 = none →
      ∀ b, Transfers (f (none, [])) ({b} + pre) Q)
    (hsome : ∀ full, (Libklvanc.messageFragmentFinal contents hdr).val.1 = some full →
      ∀ b, Transfers (f (some b, [])) ({b} + pre) Q) :
    Transfers (messageFragmentFinal frags contents hdr >>= f) ((frags : Multiset ℕ) + pre) Q := by
  rw [messageFragmentFinal, hcount]
  split_ifs with h
  · rw [bind_assoc]
    exact transfers_messageFragmentReset (hzero h)
  · rw [bind_assoc]
    refine transfers_messageFragmentAppend fun b => ?_
    rw [bind_assoc]
    refine transfers_alloc fun dst => ?_
    rw [bind_assoc]
    refine given (by abel) (@transfers_messageFragmentReset (frags ++ [b]) α _ ({dst} + pre) Q ?_)
    cases hfull : (Libklvanc.messageFragmentFinal contents hdr).val.1 with
    | none => exact hnone h hfull dst
    | some full => exact hsome full hfull dst

end Fragments

/-! ### Decoded packets -/

section Decoded

variable {α : Type} {f : Unit → Program α} {pre : Multiset ℕ} {Q : α → Multiset ℕ → Prop}

/-- A decoded packet is freed as a whole. -/
lemma transfers_freeDecoded {d : Option Decoded} (hf : Transfers (f ()) pre Q) :
    Transfers (freeDecoded d >>= f) (ownedDecoded d + pre) Q := by
  cases d with
  | none =>
    rw [ownedDecoded, zero_add]
    exact hf
  | some d =>
    cases d with
    | plain pkt => exact transfers_free hf
    | scte104 pkt ops data =>
      have hdo : freeDecoded (some (.scte104 pkt ops data)) >>= f =
          freeAll data >>= fun _ => free ops >>= fun _ => free pkt >>= f := by
        rw [freeDecoded, freeByType, klvancFreeSCTE104, bind_assoc]
        refine congrArg _ (funext fun _ => ?_)
        rw [bind_assoc]
      rw [hdo, ownedDecoded, Decoded.owned]
      refine given ?_ (transfers_freeAll (transfers_free (transfers_free hf)))
      abel

/-- A decoder hands on the packet that it has allocated. -/
lemma transfers_decodePlain (registered accepted : Bool) :
    Transfers (decodePlain registered accepted) 0 fun d post => post = ownedDecoded d := by
  rw [decodePlain]
  split_ifs
  · exact transfers_alloc fun b => Transfers.pure (add_zero _)
  · exact Transfers.pure rfl

/-- So does one that reads with a bitstream reader, which it frees. -/
lemma transfers_decodeBitstream (registered accepted : Bool) :
    Transfers (decodeBitstream registered accepted) 0 fun d post => post = ownedDecoded d := by
  rw [decodeBitstream]
  split_ifs with hregistered haccepted
  · refine transfers_alloc fun bs => transfers_alloc fun pkt => ?_
    refine given ?_ (transfers_free (Transfers.pure rfl))
    rw [ownedDecoded, Decoded.owned]
    abel
  · refine transfers_alloc fun bs => transfers_alloc fun pkt => ?_
    exact transfers_free (given rfl (transfers_free (Transfers.pure rfl)))
  · exact Transfers.pure rfl

end Decoded

/-! ### SCTE-104 messages -/

section Message

variable (payload : List Byte) (payloadLengthBytes : ℕ)

/-- The operations allocate an array each, and free them if one of them does not fit the message. -/
lemma transfers_parseOperations (pos count : ℕ) (data : List ℕ) :
    Transfers (parseOperations payload payloadLengthBytes pos count data) data fun r post =>
      r.isSome = (Libklvanc.parseOperations payload payloadLengthBytes pos count).val.isSome ∧
        post = ((r.getD [] : List ℕ) : Multiset ℕ) := by
  induction count generalizing pos data with
  | zero => exact Transfers.pure ⟨rfl, rfl⟩
  | succ count ih =>
    rw [parseOperations, Libklvanc.parseOperations]
    simp only [Checked.bind_val]
    have hown : ∀ d, {d} + (data : Multiset ℕ) = ((data ++ [d] : List ℕ) : Multiset ℕ) :=
      fun d => by
      rw [← Multiset.coe_add, Multiset.coe_singleton, add_comm]
    split_ifs with hshort htime
    · rw [← add_zero (data : Multiset ℕ)]
      exact transfers_freeAll (Transfers.pure ⟨rfl, rfl⟩)
    · refine transfers_alloc fun d => transfers_alloc fun bs => transfers_free (given (hown d) ?_)
      refine (ih _ _).weaken fun r post hpost => ⟨?_, hpost.2⟩
      rw [hpost.1, Checked.bind_val, Checked.bind_val, Checked.bind_val, Checked.pure_val,
        Option.isSome_map]
    · refine transfers_alloc fun d => given (hown d) ?_
      refine (ih _ _).weaken fun r post hpost => ⟨?_, hpost.2⟩
      rw [hpost.1, Checked.bind_val, Checked.bind_val, Checked.bind_val, Checked.pure_val,
        Option.isSome_map]

/-- A message that is not refused has its block, that of its operations, and one for each
operation. -/
lemma transfers_parseScte104Message (hdr : KlvancPacketHeader) (descriptor : Byte) (pkt : ℕ) :
    Transfers (parseScte104Message (messageOctets hdr) (messageLength hdr) pkt) {pkt} fun d post =>
      d.isSome = (Libklvanc.parseScte104Message hdr descriptor).val.isSome ∧
        post = ownedDecoded d := by
  rw [parseScte104Message, Libklvanc.parseScte104Message]
  simp only [Checked.bind_val]
  split_ifs with hrefused hopID hopID
  · rw [← add_zero ({pkt} : Multiset ℕ)]
    refine transfers_free (Transfers.pure ⟨?_, rfl⟩)
    have hnone : (parseMultipleOperationMessage (messageOctets hdr) (messageLength hdr)).val =
        none := by
      rw [parseMultipleOperationMessage]
      by_cases hshort : messageLength hdr < 10
      · rw [if_pos hshort]
        rfl
      · have hsize := (hrefused.resolve_left (not_not.mpr hopID)).resolve_left hshort
        rw [if_neg hshort]
        simp only [Checked.bind_val]
        rw [if_pos hsize]
        rfl
    rw [Checked.bind_val, hnone]
    rfl
  · rw [← add_zero ({pkt} : Multiset ℕ)]
    exact transfers_free (Transfers.pure ⟨rfl, rfl⟩)
  · refine transfers_alloc fun ops => ?_
    refine given (zero_add _).symm
      (((transfers_parseOperations _ _ _ _ []).frame ({ops} + {pkt})).bind fun data mid hmid => ?_)
    obtain ⟨own, ⟨hdata, rfl⟩, rfl⟩ := hmid
    have hpure : data.isSome =
        (parseMultipleOperationMessage (messageOctets hdr) (messageLength hdr)).val.isSome := by
      rw [not_or, not_or] at hrefused
      rw [hdata, parseMultipleOperationMessage, if_neg hrefused.2.1]
      simp only [Checked.bind_val]
      rw [if_neg hrefused.2.2]
      simp only [Checked.bind_val, Checked.pure_val, Option.isSome_map]
    rw [Checked.bind_val, Checked.pure_val, Option.isSome_map, ← hpure]
    cases data with
    | none =>
      rw [Option.getD_none, Multiset.coe_nil, zero_add, ← add_zero ({pkt} : Multiset ℕ)]
      exact transfers_free (transfers_free (Transfers.pure ⟨rfl, rfl⟩))
    | some data => exact Transfers.pure ⟨rfl, rfl⟩
  · exact absurd (Or.inl hopID) hrefused

end Message

/-- The packet is a final fragment and finds fragments, but no message is handed to the
application. -/
def Undelivered (run : KlvancRun) (hdr : KlvancPacketHeader) : Prop :=
  run.ctx.registered (·.scte104) = true ∧ fragmentKind hdr = .last ∧ run.ctx.scte104.count ≠ 0 ∧
    (Libklvanc.parseSCTE104 run hdr).1 ≠ klapiOk

instance (run : KlvancRun) (hdr : KlvancPacketHeader) : Decidable (Undelivered run hdr) :=
  inferInstanceAs (Decidable (_ ∧ _ ∧ _ ∧ _))

/-- A decoder that has left the contents `after` has handed on its blocks: the fragments are as many
as in the contents, and `n` blocks have been let go of. -/
def HandsOn (after : KlvancContext) (n : ℕ) (r : Option Decoded × List ℕ) (post : Multiset ℕ) :
    Prop :=
  r.2.length = after.scte104.count ∧ after.scte104.count < scte104MaxFragments ∧
    ∃ lost, post = ownedDecoded r.1 + ((r.2 : Multiset ℕ) + lost) ∧ lost.card = n

/-- What `parse_SCTE_104` has handed on: one block has been let go of if the packet is
undelivered. -/
def HandsOnMessage (run : KlvancRun) (hdr : KlvancPacketHeader) :
    Option Decoded × List ℕ → Multiset ℕ → Prop :=
  HandsOn (Libklvanc.parseSCTE104 run hdr).2.ctx (if Undelivered run hdr then 1 else 0)

section Fragment

variable {run : KlvancRun} {hdr : KlvancPacketHeader} {frags : List ℕ}

lemma zero_lt_max : 0 < scte104MaxFragments := by decide

lemma one_lt_max : 1 < scte104MaxFragments := by decide

/-- There is always room for one more fragment. -/
lemma messageFragmentFollowing_count_lt {contents : Scte104Fragments} (hdr : KlvancPacketHeader)
    (hlt : contents.count < scte104MaxFragments) :
    (Libklvanc.messageFragmentFollowing contents hdr).val.count < scte104MaxFragments := by
  rw [Libklvanc.messageFragmentFollowing]
  split_ifs with hzero hfull
  · exact zero_lt_max
  · exact zero_lt_max
  · rw [Libklvanc.messageFragmentAppend, dif_pos hlt]
    exact lt_of_le_of_ne hlt hfull

/-- Nothing has been let go of. -/
lemma handsOnMessage {r : Option Decoded × List ℕ}
    (hcount : r.2.length = (Libklvanc.parseSCTE104 run hdr).2.ctx.scte104.count)
    (hlt : r.2.length < scte104MaxFragments) (hkept : ¬Undelivered run hdr) :
    HandsOnMessage run hdr r (ownedDecoded r.1 + (r.2 : Multiset ℕ)) :=
  ⟨hcount, hcount ▸ hlt, 0, by rw [add_zero], by rw [if_neg hkept, Multiset.card_zero]⟩

/-- The assembled header has been let go of. -/
lemma handsOnMessage_lost {b : ℕ}
    (hcount : (Libklvanc.parseSCTE104 run hdr).2.ctx.scte104.count = 0)
    (hlost : Undelivered run hdr) : HandsOnMessage run hdr (none, []) {b} := by
  refine ⟨hcount.symm, hcount.symm ▸ zero_lt_max, {b}, ?_, ?_⟩
  · rw [ownedDecoded, Multiset.coe_nil, zero_add, zero_add]
  · rw [if_pos hlost, Multiset.card_singleton]

/-- A final fragment without fragments before it makes no header. -/
lemma messageFragmentFinal_of_zero {contents : Scte104Fragments} (hdr : KlvancPacketHeader)
    (hzero : contents.count = 0) :
    (Libklvanc.messageFragmentFinal contents hdr).val.1 = none := by
  rw [Libklvanc.messageFragmentFinal, if_pos hzero]
  rfl

/-- A final fragment leaves no fragments. -/
lemma messageFragmentFinal_count (contents : Scte104Fragments) (hdr : KlvancPacketHeader) :
    (Libklvanc.messageFragmentFinal contents hdr).val.2.count = 0 := by
  rw [Libklvanc.messageFragmentFinal]
  split_ifs
  · rfl
  · rfl

/-- `parse_SCTE_104` by the kind of the packet. -/
lemma parseSCTE104_contents (hreg : run.ctx.registered (·.scte104) = true) :
    Libklvanc.parseSCTE104 run hdr =
      match fragmentKind hdr with
      | .ignored => (-1, run)
      | .single =>
        deliverScte104 (run.setFragments (Libklvanc.messageFragmentReset run.ctx.scte104)) hdr
          (hdr.payloadByte 0)
      | .first =>
        let next := messageFragmentContinued (Libklvanc.messageFragmentReset run.ctx.scte104) hdr
        (-1, (run.setFragments next.val).addFaults next.faults)
      | .middle =>
        let next := Libklvanc.messageFragmentFollowing run.ctx.scte104 hdr
        (-1, (run.setFragments next.val).addFaults next.faults)
      | .last =>
        let result := Libklvanc.messageFragmentFinal run.ctx.scte104 hdr
        let next := (run.setFragments result.val.2).addFaults result.faults
        match result.val.1 with
        | none => (-1, next)
        | some fullhdr => deliverScte104 next fullhdr (hdr.payloadByte 0) := by
  unfold Libklvanc.parseSCTE104 fragmentKind
  simp only [hreg, Bool.not_true, Bool.false_eq_true, if_false]
  by_cases hdup : (hdr.payloadByte 0).getLsbD 0 = true
  · simp only [hdup, if_true]
  · by_cases hwhole : hdr.payloadByte 0 = 0x08
    · have hflag : (0x08 : Byte).getLsbD 0 = false := by decide
      simp only [if_false, hwhole, if_true, ne_eq, not_true_eq_false, hflag, Bool.false_eq_true]
    · simp only [hdup, if_false, hwhole, ne_eq, not_false_eq_true, if_true]
      cases (hdr.payloadByte 0).getLsbD 2 <;> cases (hdr.payloadByte 0).getLsbD 1 <;> rfl

/-- What it does to the blocks, by the kind of the packet. -/
lemma parseSCTE104_blocks (hreg : run.ctx.registered (·.scte104) = true) :
    parseSCTE104 run hdr frags = alloc >>= fun pkt =>
      match fragmentKind hdr with
      | .ignored => free pkt >>= fun _ => pure (none, frags)
      | .single => messageFragmentReset frags >>= fun frags =>
        parseScte104Message (messageOctets hdr) (messageLength hdr) pkt >>= fun decoded =>
          pure (decoded, frags)
      | .first => messageFragmentReset frags >>= fun frags =>
        messageFragmentAppend frags >>= fun frags => free pkt >>= fun _ => pure (none, frags)
      | .middle => messageFragmentFollowing frags >>= fun frags =>
        free pkt >>= fun _ => pure (none, frags)
      | .last => messageFragmentFinal frags run.ctx.scte104 hdr >>= fun r =>
        match r.1, (Libklvanc.messageFragmentFinal run.ctx.scte104 hdr).val.1 with
        | some full, some contents =>
          parseScte104Message (messageOctets contents) (messageLength contents) pkt >>=
            fun decoded =>
            match decoded with
            | none => pure (none, r.2)
            | some d => klvancPacketFree (some full) >>= fun _ => pure (some d, r.2)
        | _, _ => free pkt >>= fun _ => pure (none, r.2) := by
  unfold parseSCTE104 fragmentKind
  simp only [hreg, Bool.not_true, Bool.false_eq_true, if_false]
  refine congrArg (alloc >>= ·) (funext fun pkt => ?_)
  by_cases hdup : (hdr.payloadByte 0).getLsbD 0 = true
  · simp only [hdup, if_true]
  · by_cases hwhole : hdr.payloadByte 0 = 0x08
    · have hflag : (0x08 : Byte).getLsbD 0 = false := by decide
      simp only [if_false, hwhole, if_true, ne_eq, not_true_eq_false, hflag, Bool.false_eq_true]
    · simp only [hdup, if_false, hwhole, ne_eq, not_false_eq_true, if_true]
      cases (hdr.payloadByte 0).getLsbD 2 <;> cases (hdr.payloadByte 0).getLsbD 1 <;> rfl

/-- A decoded message takes the place of its block. -/
lemma transfers_parseSCTE104 (hcount : frags.length = run.ctx.scte104.count)
    (hlt : run.ctx.scte104.count < scte104MaxFragments) :
    Transfers (parseSCTE104 run hdr frags) frags (HandsOnMessage run hdr) := by
  by_cases hreg : run.ctx.registered (·.scte104) = true
  · have hpure := @parseSCTE104_contents run hdr hreg
    have hkept : ∀ {k : FragmentKind}, fragmentKind hdr = k → k ≠ .last → ¬Undelivered run hdr :=
      fun hkind hne h => hne (hkind.symm.trans h.2.1)
    rw [parseSCTE104_blocks hreg]
    refine transfers_alloc fun pkt => ?_
    cases hkind : fragmentKind hdr with
    | ignored =>
      rw [hkind] at hpure
      refine transfers_free (Transfers.pure ?_)
      rw [← zero_add (frags : Multiset ℕ)]
      refine @handsOnMessage _ _ (none, frags) ?_ (hcount ▸ hlt) (hkept hkind (by decide))
      rw [hpure]
      exact hcount
    | single =>
      rw [hkind] at hpure
      refine given (add_comm _ _) (transfers_messageFragmentReset ?_)
      refine (transfers_parseScte104Message hdr 0x08 pkt).bind fun d post hpost => Transfers.pure ?_
      obtain ⟨-, rfl⟩ := hpost
      rw [← add_zero (ownedDecoded d), ← Multiset.coe_nil]
      refine @handsOnMessage _ _ (d, []) ?_ zero_lt_max (hkept hkind (by decide))
      rw [hpure]
      dsimp only
      rw [deliverScte104_ctx]
      rfl
    | first =>
      rw [hkind] at hpure
      refine given (add_comm _ _) (transfers_messageFragmentReset ?_)
      refine given ?_ (@transfers_messageFragmentAppend [] _ _ {pkt} _ fun b => ?_)
      · rw [Multiset.coe_nil, zero_add]
      · refine given (add_comm _ _) (transfers_free (Transfers.pure ?_))
        rw [← zero_add (([] ++ [b] : List ℕ) : Multiset ℕ)]
        refine @handsOnMessage _ _ (none, [] ++ [b]) ?_ one_lt_max (hkept hkind (by decide))
        rw [hpure]
        rfl
    | middle =>
      rw [hkind] at hpure
      refine given (add_comm _ _)
        (transfers_messageFragmentFollowing hdr hcount hlt fun frags' hcount' => ?_)
      refine given (add_comm _ _) (transfers_free (Transfers.pure ?_))
      rw [← zero_add (frags' : Multiset ℕ)]
      refine @handsOnMessage _ _ (none, frags') ?_ ?_ (hkept hkind (by decide))
      · rw [hpure]
        exact hcount'
      · rw [hcount']
        exact messageFragmentFollowing_count_lt hdr hlt
    | last =>
      rw [hkind] at hpure
      dsimp only at hpure ⊢
      have hempty := messageFragmentFinal_count run.ctx.scte104 hdr
      refine given (add_comm _ _) (transfers_messageFragmentFinal hdr hcount ?_ ?_ ?_)
      · intro hzero
        have hnone := messageFragmentFinal_of_zero hdr hzero
        rw [hnone] at hpure ⊢
        rw [← add_zero ({pkt} : Multiset ℕ)]
        refine transfers_free (Transfers.pure ?_)
        refine @handsOnMessage _ _ (none, []) ?_ zero_lt_max fun h => h.2.2.1 hzero
        rw [hpure]
        exact hempty.symm
      · intro hne hnone b
        rw [hnone] at hpure ⊢
        refine given (add_comm _ _) (transfers_free (Transfers.pure ?_))
        refine handsOnMessage_lost ?_ ⟨hreg, hkind, hne, ?_⟩
        · rw [hpure]
          exact hempty
        · rw [hpure]
          dsimp only
          decide
      · intro full hfull b
        have hne : run.ctx.scte104.count ≠ 0 := fun hzero => by
          rw [messageFragmentFinal_of_zero hdr hzero] at hfull
          exact absurd hfull (by simp)
        rw [hfull] at hpure ⊢
        refine given (add_comm _ _) (((transfers_parseScte104Message full (hdr.payloadByte 0)
          pkt).frame {b}).bind fun d mid hmid => ?_)
        obtain ⟨own, ⟨hd, rfl⟩, rfl⟩ := hmid
        have hret : (Libklvanc.parseSCTE104 run hdr).1 = if d.isSome then klapiOk else -1 := by
          rw [hpure, hd]
          exact deliverScte104_fst
        have hcount' : (Libklvanc.parseSCTE104 run hdr).2.ctx.scte104.count = 0 := by
          rw [hpure]
          dsimp only
          rw [deliverScte104_ctx]
          exact hempty
        cases d with
        | none =>
          rw [ownedDecoded, zero_add]
          refine Transfers.pure (handsOnMessage_lost hcount'
            ⟨hreg, hkind, hne, ?_⟩)
          rw [hret]
          decide
        | some d =>
          refine given (add_comm _ _) (@transfers_freePtr _ _ _ (some b) _ (Transfers.pure ?_))
          rw [← add_zero (ownedDecoded (some d)), ← Multiset.coe_nil]
          exact @handsOnMessage _ _ (some d, []) hcount'.symm zero_lt_max fun h => h.2.2.2 hret
  · have hpure : Libklvanc.parseSCTE104 run hdr = (klapiOk, run) := by
      rw [Libklvanc.parseSCTE104, if_pos (by simpa using hreg)]
    rw [parseSCTE104, if_pos (by simpa using hreg)]
    refine Transfers.pure ?_
    rw [← zero_add (frags : Multiset ℕ)]
    refine @handsOnMessage _ _ (none, frags) ?_ (hcount ▸ hlt) fun h => hreg h.1
    rw [hpure]
    exact hcount

end Fragment

/-! ### Packets -/

/-- A block is let go of when the packet is handled in the run. -/
def Loses (run : KlvancRun) (hdr : KlvancPacketHeader) : Prop :=
  run.ctx.reports hdr = true ∧ hdr.type = .scte104 ∧ Undelivered run hdr

instance (run : KlvancRun) (hdr : KlvancPacketHeader) : Decidable (Loses run hdr) :=
  inferInstanceAs (Decidable (_ ∧ _ ∧ _))

section Packet

variable {run : KlvancRun} {hdr : KlvancPacketHeader} {frags : List ℕ} {ctx : Context}

/-- A decoder of single packets leaves the fragments alone. -/
lemma transfers_others {p : Program (Option Decoded)}
    (hp : Transfers p 0 fun d post => post = ownedDecoded d)
    (hcount : frags.length = run.ctx.scte104.count)
    (hlt : run.ctx.scte104.count < scte104MaxFragments) :
    Transfers (p >>= fun decoded => pure (decoded, frags)) frags (HandsOn run.ctx 0) := by
  refine given (zero_add _).symm ((hp.frame frags).bind fun d mid hmid => Transfers.pure ?_)
  obtain ⟨own, rfl, rfl⟩ := hmid
  exact ⟨hcount, hlt, 0, by rw [add_zero], Multiset.card_zero⟩

/-- What the decoder of the packet's type hands on. -/
lemma transfers_parseByType (hcount : frags.length = run.ctx.scte104.count)
    (hlt : run.ctx.scte104.count < scte104MaxFragments) :
    Transfers (parseByType run hdr frags) frags (HandsOn (Libklvanc.parseByType run hdr).2.ctx
      (if hdr.type = .scte104 ∧ Undelivered run hdr then 1 else 0)) := by
  by_cases htype : hdr.type = .scte104
  · have h := @transfers_parseSCTE104 run hdr frags hcount hlt
    rw [parseByType, Libklvanc.parseByType, htype]
    simpa only [HandsOnMessage, true_and] using h
  · have hctx : (Libklvanc.parseByType run hdr).2.ctx = run.ctx := by
      rw [parseByType_append]
      exact (parseByType_congr_of_ne rfl htype).1
    rw [hctx, if_neg (fun h => htype h.1), parseByType]
    cases hother : hdr.type with
    | undefined => exact transfers_others (Transfers.pure rfl) hcount hlt
    | scte104 => exact absurd hother htype
    | afd => exact transfers_others (transfers_decodePlain _ _) hcount hlt
    | eia708b => exact transfers_others (transfers_decodeBitstream _ _) hcount hlt
    | eia608 => exact transfers_others (transfers_decodePlain _ _) hcount hlt
    | klUint64Counter => exact transfers_others (transfers_decodePlain _ _) hcount hlt
    | sdp => exact transfers_others (transfers_decodePlain _ _) hcount hlt
    | smpteS12_2 => exact transfers_others (transfers_decodePlain _ _) hcount hlt
    | smpteS2108_1 => exact transfers_others (transfers_decodeBitstream _ _) hcount hlt

/-- A context has handed on its blocks: it mirrors the contents, and `n` blocks have been let go
of. -/
def ContextHandsOn (contents : KlvancContext) (n : ℕ) (ctx : Context) (post : Multiset ℕ) : Prop :=
  Mirrors contents ctx ∧ ∃ lost, post = ctx.owned + lost ∧ lost.card = n

/-- A program on a context and then another one: both let go of blocks. -/
lemma transfers_then {m : Program Context} {f : Context → Program Context}
    {mid after : KlvancContext} {n n' : ℕ} (hm : Transfers m ctx.owned (ContextHandsOn mid n))
    (hf : ∀ ctx', Mirrors mid ctx' → Transfers (f ctx') ctx'.owned (ContextHandsOn after n')) :
    Transfers (m >>= f) ctx.owned (ContextHandsOn after (n + n')) := by
  refine hm.bind fun ctx' post hpost => ?_
  obtain ⟨hmirrors, lost, rfl, rfl⟩ := hpost
  refine ((hf ctx' hmirrors).frame lost).weaken fun ctx'' post hpost => ?_
  obtain ⟨own, ⟨hmirrors', lost', rfl, rfl⟩, rfl⟩ := hpost
  refine ⟨hmirrors', lost' + lost, add_assoc _ _ _, ?_⟩
  rw [Multiset.card_add, add_comm]

/-- The fragments that a decoder leaves depend on the callbacks set and the fragments it finds. -/
lemma parseByType_scte104 {run run' : KlvancRun} (hreg : run.ctx.registered = run'.ctx.registered)
    (hfrags : run.ctx.scte104 = run'.ctx.scte104) :
    (Libklvanc.parseByType run hdr).2.ctx.scte104 =
      (Libklvanc.parseByType run' hdr).2.ctx.scte104 := by
  rw [parseByType_append, parseByType_append run']
  change (Libklvanc.parseByType (.start run.ctx) hdr).2.ctx.scte104 =
    (Libklvanc.parseByType (.start run'.ctx) hdr).2.ctx.scte104
  by_cases htype : hdr.type = .scte104
  · exact (parseByType_congr hreg fun _ => hfrags).1 htype
  · rw [(parseByType_congr_of_ne hreg htype).1, (parseByType_congr_of_ne hreg.symm htype).1, hfrags]

/-- The cache that a packet leaves, and the number of fragments: those that its decoder leaves, if
the packet is reported. -/
lemma processPacket_contents (run : KlvancRun) (hdr : KlvancPacketHeader) :
    (Libklvanc.processPacket run hdr).ctx.cacheLines =
        (Libklvanc.klvancCacheUpdate run.ctx.cacheLines hdr).1 ∧
      (Libklvanc.processPacket run hdr).ctx.scte104 =
        if run.ctx.reports hdr then (Libklvanc.parseByType run hdr).2.ctx.scte104
        else run.ctx.scte104 := by
  unfold Libklvanc.processPacket
  dsimp only
  have hstored : (run.setCacheLines
      (Libklvanc.klvancCacheUpdate run.ctx.cacheLines hdr).1).ctx.reports hdr =
      run.ctx.reports hdr := rfl
  rw [hstored]
  split_ifs with hreports hall
  · obtain ⟨frags, hctx⟩ := parseByType_ctx ((run.setCacheLines
      (Libklvanc.klvancCacheUpdate run.ctx.cacheLines hdr).1).call (.all hdr)) hdr
    refine ⟨?_, parseByType_scte104 rfl rfl⟩
    rw [hctx]
    rfl
  · obtain ⟨frags, hctx⟩ := parseByType_ctx (run.setCacheLines
      (Libklvanc.klvancCacheUpdate run.ctx.cacheLines hdr).1) hdr
    refine ⟨?_, parseByType_scte104 rfl rfl⟩
    rw [hctx]
    rfl
  · exact ⟨rfl, rfl⟩

/-- A packet is handled: its block is freed, and one block is let go of if the packet loses one. -/
lemma transfers_processPacket (h : Mirrors run.ctx ctx) (hdr : KlvancPacketHeader) :
    Transfers (processPacket run hdr ctx) ctx.owned (ContextHandsOn
      (Libklvanc.processPacket run hdr).ctx (if Loses run hdr then 1 else 0)) := by
  obtain ⟨hcache, hfrags⟩ := processPacket_contents run hdr
  rw [processPacket]
  refine transfers_alloc fun packet => ?_
  refine given ?_ (((transfers_klvancCacheUpdate h.cacheLines hdr).frame
    ({packet} + ({ctx.self} + (ctx.scte104Fragments : Multiset ℕ)))).bind fun cache mid hmid => ?_)
  · rw [Context.owned]
    abel
  · obtain ⟨own, ⟨hmirrors, rfl⟩, rfl⟩ := hmid
    rw [← hcache] at hmirrors
    by_cases hreports : run.ctx.reports hdr = true
    · have hloses : Loses run hdr ↔ hdr.type = .scte104 ∧ Undelivered run hdr :=
        and_iff_right hreports
      rw [if_pos hreports] at hfrags ⊢
      refine given (by abel) (((@transfers_parseByType run hdr _ h.fragments h.count_lt).frame
        (ownedCache cache + ({packet} + {ctx.self}))).bind fun r mid hmid => ?_)
      obtain ⟨own, ⟨hcount, hlt, lost, rfl, hlost⟩, rfl⟩ := hmid
      rw [← hfrags] at hcount hlt
      refine given ?_ (@transfers_freeDecoded _ _ ({packet} + (Context.owned
        { ctx with cacheLines := cache, scte104Fragments := r.2 } + lost)) _ r.1 ?_)
      · rw [Context.owned]
        abel
      · refine transfers_free (Transfers.pure ⟨⟨hmirrors, hcount, hlt⟩, lost, rfl, ?_⟩)
        rw [hlost, if_congr hloses rfl rfl]
    · rw [if_neg hreports] at hfrags ⊢
      have hblocks : ownedCache cache +
          ({packet} + ({ctx.self} + (ctx.scte104Fragments : Multiset ℕ))) =
          {packet} + Context.owned { ctx with cacheLines := cache } := by
        rw [Context.owned]
        abel
      refine given hblocks (transfers_free (Transfers.pure ⟨⟨hmirrors, ?_, ?_⟩, 0, ?_, ?_⟩))
      · rw [hfrags]
        exact h.fragments
      · rw [hfrags]
        exact h.count_lt
      · rw [add_zero]
      · rw [if_neg (fun hand => hreports hand.1), Multiset.card_zero]

end Packet

/-! ### Lines -/

section Lines

variable {ctx : Context} (lineNr : ℕ) (arr : List Word) (len : ℕ)

/-- The packets that the loop of `klvanc_packet_parse` handles, each with the run that it is handled
in. -/
def handledBy (bound : ℕ) : ℕ → ℕ → KlvancRun → List (KlvancRun × KlvancPacketHeader)
  | 0, _, _ => []
  | fuel + 1, i, run =>
    if i < bound then
      match parse run arr i (uintSub len i) with
      | (.error _, run) => handledBy bound fuel (i + 1) run
      | (.ok hdr, run) =>
        let hdr := { hdr with horizontalOffset := i % 2 ^ 16, lineNr := lineNr }
        (run, hdr) :: handledBy bound fuel (i + 7) (Libklvanc.processPacket run hdr)
    else []

/-- The number of blocks that are let go of when the packets are handled. -/
def lostWith (handled : List (KlvancRun × KlvancPacketHeader)) : ℕ :=
  handled.countP fun p => Loses p.1 p.2

/-- A search for a packet leaves the pointers alone. -/
lemma Mirrors.parse {run : KlvancRun} (h : Mirrors run.ctx ctx) (i len : ℕ) :
    Mirrors (parse run arr i len).2.ctx ctx := by
  have hkeeps : (Libklvanc.parse run arr i len).2.ctx.cacheLines = run.ctx.cacheLines ∧
      (Libklvanc.parse run arr i len).2.ctx.scte104 = run.ctx.scte104 := by
    rw [Libklvanc.parse]
    split_ifs <;> exact ⟨rfl, rfl⟩
  refine ⟨?_, ?_, ?_⟩
  · rw [hkeeps.1]
    exact h.cacheLines
  · rw [hkeeps.2]
    exact h.fragments
  · rw [hkeeps.2]
    exact h.count_lt

/-- The loop lets go of what the packets that it handles lose. -/
lemma transfers_klvancPacketParseLoop (bound fuel i : ℕ) (attempts : ℤ) {run : KlvancRun}
    (h : Mirrors run.ctx ctx) :
    Transfers (klvancPacketParseLoop lineNr arr len bound fuel i run ctx) ctx.owned (ContextHandsOn
      (Libklvanc.klvancPacketParseLoop lineNr arr len bound fuel i attempts run).2.ctx
      (lostWith (handledBy lineNr arr len bound fuel i run))) := by
  induction fuel generalizing i attempts run ctx with
  | zero => exact Transfers.pure ⟨h, 0, (add_zero _).symm, rfl⟩
  | succ fuel ih =>
    have hparse := h.parse arr i (uintSub len i)
    rw [klvancPacketParseLoop, Libklvanc.klvancPacketParseLoop, handledBy]
    split_ifs with hbound
    · rcases hfound : parse run arr i (uintSub len i) with ⟨ret | hdr, run'⟩
      · rw [hfound] at hparse
        exact ih _ _ hparse
      · rw [hfound] at hparse
        dsimp only
        rw [lostWith, List.countP_cons, Nat.add_comm (List.countP _ _)]
        simp only [decide_eq_true_eq]
        exact transfers_then (transfers_processPacket hparse _) fun ctx' h' => ih _ _ h'
    · exact Transfers.pure ⟨h, 0, (add_zero _).symm, rfl⟩

/-- The packets that `klvanc_packet_parse` handles. -/
def handledOn (run : KlvancRun) : List (KlvancRun × KlvancPacketHeader) :=
  if len = 0 then []
  else if packetMaxPayload < len then []
  else handledBy lineNr arr len (uintSub len 7) (uintSub len 7) 0 run

/-- A line lets go of what the packets on it lose. -/
lemma transfers_klvancPacketParse {run : KlvancRun} (h : Mirrors run.ctx ctx) :
    Transfers (klvancPacketParse lineNr arr len run ctx) ctx.owned (ContextHandsOn
      (Libklvanc.klvancPacketParse lineNr arr len run).2.ctx
      (lostWith (handledOn lineNr arr len run))) := by
  unfold klvancPacketParse Libklvanc.klvancPacketParse handledOn
  split_ifs
  · exact Transfers.pure ⟨h, 0, (add_zero _).symm, rfl⟩
  · exact Transfers.pure ⟨h, 0, (add_zero _).symm, rfl⟩
  · exact transfers_klvancPacketParseLoop _ _ _ _ _ _ _ h

end Lines

/-! ### From the first call to the last -/

/-- The number of blocks that a call lets go of: the packets on a line lose what they lose, and with
a cache that is enabled over go its array and the packets in its entries. -/
def Call.lost (run : KlvancRun) : Call → ℕ
  | enableCache => run.ctx.cacheLines.elim 0 fun lines => 1 + heldPackets lines
  | event (.line l) => lostWith (handledOn l.lineNr l.words l.words.length run)
  | event .resetCache => 0

/-- The run after some calls. -/
def afterCalls (run : KlvancRun) (calls : List Call) : KlvancRun := calls.foldl Call.run run

/-- The number of blocks that some calls let go of. -/
def lostByCalls : KlvancRun → List Call → ℕ
  | _, [] => 0
  | run, c :: cs => c.lost run + lostByCalls (c.run run) cs

section Calls

variable {run : KlvancRun} {ctx : Context}

/-- A reset of the cache lets go of nothing. -/
lemma transfers_resetCache (h : Mirrors run.ctx ctx) :
    Transfers (Call.blocks run ctx (.event .resetCache)) ctx.owned
      (ContextHandsOn (ContextEvent.run run .resetCache).ctx 0) := by
  obtain ⟨self, cacheLines, frags⟩ := ctx
  obtain ⟨⟨verbose, allow, callbacks, logCb, failures, lines, scte104⟩, calls, lineFaults,
      faults⟩ := run
  obtain ⟨hcache, hfrags, hlt⟩ := h
  dsimp only at hcache hfrags hlt
  cases hcache with
  | none => exact Transfers.pure ⟨⟨Option.Rel.none, hfrags, hlt⟩, 0, (add_zero _).symm, rfl⟩
  | @some lines c hmirrors =>
    obtain ⟨lines', hreset, hmirrors'⟩ := hmirrors.reset
    have hown : ∀ c : Cache, Context.owned ⟨self, some c, frags⟩ =
        c.owned + ({self} + (frags : Multiset ℕ)) := fun c => by
      rw [Context.owned, ownedCache]
      abel
    have hreset' := (transfers_klvancCacheReset lines c).frame ({self} + (frags : Multiset ℕ))
    refine given (hown c) (hreset'.bind fun c' mid hmid => ?_)
    obtain ⟨own, ⟨hc', rfl⟩, rfl⟩ := hmid
    rw [← hc'] at hmirrors'
    have hafter : (ContextEvent.run
        ⟨⟨verbose, allow, callbacks, logCb, failures, some lines, scte104⟩,
        calls, lineFaults, faults⟩ .resetCache).ctx.cacheLines = some lines' := hreset
    refine Transfers.pure ⟨⟨?_, hfrags, hlt⟩, 0, ?_, rfl⟩
    · rw [hafter]
      exact Option.Rel.some hmirrors'
    · rw [hown, add_zero]

/-- A call lets go of what it loses. -/
lemma transfers_call (h : Mirrors run.ctx ctx) (c : Call) :
    Transfers (c.blocks run ctx) ctx.owned (ContextHandsOn (c.run run).ctx (c.lost run)) := by
  cases c with
  | enableCache =>
    rw [Call.blocks, klvancContextEnableCache]
    refine transfers_alloc fun array => Transfers.pure ⟨⟨?_, h.fragments, h.count_lt⟩,
      ownedCache ctx.cacheLines, ?_, ?_⟩
    · exact Option.Rel.some ⟨fun _ _ => rfl, fun _ _ => rfl⟩
    · rw [Context.owned, Context.owned, ownedCache, Cache.owned, table_none]
      abel
    · exact card_ownedCache h.cacheLines
  | event e =>
    cases e with
    | line l => exact transfers_klvancPacketParse _ _ _ h
    | resetCache =>
      exact transfers_resetCache h

/-- Some calls let go of what each of them loses. -/
lemma transfers_runCalls (h : Mirrors run.ctx ctx) (calls : List Call) :
    Transfers (runCalls run ctx calls) ctx.owned fun r post => r.1 = afterCalls run calls ∧
      ContextHandsOn (afterCalls run calls).ctx (lostByCalls run calls) r.2 post := by
  induction calls generalizing run ctx with
  | nil => exact Transfers.pure ⟨rfl, h, 0, (add_zero _).symm, rfl⟩
  | cons c cs ih =>
    rw [runCalls]
    refine (transfers_call h c).bind fun ctx' mid hmid => ?_
    obtain ⟨hmirrors, lost, rfl, hlost⟩ := hmid
    refine ((ih hmirrors).frame lost).weaken fun r post hpost => ?_
    obtain ⟨own, ⟨hrun, hmirrors', lost', rfl, hlost'⟩, rfl⟩ := hpost
    refine ⟨hrun, hmirrors', lost' + lost, add_assoc _ _ _, ?_⟩
    rw [Multiset.card_add, hlost, hlost', lostByCalls, add_comm]

/-- The destruction of a context leaves the packets in the entries of its cache that a reset passes
over. -/
lemma transfers_klvancContextDestroy (h : Mirrors run.ctx ctx) :
    Transfers (klvancContextDestroy run ctx) ctx.owned fun _ post =>
      post.card = run.ctx.cacheLines.elim 0 strandedPackets := by
  rw [klvancContextDestroy, Context.owned, add_comm, add_assoc]
  refine ((transfers_klvancCacheFree h.cacheLines).frame _).bind fun _ mid hmid => ?_
  obtain ⟨own, hown, rfl⟩ := hmid
  refine given (by abel) (@transfers_messageFragmentReset ctx.scte104Fragments _ _
    ({ctx.self} + own) _ ?_)
  rw [← bind_pure (free ctx.self)]
  exact transfers_free (Transfers.pure hown)

/-- What is left of a context that has been created, used and destroyed. -/
lemma transfers_lifetime (callbacks : Option KlvancCallbacks) (allowBadChecksums : Bool)
    (calls : List Call) :
    Transfers (lifetime callbacks allowBadChecksums calls) 0 fun _ post =>
      post.card = lostByCalls (.start { callbacks, allowBadChecksums }) calls +
        (afterCalls (.start { callbacks, allowBadChecksums }) calls).ctx.cacheLines.elim 0
          strandedPackets := by
  set start : KlvancRun := .start { callbacks, allowBadChecksums } with hstart
  rw [lifetime, klvancContextCreate, bind_assoc]
  refine transfers_alloc fun self => ?_
  have hmirrors : Mirrors start.ctx { self } := ⟨Option.Rel.none, rfl, zero_lt_max⟩
  rw [pure_bind]
  refine given ?_ ((transfers_runCalls hmirrors calls).bind fun r mid hmid => ?_)
  · rw [Context.owned, ownedCache, Multiset.coe_nil, add_zero, add_zero, add_zero]
  · obtain ⟨run, ctx⟩ := r
    obtain ⟨hrun, hmirrors', lost, rfl, hlost⟩ := hmid
    dsimp only at hrun hmirrors' ⊢
    subst hrun
    refine ((transfers_klvancContextDestroy hmirrors').frame lost).weaken fun _ post hpost => ?_
    obtain ⟨own, hown, rfl⟩ := hpost
    rw [Multiset.card_add, hown, hlost, add_comm]

end Calls

/-- Whatever an application does with a context, no block is freed twice, and the blocks that are
live after the destruction of the context are as many as its calls have let go of and as there are
packets in the entries of the cache that a reset passes over. -/
theorem lifetime_lost (callbacks : Option KlvancCallbacks) (allowBadChecksums : Bool)
    (calls : List Call) :
    ∃ h, lifetime callbacks allowBadChecksums calls Heap.empty = some ((), h) ∧
      h.live.card = lostByCalls (.start { callbacks, allowBadChecksums }) calls +
        (afterCalls (.start { callbacks, allowBadChecksums }) calls).ctx.cacheLines.elim 0
          strandedPackets := by
  obtain ⟨_, h, hrun, hcard⟩ := (transfers_lifetime callbacks allowBadChecksums calls).run_empty
  exact ⟨h, hrun, hcard⟩

/-! ### A cache that is enabled once -/

/-- The packets handled at an event. -/
def handledAt (run : KlvancRun) : ContextEvent → List (KlvancRun × KlvancPacketHeader)
  | .line l => handledOn l.lineNr l.words l.words.length run
  | .resetCache => []

/-- The packets handled in some events. -/
def handledIn : KlvancRun → List ContextEvent → List (KlvancRun × KlvancPacketHeader)
  | _, [] => []
  | run, e :: es => handledAt run e ++ handledIn (e.run run) es

/-- Events let go of what the packets on their lines lose. -/
lemma lostByCalls_events (run : KlvancRun) (es : List ContextEvent) :
    lostByCalls run (es.map .event) = lostWith (handledIn run es) := by
  induction es generalizing run with
  | nil => rfl
  | cons e es ih =>
    rw [List.map_cons, lostByCalls, ih, handledIn, lostWith, lostWith, List.countP_append]
    cases e <;> rfl

/-- Events run as they do among the calls. -/
lemma afterCalls_events (run : KlvancRun) (es : List ContextEvent) :
    afterCalls run (es.map .event) = runEvents run es := by
  rw [afterCalls, List.foldl_map]
  rfl

/-- A reset passes over no packet of a cache in which no sum has wrapped. -/
lemma strandedPackets_eq_zero {c : KlvancCacheLines} {pkts : List KlvancPacketHeader}
    (h : CacheHolds c pkts) (hsums : ∀ did sdid : Byte, 2 ^ 32 ∣ (entryHits did sdid pkts).length →
      (entryHits did sdid pkts).length = 0) : strandedPackets c = 0 := by
  rw [strandedPackets, Finset.card_eq_zero, Finset.filter_eq_empty_iff]
  rintro ⟨i, l⟩ hk ⟨hcount, hsome⟩
  obtain ⟨hi, hl⟩ := mem_cacheKeys.mp hk
  have hindex : klvancCacheIndex (BitVec.ofNat 8 (i / 256)) (BitVec.ofNat 8 (i % 256)) = i := by
    rw [klvancCacheIndex, BitVec.toNat_ofNat, BitVec.toNat_ofNat]
    omega
  have hentry : klvancCacheLookup c (BitVec.ofNat 8 (i / 256)) (BitVec.ofNat 8 (i % 256)) =
      c i := by
    rw [klvancCacheLookup, hindex]
  have hactive := h.activeCount (BitVec.ofNat 8 (i / 256)) (BitVec.ofNat 8 (i % 256))
  have hline := h.lines (BitVec.ofNat 8 (i / 256)) (BitVec.ofNat 8 (i % 256)) ⟨l, hl⟩
  rw [hentry] at hactive hline
  rw [hcount] at hactive
  have hzero := hsums _ _ (Nat.dvd_of_mod_eq_zero (congrArg BitVec.toNat hactive).symm)
  rw [hline, lineHits_eq_nil (List.eq_nil_of_length_eq_zero hzero)] at hsome
  exact Bool.false_ne_true hsome

/-- If the cache is enabled once, before the first line, and no sum of it has wrapped at a reset or
at the destruction, then one block is left for every final fragment that finds fragments but
delivers no message, and no other. -/
theorem lifetime_fragments {callbacks : Option KlvancCallbacks} {allowBadChecksums : Bool}
    {es : List ContextEvent} (hes : ∀ e ∈ es, e.Parsable)
    (hsums : SumsUnwrapped (es.flatMap ContextEvent.cacheOps ++ [.reset])) :
    ∃ h, lifetime callbacks allowBadChecksums (.enableCache :: es.map .event) Heap.empty =
        some ((), h) ∧
      h.live.card = lostWith (handledIn (.start
        (Libklvanc.klvancContextEnableCache { callbacks, allowBadChecksums }).2) es) := by
  obtain ⟨_, h, hrun, hcard⟩ :=
    (transfers_lifetime callbacks allowBadChecksums (.enableCache :: es.map .event)).run_empty
  refine ⟨h, hrun, ?_⟩
  set start := KlvancRun.start
    (Libklvanc.klvancContextEnableCache { callbacks, allowBadChecksums }).2
  obtain ⟨c, hcache, hholds⟩ := cacheRun_holds (hsums.of_prefix (List.prefix_append _ _))
  have hfound := (KlvancRun.Found.events start hes).cacheLines
  have hlost : lostByCalls (.start { callbacks, allowBadChecksums })
      (.enableCache :: es.map .event) =
      lostWith (handledIn start es) := by
    rw [lostByCalls, ← lostByCalls_events, Call.lost]
    exact Nat.zero_add _
  have hafter : (afterCalls (.start { callbacks, allowBadChecksums })
      (.enableCache :: es.map .event)).ctx.cacheLines = some c := by
    rw [afterCalls, List.foldl_cons, ← hcache]
    exact (congrArg (·.ctx.cacheLines) (afterCalls_events start es)).trans hfound
  refine hcard.trans ?_
  rw [hlost, hafter, Option.elim_some, strandedPackets_eq_zero hholds, add_zero]
  exact hsums _ (List.prefix_refl _)

/-- A line with two fragments that make no message which the library knows, and a reset of the
cache. -/
def brokenMessage : List ContextEvent :=
  [.line ⟨9, SdiPacket.line [.ofBytes 0x41 0x07 [0x0c, 0, 1] (Eq.refl true),
    .ofBytes 0x41 0x07 [0x0a, 0, 2] (Eq.refl true)]⟩, .resetCache]

/-- The header assembled from them is never freed. -/
theorem lifetime_fragments_broken : ∃ h, lifetime (some { scte104 := true }) false
    (.enableCache :: brokenMessage.map .event) Heap.empty = some ((), h) ∧ h.live.card = 1 := by
  obtain ⟨h, hrun, hcard⟩ := @lifetime_fragments (some { scte104 := true }) false brokenMessage
    (by decide +kernel) (sumsUnwrapped_of_length_lt (by decide +kernel))
  refine ⟨h, hrun, hcard.trans ?_⟩
  decide +kernel

end Libklvanc.Blocks
