import Libklvanc.Core.BlockLifetime
import Libklvanc.Tools.Smpte2038Receiver

/-!
# The memory of the SMPTE 2038 receiver

`pes_cb` of `tools/smpte2038.c` parses a PES packet, hands its lines to `klvanc_packet_parse` and
frees what the parser has allocated. `klvanc_smpte2038_anc_data_packet_free` frees the words of a
line only if its data count is not zero, and the array of the lines only if there are lines, though
the parser allocates both before it knows; a line that turns out to be cut off is not counted, but
its words are allocated. These are the blocks that the callback leaves behind (`sectionLost`), apart
from those that the context lets go of, and it frees no block twice (`receiverLifetime_lost`).

The parser and the decoders are computed on behind a memory fault, on the zeros read there; the
result is about the tool in runs that meet none.
-/

namespace Libklvanc.Blocks

open Ownership Smpte2038

/-! ### The parser -/

/-- `struct klvanc_smpte2038_anc_data_packet_s`: the packet, the array `lines`, and for each of its
lines the data count and the array `user_data_words`. -/
structure AncDataPacket where
  self : ℕ
  lines : Option ℕ := none
  userDataWords : List (Word × ℕ) := []

/-- One round of the loop of `smpte2038_parse_pes_payload_int`, up to the data count. -/
def ancDataLineStart : KlbsDecoder KlvancSmpte2038AncDataLine := do
  let reserved000000 ← KlbsDecoder.readBits 8 6
  validate reserved000000 0
  let cNotYChannelFlag ← KlbsDecoder.readBits 8 1
  validate cNotYChannelFlag 0
  readAncDataHeader reserved000000 cNotYChannelFlag

/-- The rest of the round, up to the checksum word. -/
def ancDataLineRest (l : KlvancSmpte2038AncDataLine) : KlbsDecoder KlvancSmpte2038AncDataLine := do
  KlbsDecoder.needOctets ((vanc8 l.dataCount + 1) * 10 / 8) (-1)
  readAncDataWords l

/-- The loop of `smpte2038_parse_pes_payload_int`. What `realloc` returns is another block than the
one it is given. -/
def parsePesPayloadLoop : ℕ → AncDataPacket → ℤ → KlbsContext → Program AncDataPacket
  | 0, h, _, _ => pure h
  | fuel + 1, h, rem, bs =>
    if 4 < rem then do
      freePtr h.lines
      let lines ← alloc
      let h := { h with lines := some lines }
      match ancDataLineStart.run.run bs with
      | (.error _, _) => pure h
      | (.ok l, bs) => do
        let userDataWords ← alloc
        match (ancDataLineRest l).run.run bs with
        | (.error _, _) => pure h
        | (.ok l, bs) =>
          let (rem, bs) := alignToLine fuel bs
          parsePesPayloadLoop fuel
            { h with userDataWords := h.userDataWords ++ [(l.dataCount, userDataWords)] } rem bs
    else pure h

/-- `smpte2038_parse_pes_payload_int`. -/
def parsePesPayloadInt (h : AncDataPacket) (bs : KlbsContext) : Program AncDataPacket :=
  parsePesPayloadLoop (8 * klbsGetBufferSize bs) h (byteCountRem bs) bs

/-- The loop of `klvanc_smpte2038_anc_data_packet_free` over the lines. -/
def freeUserDataWords : List (Word × ℕ) → Program Unit
  | [] => pure ()
  | l :: ls =>
    if vanc8 l.1 ≠ 0 then do
      free l.2
      freeUserDataWords ls
    else freeUserDataWords ls

/-- `klvanc_smpte2038_anc_data_packet_free`. -/
def klvancSmpte2038AncDataPacketFree (pkt : AncDataPacket) : Program Unit := do
  freeUserDataWords pkt.userDataWords
  if pkt.userDataWords.length ≠ 0 then do
    freePtr pkt.lines
    free pkt.self
  else free pkt.self

/-- `klvanc_smpte2038_parse_pes_packet`: the packet, unless a field of the header is invalid. -/
def klvancSmpte2038ParsePesPacket (sectionBytes : List Byte) (byteCount : ℕ) :
    Program (Option AncDataPacket) := do
  let bs ← alloc
  let h ← alloc
  match parsePesHeader.run.run (klbsReadSetBuffer sectionBytes byteCount) with
  | (.error _, _) => do
    free h
    free bs
    pure none
  | (.ok _, reader) => do
    let h ← parsePesPayloadInt { self := h } reader
    free bs
    pure (some h)

/-! ### The callback -/

/-- What the loop of `pes_cb` does with a line. -/
def pesCbLine (app : AppContext) (ctx : Context) (l : KlvancSmpte2038AncDataLine) :
    Program Context := do
  let words ← alloc
  let ctx ← klvancPacketParse l.lineNumber.toNat (klvancSmpte2038ConvertLineToWords l)
    (klvancSmpte2038ConvertLineToWords l).length app.vanchdl ctx
  free words
  pure ctx

/-- The loop of `pes_cb` over the lines. -/
def pesCbLines : AppContext → Context → List KlvancSmpte2038AncDataLine → Program Context
  | _, ctx, [] => pure ctx
  | app, ctx, l :: ls => do
    let ctx ← pesCbLine app ctx l
    pesCbLines (Smpte2038.pesCbLine app l) ctx ls

/-- The state of the tool when the loop of `pes_cb` begins. -/
def packetFound (app : AppContext) (buf : List Byte) : AppContext :=
  { app with
    pesPacketsFound := app.pesPacketsFound + 1
    vanchdl :=
      app.vanchdl.addFaults (Smpte2038.klvancSmpte2038ParsePesPacket buf buf.length).faults }

/-- `pes_cb`. -/
def pesCb (app : AppContext) (ctx : Context) (buf : List Byte) : Program Context := do
  let pkt ← klvancSmpte2038ParsePesPacket buf buf.length
  match pkt, (Smpte2038.klvancSmpte2038ParsePesPacket buf buf.length).val.2 with
  | some pkt, some contents => do
    let ctx ← pesCbLines (packetFound app buf) ctx contents.lines
    klvancSmpte2038AncDataPacketFree pkt
    pure ctx
  | _, _ => pure ctx

/-- PES packets that are handed to the callback one after the other. -/
def pesCbs : AppContext → Context → List (List Byte) → Program Context
  | _, ctx, [] => pure ctx
  | app, ctx, buf :: bufs => do
    let ctx ← pesCb app ctx buf
    pesCbs (Smpte2038.pesCb app buf) ctx bufs

/-- The state of the tool when the first PES packet arrives. -/
def receiverStart (pe : PesExtractor) (callbacks : KlvancCallbacks) : AppContext where
  pesPacketsFound := 0
  vancPacketsFound := 0
  pe := pe
  vanchdl := .start { KlvancContext.create with verbose := 1, callbacks := some callbacks }

/-- The context of the receiver from its creation to its destruction, with the PES packets `bufs` in
between. -/
def receiverLifetime (app : AppContext) (bufs : List (List Byte)) : Program Unit := do
  let ctx ← klvancContextCreate
  let ctx ← pesCbs app ctx bufs
  klvancContextDestroy (bufs.foldl Smpte2038.pesCb app).vanchdl ctx

/-! ### What the parser allocates -/

/-- The blocks of a packet. -/
def AncDataPacket.owned (h : AncDataPacket) : Multiset ℕ :=
  {h.self} + (ofPtr h.lines + ((h.userDataWords.map Prod.snd : List ℕ) : Multiset ℕ))

/-- The number of arrays of words that the loop has allocated for a line that is cut off. -/
def cutOff : ℕ → ℤ → KlbsContext → ℕ
  | 0, _, _ => 0
  | fuel + 1, rem, bs =>
    if 4 < rem then
      match ancDataLineStart.run.run bs with
      | (.error _, _) => 0
      | (.ok l, bs) =>
        match (ancDataLineRest l).run.run bs with
        | (.error _, _) => 1
        | (.ok _, bs) =>
          let (rem, bs) := alignToLine fuel bs
          cutOff fuel rem bs
    else 0

/-- The loop allocates an array for the lines. -/
def linesBegun (fuel : ℕ) (rem : ℤ) : Bool := decide (fuel ≠ 0 ∧ 4 < rem)

/-- A round is its two halves. -/
lemma parseAncDataLine_eq : parseAncDataLine = ancDataLineStart >>= ancDataLineRest := by
  unfold parseAncDataLine ancDataLineStart ancDataLineRest
  simp only [bind_assoc]

/-- The words of some lines and those of one more. -/
lemma owned_append (h : AncDataPacket) (count : Word) (words : ℕ) :
    AncDataPacket.owned { h with userDataWords := h.userDataWords ++ [(count, words)] } =
      {words} + h.owned := by
  rw [AncDataPacket.owned, AncDataPacket.owned, List.map_append, ← Multiset.coe_add,
    List.map_singleton, Multiset.coe_singleton]
  abel

/-- What the loop hands on: as many arrays of words as lines, and the array of the lines if it has
begun one. -/
def HandsOnLines (lines : List KlvancSmpte2038AncDataLine) (begun : Bool) (n : ℕ)
    (h : AncDataPacket)
    (post : Multiset ℕ) : Prop :=
  h.userDataWords.map Prod.fst = lines.map (·.dataCount) ∧ h.lines.isSome = begun ∧
    ∃ lost, post = h.owned + lost ∧ lost.card = n

section Loop

variable {h : AncDataPacket} {rem : ℤ} {bs : KlbsContext}

/-- The loop stops. -/
lemma parsePesPayloadLoop_pure (fuel : ℕ) (hrem : ¬4 < rem) :
    parsePesPayloadLoop fuel h rem bs = pure h := by
  cases fuel with
  | zero => rfl
  | succ fuel => exact if_neg hrem

lemma cutOff_eq_zero (fuel : ℕ) (hrem : ¬4 < rem) : cutOff fuel rem bs = 0 := by
  cases fuel with
  | zero => rfl
  | succ fuel => exact if_neg hrem

-- As above, the loops are unfolded together with the decoders.
attribute [local irreducible] ancDataLineStart ancDataLineRest alignToLine in
/-- One round of the loop. -/
lemma parsePesPayloadLoop_round (fuel : ℕ) (hrem : 4 < rem) :
    parsePesPayloadLoop (fuel + 1) h rem bs = freePtr h.lines >>= fun _ => alloc >>= fun lines =>
      match ancDataLineStart.run.run bs with
      | (.error _, _) => pure { h with lines := some lines }
      | (.ok l, bs) => alloc >>= fun userDataWords =>
        match (ancDataLineRest l).run.run bs with
        | (.error _, _) => pure { h with lines := some lines }
        | (.ok l, bs) => parsePesPayloadLoop fuel { h with
            lines := some lines
            userDataWords := h.userDataWords ++ [(l.dataCount, userDataWords)] }
          (alignToLine fuel bs).1 (alignToLine fuel bs).2 :=
  if_pos hrem

attribute [local irreducible] ancDataLineStart ancDataLineRest alignToLine in
lemma cutOff_round (fuel : ℕ) (hrem : 4 < rem) : cutOff (fuel + 1) rem bs =
    match ancDataLineStart.run.run bs with
    | (.error _, _) => 0
    | (.ok l, bs) =>
      match (ancDataLineRest l).run.run bs with
      | (.error _, _) => 1
      | (.ok _, bs) => cutOff fuel (alignToLine fuel bs).1 (alignToLine fuel bs).2 :=
  if_pos hrem

/-- The loop lets go of the words of a line that is cut off. -/
lemma transfers_parsePesPayloadLoop (fuel : ℕ) {lines : List KlvancSmpte2038AncDataLine}
    (hcounts : h.userDataWords.map Prod.fst = lines.map (·.dataCount)) :
    Transfers (parsePesPayloadLoop fuel h rem bs) h.owned (HandsOnLines
      (Smpte2038.parsePesPayloadLoop fuel lines rem bs).1.2 (h.lines.isSome || linesBegun fuel rem)
      (cutOff fuel rem bs)) := by
  induction fuel generalizing h lines rem bs with
  | zero =>
    have hpure : parsePesPayloadLoop 0 h rem bs = pure h := rfl
    have hlines : Smpte2038.parsePesPayloadLoop 0 lines rem bs = ((0, lines), bs) := rfl
    rw [hpure, hlines]
    exact Transfers.pure ⟨hcounts, (Bool.or_false _).symm, 0, (add_zero _).symm, rfl⟩
  | succ fuel ih =>
    by_cases hrem : 4 < rem
    · have hbegun : (h.lines.isSome || linesBegun (fuel + 1) rem) = true := by
        rw [linesBegun, decide_eq_true ⟨Nat.succ_ne_zero fuel, hrem⟩, Bool.or_true]
      rw [parsePesPayloadLoop_round fuel hrem, parsePesPayloadLoop_succ fuel hrem,
        cutOff_round fuel hrem, parseAncDataLine_eq, hbegun, AncDataPacket.owned]
      refine given (by abel) (@transfers_freePtr _ ({h.self} +
        ((h.userDataWords.map Prod.snd : List ℕ) : Multiset ℕ)) _ h.lines _
          (transfers_alloc fun array => ?_))
      have harray : {array} + ({h.self} + ((h.userDataWords.map Prod.snd : List ℕ) : Multiset ℕ)) =
          AncDataPacket.owned { h with lines := some array } := by
        rw [AncDataPacket.owned, ofPtr]
        abel
      refine given harray ?_
      rcases hstart : ancDataLineStart.run.run bs with ⟨ret | l, bs₁⟩
      · rw [KlbsDecoder.run_bind_of_error hstart]
        exact Transfers.pure ⟨hcounts, rfl, 0, (add_zero _).symm, rfl⟩
      · rw [KlbsDecoder.run_bind_of_ok hstart]
        refine transfers_alloc fun words => ?_
        dsimp only
        rcases hrest : (ancDataLineRest l).run.run bs₁ with ⟨ret | l', bs₂⟩
        · exact Transfers.pure ⟨hcounts, rfl, {words}, add_comm _ _, rfl⟩
        · refine given (owned_append { h with lines := some array } l'.dataCount words).symm ?_
          refine @ih { h with
            lines := some array
            userDataWords := h.userDataWords ++ [(l'.dataCount, words)] } _ _ _ ?_
          rw [List.map_append, List.map_append, hcounts]
          rfl
    · have hstop : linesBegun (fuel + 1) rem = false := decide_eq_false fun hand => hrem hand.2
      rw [parsePesPayloadLoop_pure _ hrem, parsePesPayloadLoop_stop _ hrem, cutOff_eq_zero _ hrem,
        hstop]
      exact Transfers.pure ⟨hcounts, (Bool.or_false _).symm, 0, (add_zero _).symm, rfl⟩

end Loop

/-! ### What is freed -/

section Free

variable {α : Type} {f : Unit → Program α} {pre : Multiset ℕ} {Q : α → Multiset ℕ → Prop}

/-- The words of lines without words are not freed. -/
lemma transfers_freeUserDataWords (ls : List (Word × ℕ)) (hf : Transfers (f ())
      ((((ls.filter fun l => vanc8 l.1 = 0).map Prod.snd : List ℕ) : Multiset ℕ) + pre) Q) :
    Transfers (freeUserDataWords ls >>= f) (((ls.map Prod.snd : List ℕ) : Multiset ℕ) + pre) Q := by
  induction ls generalizing pre with
  | nil => exact hf
  | cons l ls ih =>
    have hmap : (((l :: ls).map Prod.snd : List ℕ) : Multiset ℕ) + pre =
        ((ls.map Prod.snd : List ℕ) : Multiset ℕ) + ({l.2} + pre) := by
      rw [List.map_cons, ← Multiset.cons_coe, ← Multiset.singleton_add]
      abel
    rw [freeUserDataWords, hmap]
    by_cases hcount : vanc8 l.1 = 0
    · rw [List.filter_cons_of_pos (by simpa using hcount), List.map_cons, ← Multiset.cons_coe,
        ← Multiset.singleton_add] at hf
      rw [if_neg (not_not.mpr hcount)]
      exact ih (given (by abel) hf)
    · rw [List.filter_cons_of_neg (by simpa using hcount)] at hf
      rw [if_pos hcount, bind_assoc]
      exact given (by abel) (transfers_free (ih hf))

end Free

/-- The number of blocks of a packet that are not freed. -/
def unfreed (counts : List Word) (begun : Bool) : ℕ :=
  (counts.countP fun n => vanc8 n = 0) + if counts.isEmpty && begun then 1 else 0

/-- Freeing a packet leaves the words of lines without words, and an array of no lines. -/
lemma transfers_klvancSmpte2038AncDataPacketFree (pkt : AncDataPacket) :
    Transfers (klvancSmpte2038AncDataPacketFree pkt) pkt.owned fun _ post =>
      post.card = unfreed (pkt.userDataWords.map Prod.fst) pkt.lines.isSome := by
  have hwords : (((pkt.userDataWords.filter fun l => vanc8 l.1 = 0).map Prod.snd : List ℕ) :
      Multiset ℕ).card = (pkt.userDataWords.map Prod.fst).countP fun n => vanc8 n = 0 := by
    rw [Multiset.coe_card, List.length_map, ← List.countP_eq_length_filter, List.countP_map]
    rfl
  rw [klvancSmpte2038AncDataPacketFree, AncDataPacket.owned, unfreed, ← hwords]
  refine given (by abel) (@transfers_freeUserDataWords _ _ ({pkt.self} + ofPtr pkt.lines) _
    pkt.userDataWords ?_)
  rw [← bind_pure (free pkt.self)]
  rcases hlines : pkt.userDataWords with _ | ⟨l, ls⟩
  · rw [List.length_nil, if_neg (not_not.mpr rfl), add_left_comm]
    refine transfers_free (Transfers.pure ?_)
    rw [Multiset.card_add]
    congr 1
    cases pkt.lines <;> rfl
  · rw [List.length_cons, if_pos (Nat.succ_ne_zero ls.length)]
    refine given (by abel) (@transfers_freePtr _ ({pkt.self} + _) _ pkt.lines _ ?_)
    exact transfers_free (Transfers.pure rfl)

/-! ### The callback -/

/-- The number of blocks that a PES packet leaves behind: the words of each line without words,
those of a line that is cut off, and the array of the lines if there is none. -/
def sectionLost (buf : List Byte) : ℕ :=
  match parsePesHeader.run.run (klbsReadSetBuffer buf buf.length) with
  | (.error _, _) => 0
  | (.ok _, bs) =>
    cutOff (8 * klbsGetBufferSize bs) (byteCountRem bs) bs +
      unfreed ((Smpte2038.parsePesPayloadInt bs).1.2.map (·.dataCount))
        (linesBegun (8 * klbsGetBufferSize bs) (byteCountRem bs))

section Section

-- The parsers are not unfolded, as above.
attribute [local irreducible] parsePesHeader parsePesPayloadInt Smpte2038.parsePesPayloadInt
  cutOff in
/-- What is left behind by the outcome of the header. -/
lemma sectionLost_eq (buf : List Byte) : sectionLost buf =
    match parsePesHeader.run.run (klbsReadSetBuffer buf buf.length) with
    | (.error _, _) => 0
    | (.ok _, bs) =>
      cutOff (8 * klbsGetBufferSize bs) (byteCountRem bs) bs +
        unfreed ((Smpte2038.parsePesPayloadInt bs).1.2.map (·.dataCount))
          (linesBegun (8 * klbsGetBufferSize bs) (byteCountRem bs)) :=
  rfl

attribute [local irreducible] parsePesHeader parsePesPayloadInt in
/-- What the parser does to the blocks by the outcome of the header. -/
lemma parsePesPacket_blocks (buf : List Byte) : klvancSmpte2038ParsePesPacket buf buf.length =
    alloc >>= fun bs => alloc >>= fun h =>
      match parsePesHeader.run.run (klbsReadSetBuffer buf buf.length) with
      | (.error _, _) => free h >>= fun _ => free bs >>= fun _ => pure none
      | (.ok _, reader) => parsePesPayloadInt { self := h } reader >>= fun h =>
        free bs >>= fun _ => pure (some h) :=
  rfl

/-- The parser has put out the packet, and let go of the words of a line that is cut off; freeing
the packet leaves the rest of what is left behind. -/
lemma transfers_klvancSmpte2038ParsePesPacket (buf : List Byte) :
    Transfers (klvancSmpte2038ParsePesPacket buf buf.length) 0 fun pkt post =>
      match pkt, (Smpte2038.klvancSmpte2038ParsePesPacket buf buf.length).val.2 with
      | some pkt, some _ => ∃ lost, post = pkt.owned + lost ∧
          lost.card + unfreed (pkt.userDataWords.map Prod.fst) pkt.lines.isSome = sectionLost buf
      | none, none => post.card = 0 ∧ sectionLost buf = 0
      | _, _ => False := by
  rw [parsePesPacket_blocks, sectionLost_eq]
  refine transfers_alloc fun bs => transfers_alloc fun self => ?_
  rcases hheader : parsePesHeader.run.run (klbsReadSetBuffer buf buf.length) with ⟨ret | h, reader⟩
  · rw [parsePesPacket_of_error hheader]
    refine transfers_free (transfers_free (Transfers.pure ?_))
    exact And.intro rfl rfl
  · rw [parsePesPacket_of_ok hheader]
    have hloop := @transfers_parsePesPayloadLoop { self } (byteCountRem reader) reader
      (8 * klbsGetBufferSize reader) [] rfl
    refine given ?_ ((hloop.frame {bs}).bind fun pkt mid hmid => ?_)
    · rw [AncDataPacket.owned, ofPtr, List.map_nil, Multiset.coe_nil]
      abel
    · obtain ⟨own, ⟨hcounts, hbegun, lost, rfl, hlost⟩, rfl⟩ := hmid
      refine given (add_comm _ _) (transfers_free (Transfers.pure ?_))
      refine ⟨lost, rfl, ?_⟩
      rw [hlost, hcounts, hbegun]
      rfl

end Section

/-! ### The callback -/

/-- The number of blocks that the context lets go of when it is handed the lines. -/
def linesLost : AppContext → List KlvancSmpte2038AncDataLine → ℕ
  | _, [] => 0
  | app, l :: ls =>
    lostWith (handledOn l.lineNumber.toNat (klvancSmpte2038ConvertLineToWords l)
      (klvancSmpte2038ConvertLineToWords l).length app.vanchdl) +
      linesLost (Smpte2038.pesCbLine app l) ls

/-- The number of blocks that are lost with a PES packet. -/
def pesCbLost (app : AppContext) (buf : List Byte) : ℕ :=
  sectionLost buf + (Smpte2038.klvancSmpte2038ParsePesPacket buf buf.length).val.2.elim 0
    fun pkt => linesLost (packetFound app buf) pkt.lines

/-- The number of blocks that are lost with some PES packets. -/
def pesCbsLost : AppContext → List (List Byte) → ℕ
  | _, [] => 0
  | app, buf :: bufs => pesCbLost app buf + pesCbsLost (Smpte2038.pesCb app buf) bufs

section Callback

variable {app : AppContext} {ctx : Context}

/-- The words of a line are freed behind the line. -/
lemma transfers_pesCbLine (h : Mirrors app.vanchdl.ctx ctx) (l : KlvancSmpte2038AncDataLine) :
    Transfers (pesCbLine app ctx l) ctx.owned
      (ContextHandsOn (Smpte2038.pesCbLine app l).vanchdl.ctx
        (lostWith (handledOn l.lineNumber.toNat (klvancSmpte2038ConvertLineToWords l)
          (klvancSmpte2038ConvertLineToWords l).length app.vanchdl))) := by
  rw [pesCbLine]
  refine transfers_alloc fun words => ?_
  refine given (add_comm _ _) (((transfers_klvancPacketParse _ _ _ h).frame {words}).bind
    fun ctx' mid hmid => ?_)
  obtain ⟨own, hown, rfl⟩ := hmid
  exact given (add_comm _ _) (transfers_free (Transfers.pure hown))

/-- Lines are handed over one after the other. -/
lemma transfers_pesCbLines (h : Mirrors app.vanchdl.ctx ctx)
    (ls : List KlvancSmpte2038AncDataLine) :
    Transfers (pesCbLines app ctx ls) ctx.owned
      (ContextHandsOn (ls.foldl Smpte2038.pesCbLine app).vanchdl.ctx (linesLost app ls)) := by
  induction ls generalizing app ctx with
  | nil => exact Transfers.pure ⟨h, 0, (add_zero _).symm, rfl⟩
  | cons l ls ih =>
    rw [pesCbLines, List.foldl_cons, linesLost]
    exact transfers_then (transfers_pesCbLine h l) fun ctx' h' => ih h'

/-- A PES packet is lost in part. -/
lemma transfers_pesCb (h : Mirrors app.vanchdl.ctx ctx) (buf : List Byte) :
    Transfers (pesCb app ctx buf) ctx.owned
      (ContextHandsOn (Smpte2038.pesCb app buf).vanchdl.ctx (pesCbLost app buf)) := by
  rw [pesCb, pesCbLost, Smpte2038.pesCb]
  refine given (zero_add _).symm (((transfers_klvancSmpte2038ParsePesPacket buf).frame
    ctx.owned).bind fun pkt mid hmid => ?_)
  obtain ⟨own, hown, rfl⟩ := hmid
  rcases hcontents : (Smpte2038.klvancSmpte2038ParsePesPacket buf buf.length).val.2 with
    _ | contents
  · rw [hcontents] at hown
    cases pkt with
    | some pkt => exact hown.elim
    | none =>
      obtain ⟨hcard, hlost⟩ := hown
      refine Transfers.pure ⟨⟨h.cacheLines, h.fragments, h.count_lt⟩, own, add_comm _ _, ?_⟩
      rw [hcard, hlost, Option.elim_none]
  · rw [hcontents] at hown
    cases pkt with
    | none => exact hown.elim
    | some pkt =>
      obtain ⟨lost, rfl, hlost⟩ := hown
      have hfound : Mirrors (packetFound app buf).vanchdl.ctx ctx :=
        ⟨h.cacheLines, h.fragments, h.count_lt⟩
      refine given (add_comm _ _) (((transfers_pesCbLines hfound contents.lines).frame
        (pkt.owned + lost)).bind fun ctx' mid hmid => ?_)
      obtain ⟨own, ⟨hmirrors, lost', rfl, hlost'⟩, rfl⟩ := hmid
      refine given (by abel) (((transfers_klvancSmpte2038AncDataPacketFree pkt).frame
        (ctx'.owned + lost' + lost)).bind fun _ mid hmid => ?_)
      obtain ⟨own, hown, rfl⟩ := hmid
      refine Transfers.pure ⟨hmirrors, own + lost' + lost, by abel, ?_⟩
      rw [Multiset.card_add, Multiset.card_add, hown, hlost', ← hlost, Option.elim_some]
      omega

/-- PES packets are handed over one after the other. -/
lemma transfers_pesCbs (h : Mirrors app.vanchdl.ctx ctx) (bufs : List (List Byte)) :
    Transfers (pesCbs app ctx bufs) ctx.owned
      (ContextHandsOn (bufs.foldl Smpte2038.pesCb app).vanchdl.ctx (pesCbsLost app bufs)) := by
  induction bufs generalizing app ctx with
  | nil => exact Transfers.pure ⟨h, 0, (add_zero _).symm, rfl⟩
  | cons buf bufs ih =>
    rw [pesCbs, List.foldl_cons, pesCbsLost]
    exact transfers_then (transfers_pesCb h buf) fun ctx' h' => ih h'

end Callback

/-! ### The receiver -/

/-- Where there is no cache, no operation makes one. -/
lemma foldl_cacheOps_none (ops : List CacheOp) : ops.foldl CacheOp.run none = none := by
  induction ops with
  | nil => rfl
  | cons op ops ih => cases op <;> exact ih

section NoCache

variable {app : AppContext}

/-- A line, which has seven words or more, makes no cache. -/
lemma pesCbLine_cacheLines (h : app.vanchdl.ctx.cacheLines = none)
    (l : KlvancSmpte2038AncDataLine) :
    (Smpte2038.pesCbLine app l).vanchdl.ctx.cacheLines = none := by
  have hparsable : (ContextEvent.line
      ⟨l.lineNumber.toNat, klvancSmpte2038ConvertLineToWords l⟩).Parsable := by
    refine Or.inr ?_
    change 7 ≤ (klvancSmpte2038ConvertLineToWords l).length
    rw [klvancSmpte2038ConvertLineToWords, List.length_append, List.length_append]
    simp only [List.length_cons, List.length_nil]
    omega
  refine ((KlvancRun.Found.event app.vanchdl hparsable).cacheLines).trans ?_
  rw [h]
  exact foldl_cacheOps_none _

/-- Nor does a PES packet. -/
lemma pesCb_cacheLines (h : app.vanchdl.ctx.cacheLines = none) (buf : List Byte) :
    (Smpte2038.pesCb app buf).vanchdl.ctx.cacheLines = none := by
  have hlines : ∀ (ls : List KlvancSmpte2038AncDataLine) (app : AppContext),
      app.vanchdl.ctx.cacheLines = none →
      (ls.foldl Smpte2038.pesCbLine app).vanchdl.ctx.cacheLines = none := by
    intro ls
    induction ls with
    | nil => exact fun _ h => h
    | cons l ls ih => exact fun app h => ih _ (pesCbLine_cacheLines h l)
  rw [Smpte2038.pesCb]
  cases (Smpte2038.klvancSmpte2038ParsePesPacket buf buf.length).val.2 with
  | none => exact h
  | some pkt => exact hlines _ _ h

/-- Nor do several. -/
lemma foldl_pesCb_cacheLines (h : app.vanchdl.ctx.cacheLines = none) (bufs : List (List Byte)) :
    (bufs.foldl Smpte2038.pesCb app).vanchdl.ctx.cacheLines = none := by
  induction bufs generalizing app with
  | nil => exact h
  | cons buf bufs ih =>
    rw [List.foldl_cons]
    exact ih (pesCb_cacheLines h buf)

/-- What is left of the context of a receiver without a cache. -/
lemma transfers_receiverLifetime (h : app.vanchdl.ctx.cacheLines = none)
    (hcount : app.vanchdl.ctx.scte104.count = 0) (bufs : List (List Byte)) :
    Transfers (receiverLifetime app bufs) 0 fun _ post => post.card = pesCbsLost app bufs := by
  rw [receiverLifetime, klvancContextCreate, bind_assoc]
  refine transfers_alloc fun self => ?_
  rw [pure_bind]
  have hmirrors : Mirrors app.vanchdl.ctx { self } :=
    ⟨by rw [h]; exact Option.Rel.none, hcount.symm, hcount ▸ zero_lt_max⟩
  refine given ?_ ((transfers_pesCbs hmirrors bufs).bind fun ctx mid hmid => ?_)
  · rw [Context.owned, ownedCache, Multiset.coe_nil, add_zero, add_zero, add_zero]
  · obtain ⟨hmirrors', lost, rfl, hlost⟩ := hmid
    refine ((transfers_klvancContextDestroy hmirrors').frame lost).weaken fun _ post hpost => ?_
    obtain ⟨own, hown, rfl⟩ := hpost
    rw [Multiset.card_add, hown, hlost, foldl_pesCb_cacheLines h, Option.elim_none, zero_add]

end NoCache

/-- Whatever PES packets the receiver gets, no block is freed twice, and the blocks that are live
after the destruction of its context are as many as the PES packets have lost: the words of each
line without words, those of a line that is cut off, the array of the lines if there is none, and
what the context has let go of. -/
theorem receiverLifetime_lost (pe : PesExtractor) (callbacks : KlvancCallbacks)
    (bufs : List (List Byte)) :
    ∃ h, receiverLifetime (receiverStart pe callbacks) bufs Heap.empty = some ((), h) ∧
      h.live.card = pesCbsLost (receiverStart pe callbacks) bufs := by
  obtain ⟨_, h, hrun, hcard⟩ := (@transfers_receiverLifetime (receiverStart pe callbacks) rfl rfl
    bufs).run_empty
  exact ⟨h, hrun, hcard⟩

end Libklvanc.Blocks
