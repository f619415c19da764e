import Libklvanc.Services.Captions
import Libklvanc.Core.PacketRoundTrip

/-!
# Safety of the CEA-708 parser

The parser checks before each section that its octets are there, but not that the id of the next
section is, and the array of captions has a cell less than their count can tell. What the parser
finds in a payload is described octet by octet (`captionsAt`, `servicesAt`); it is safe exactly when
no counted section runs into the end of the payload and no caption section has 31 entries
(`parseEIA708B_safe_iff`).
-/

namespace Libklvanc

open KlbsDecoder

/-! ### Where the sections stand -/

/-- The id that the parser finds at the place of the caption section, and the octets behind it. -/
def captionsAt (l : List Byte) : Option (Byte × List Byte) :=
  match l.drop 7 with
  | [] => none
  | next :: rest =>
    if next = 0x71 then
      -- the time code and the next id
      match rest.drop 4 with
      | [] => none
      | next :: rest => some (next, rest)
    else some (next, rest)

/-- What the parser finds behind the captions, when it finds the id `next` and then the octets
`rest` at their place. -/
def behindCaptions (next : Byte) (rest : List Byte) : Option (Byte × List Byte) :=
  if next = 0x72 then
    -- the count, its triplets and the next id
    match rest with
    | [] => none
    | count :: rest =>
      match rest.drop (count.toNat % 32 * 3) with
      | [] => none
      | next :: rest => some (next, rest)
  else some (next, rest)

/-- The id that the parser finds at the place of the service section, and the octets behind it. -/
def servicesAt (l : List Byte) : Option (Byte × List Byte) :=
  (captionsAt l).bind fun x => behindCaptions x.1 x.2

/-- A caption section with something behind its count has 31 triplets, or the last one is the end of
the payload. -/
def CaptionsOverrun (next : Byte) (rest : List Byte) : Prop :=
  next = 0x72 ∧ ∃ count triplets, rest = count :: triplets ∧ triplets ≠ [] ∧
    (count.toNat % 32 = 31 ∧ 93 ≤ triplets.length ∨ count.toNat % 32 * 3 = triplets.length)

/-- The last entry of a service section with something behind its count is the end of the
payload. -/
def ServicesOverrun (next : Byte) (rest : List Byte) : Prop :=
  next = 0x73 ∧ ∃ count entries, rest = count :: entries ∧ entries ≠ [] ∧
    count.toNat % 16 * 7 = entries.length

/-! ### Counted entries -/

section Counted

variable {α β γ : Type} {entries : KlbsDecoder γ} {g : γ → α} {need : ℕ} {ctx : KlbsContext}
  {l : List Byte} {f : α × Byte → KlbsDecoder β}

/-- Entries that are asked for as a whole, and the next section's id. -/
def countedEntries (need : ℕ) (entries : KlbsDecoder γ) (g : γ → α) : KlbsDecoder (α × Byte) :=
  needOctets need (-enomem) >>= fun _ => entries >>= fun x =>
    readBits 8 8 >>= fun next => pure (g x, next)

/-- With more octets they are read, and so is the next id. -/
lemma countedEntries_pass (hentries : entries.Takes (8 * need))
    (hreads : ctx.Reads (Bits.ofBytes l)) {next : Byte} {rest : List Byte}
    (hdrop : l.drop need = next :: rest) :
    ∃ x ctx', (countedEntries need entries g).run.run ctx = (.ok (g x, next), ctx') ∧
      ctx.Reaches ctx' rest := by
  have hlen : need < l.length := by
    have h := congrArg List.length hdrop
    rw [List.length_drop, List.length_cons] at h
    omega
  obtain ⟨x, ctx₁, hrun₁, h₁⟩ := hentries.reaches hreads hlen.le
  rw [hdrop] at h₁
  obtain ⟨ctx₂, hrun₂, h₂⟩ := readBits_octet h₁.reads
  refine ⟨x, ctx₂, ?_, h₁.trans h₂⟩
  rw [countedEntries, needOctets_bind_enough hreads hlen.le, run_bind_of_ok hrun₁,
    run_bind_of_ok hrun₂]
  rfl

/-- With no octet behind them the next id is read past the end. -/
lemma countedEntries_past (hentries : entries.Takes (8 * need))
    (hreads : ctx.Reads (Bits.ofBytes l)) (hlen : need = l.length) :
    ((countedEntries need entries g).run.run ctx).2.Past := by
  have htail : (entries >>= fun x => readBits 8 8 >>= fun next => pure (g x, next)).Takes
      (8 * need + (8 + 0)) :=
    hentries.bind fun x => (Takes.readBits 8 8).bind fun next => .pure (g x, next)
  rw [countedEntries, needOctets_bind_enough hreads hlen.le]
  exact htail.past ctx _ hreads (by rw [Bits.ofBytes_length]; omega)

/-- Entries that do not fit their array are stored behind it. -/
lemma countedEntries_faults (hentries : entries.Faulty) (hreads : ctx.Reads (Bits.ofBytes l))
    (hle : need ≤ l.length) : ((countedEntries need entries g).run.run ctx).2.faults ≠ [] := by
  rw [countedEntries, needOctets_bind_enough hreads hle]
  exact hentries.bind_left
    (fun x => (Progresses.readBits 8 8).bind fun next => .pure (g x, next)) ctx

end Counted

/-! ### Safe runs -/

/-- A run of the parser has stayed inside the announced size, has met no fault, and delivers only
counts for which there are cells. -/
structure CdpRunsSafely (run : Except ℤ KlvancPacketEia708b × KlbsContext) : Prop where
  inside : run.2.buflenUsed ≤ run.2.buflen
  safe : run.2.faults = []
  counts : ∀ pkt, run.1 = .ok pkt →
    pkt.ccdata.ccCount.toNat ≤ maxCcCount ∧ pkt.ccsvc.svcCount.toNat ≤ 15

section Runs

variable {run : Except ℤ KlvancPacketEia708b × KlbsContext} {ctx : KlbsContext} {l : List Byte}

/-- A run that rejects the payload is safe. -/
lemma CdpRunsSafely.of_error {e : ℤ} (h : run.1 = .error e) (hreach : ctx.Reaches run.2 l)
    (hctx : ctx.faults = []) : CdpRunsSafely run where
  inside := hreach.reads.used_le
  safe := hreach.faults_eq.trans hctx
  counts pkt hpkt := by
    rw [h] at hpkt
    cases hpkt

/-- A run that reads past the end is not. -/
lemma not_cdpRunsSafely_of_past (h : run.2.Past) : ¬CdpRunsSafely run := fun hsafe =>
  not_le.mpr h hsafe.inside

/-- A run that meets a fault is not. -/
lemma not_cdpRunsSafely_of_faults (h : run.2.faults ≠ []) : ¬CdpRunsSafely run := fun hsafe =>
  h hsafe.safe

end Runs

/-! ### The sections of a payload -/

section Sections

variable {payload l : List Byte} {n : ℕ} {ctx : KlbsContext}

/-- The header of a payload that is long enough. -/
lemma parseCdpHeader_reaches (hreads : ctx.Reads (Bits.ofBytes l)) (hle : 7 ≤ l.length) :
    ∃ header ctx', parseCdpHeader.run.run ctx = (.ok header, ctx') ∧
      ctx.Reaches ctx' (l.drop 7) := by
  obtain ⟨f, hf, htakes⟩ := parseCdpHeader_takes
  rw [hf, needOctets_bind_enough hreads hle]
  exact htakes.reaches hreads hle

/-- A time code with an octet behind it. -/
lemma parseTimeCodeSection_reaches (sectionId : Byte) {next : Byte} {rest : List Byte}
    (hreads : ctx.Reads (Bits.ofBytes l)) (hdrop : l.drop 4 = next :: rest) :
    ∃ tc ctx', (parseTimeCodeSection sectionId).run.run ctx = (.ok (tc, next), ctx') ∧
      ctx.Reaches ctx' rest := by
  have hlen := congrArg List.length hdrop
  rw [List.length_drop, List.length_cons] at hlen
  have htake : (Bits.ofBytes (l.take 4)).length = 32 := by
    rw [Bits.ofBytes_length, List.length_take]
    omega
  obtain ⟨tc, r₁, r₂, r₃, hfits, rfl, hbits⟩ := exists_timeCodeFields sectionId htake
  have hyields := parseTimeCodeSection_yields hfits r₁ r₂ r₃ next
  rw [hbits, ← Bits.ofBytes_append] at hyields
  rw [← List.take_append_drop 4 l, hdrop, ← List.singleton_append, ← List.append_assoc] at hreads
  obtain ⟨ctx', hrun⟩ := hyields.reaches hreads
  exact ⟨tc, ctx', hrun⟩

/-- A time code that is cut off is rejected. -/
lemma parseTimeCodeSection_few (sectionId : Byte) (hreads : ctx.Reads (Bits.ofBytes l))
    (hlt : l.length < 5) :
    (parseTimeCodeSection sectionId).run.run ctx = (.error (-enomem), ctx) :=
  needOctets_bind_few hreads hlt

/-- The header of a payload and the first id. -/
lemma parseCdp_first {next : Byte} {rest : List Byte} (hreads : ctx.Reads (Bits.ofBytes l))
    (hdrop : l.drop 7 = next :: rest) :
    ∃ header ctx', (parseCdp payload n).run.run ctx =
        (sectionIf 0x71 parseTimeCodeSection {} next >>= fun x =>
          readCaptions payload n header x.1 x.2).run.run ctx' ∧ ctx.Reaches ctx' rest := by
  have hlen := congrArg List.length hdrop
  rw [List.length_drop, List.length_cons] at hlen
  obtain ⟨header, ctx₁, hrun₁, h₁⟩ := parseCdpHeader_reaches hreads (by omega)
  rw [hdrop] at h₁
  obtain ⟨ctx₂, hrun₂, h₂⟩ := readBits_octet h₁.reads
  refine ⟨header, ctx₂, ?_, h₁.trans h₂⟩
  rw [parseCdp_eq, run_bind_of_ok hrun₁, needOctets_bind_enough h₁.reads (by simp),
    run_bind_of_ok hrun₂]

/-- The header and the time code of a payload that has them. -/
lemma parseCdp_captionsAt {next : Byte} {rest : List Byte} (hreads : ctx.Reads (Bits.ofBytes l))
    (hat : captionsAt l = some (next, rest)) :
    ∃ header tc ctx', (parseCdp payload n).run.run ctx =
        (readCaptions payload n header tc next).run.run ctx' ∧ ctx.Reaches ctx' rest := by
  unfold captionsAt at hat
  split at hat
  · exact absurd hat (by simp)
  · next id behind hdrop =>
    obtain ⟨header, ctx₁, hrun₁, h₁⟩ := @parseCdp_first payload l n ctx id behind hreads hdrop
    by_cases hid : id = 0x71
    · rw [if_pos hid] at hat
      split at hat
      · exact absurd hat (by simp)
      · next hcode =>
        obtain ⟨rfl, rfl⟩ := Prod.mk.inj (Option.some.inj hat)
        obtain ⟨tc, ctx₂, hrun₂, h₂⟩ := parseTimeCodeSection_reaches id h₁.reads hcode
        refine ⟨header, tc, ctx₂, ?_, h₁.trans h₂⟩
        rw [hrun₁, sectionIf, if_pos hid, run_bind_of_ok hrun₂]
    · rw [if_neg hid] at hat
      obtain ⟨rfl, rfl⟩ := Prod.mk.inj (Option.some.inj hat)
      refine ⟨header, {}, ctx₁, ?_, h₁⟩
      rw [hrun₁, sectionIf, if_neg hid, pure_bind]

/-- A payload without them is rejected. -/
lemma parseCdp_captionsAt_none (hreads : ctx.Reads (Bits.ofBytes l)) (hat : captionsAt l = none) :
    ∃ l' ctx', (parseCdp payload n).run.run ctx = (.error (-enomem), ctx') ∧
      ctx.Reaches ctx' l' := by
  unfold captionsAt at hat
  split at hat
  · next hdrop =>
    have hlen := List.drop_eq_nil_iff.mp hdrop
    by_cases hshort : l.length < 7
    · obtain ⟨f, hf, -⟩ := parseCdpHeader_takes
      refine ⟨l, ctx, ?_, hreads, rfl, rfl⟩
      rw [parseCdp_eq, hf]
      exact run_bind_of_error (needOctets_bind_few hreads hshort)
    · obtain ⟨header, ctx₁, hrun₁, h₁⟩ := parseCdpHeader_reaches hreads (by omega)
      rw [hdrop] at h₁
      refine ⟨[], ctx₁, ?_, h₁⟩
      rw [parseCdp_eq, run_bind_of_ok hrun₁]
      exact needOctets_bind_few h₁.reads (by simp)
  · next id behind hdrop =>
    obtain ⟨header, ctx₁, hrun₁, h₁⟩ := @parseCdp_first payload l n ctx id behind hreads hdrop
    by_cases hid : id = 0x71
    · rw [if_pos hid] at hat
      split at hat
      · next hcode =>
        have hlen := List.drop_eq_nil_iff.mp hcode
        refine ⟨behind, ctx₁, ?_, h₁⟩
        rw [hrun₁, sectionIf, if_pos hid]
        exact run_bind_of_error (parseTimeCodeSection_few id h₁.reads (by omega))
      · exact absurd hat (by simp)
    · rw [if_neg hid] at hat
      exact absurd hat (by simp)

/-- The count of a caption section, and what is done behind it. -/
lemma parseCcdataSection_count (sectionId count : Byte) {triplets : List Byte}
    (hreads : ctx.Reads (Bits.ofBytes (count :: triplets))) (hne : triplets ≠ []) :
    ∃ (g : List Eia708bCcdataEntry → Eia708bCcdataSection) (ctx' : KlbsContext),
      (parseCcdataSection sectionId).run.run ctx =
        (countedEntries (count.toNat % 32 * 3)
          (parseCcEntries 0 (count.toNat % 32)) g).run.run ctx' ∧
      (∀ cc, (g cc).ccCount.toNat = count.toNat % 32) ∧ ctx.Reaches ctx' triplets := by
  have hpos := List.length_pos_of_ne_nil hne
  have hcount : (BitVec.ofNat 8 (count.toNat % 2 ^ 5)).toNat = count.toNat % 32 :=
    toNat_ofNat_of_lt (by norm_num : 5 ≤ 8) (Nat.mod_lt _ (by norm_num))
  have hoctet : Bits.ofBytes (count :: triplets) = Bits.ofNat 3 (count.toNat >>> 5) ++
      (Bits.ofNat 5 count.toNat ++ Bits.ofBytes triplets) := by
    rw [Bits.ofBytes_cons, ← List.append_assoc, ← Bits.ofNat_add 3 5]
  have hhead := hreads
  rw [hoctet] at hhead
  obtain ⟨ctx₁, hrun₁, h₁, hfaults₁, hlen₁⟩ :=
    Yields.skipBits_mod (by norm_num : 3 ≤ 64) _ ctx _ hhead
  obtain ⟨ctx₂, hrun₂, h₂, hfaults₂, hlen₂⟩ :=
    Yields.readBits_mod 8 (by norm_num : 5 ≤ 64) count.toNat ctx₁ _ h₁
  refine ⟨fun cc =>
    { ccdataId := sectionId, ccCount := BitVec.ofNat 8 (count.toNat % 2 ^ 5), cc }, ctx₂, ?_,
    fun _ => hcount, h₂, hfaults₂.trans hfaults₁, hlen₂.trans hlen₁⟩
  rw [parseCcdataSection_eq, needOctets_bind_enough hreads (by rw [List.length_cons]; omega),
    run_bind_of_ok hrun₁, run_bind_of_ok hrun₂]
  simp only [hcount]
  rfl

/-- The count of a service section, and what is done behind it. -/
lemma parseCcsvcinfoSection_count (sectionId count : Byte) {entries : List Byte}
    (hreads : ctx.Reads (Bits.ofBytes (count :: entries))) (hle : 2 ≤ entries.length) :
    ∃ (g : List Eia708bCcsvcinfoEntry → Eia708bCcsvcinfoSection) (ctx' : KlbsContext),
      (parseCcsvcinfoSection sectionId).run.run ctx =
        (countedEntries (count.toNat % 16 * 7)
          (parseSvcEntries 0 (count.toNat % 16)) g).run.run ctx' ∧
      (∀ svc, (g svc).svcCount.toNat = count.toNat % 16) ∧ ctx.Reaches ctx' entries := by
  have hcount : (BitVec.ofNat 8 (count.toNat % 2 ^ 4)).toNat = count.toNat % 16 :=
    toNat_ofNat_of_lt (by norm_num : 4 ≤ 8) (Nat.mod_lt _ (by norm_num))
  have hoctet : Bits.ofBytes (count :: entries) =
      Bits.ofNat 1 (count.toNat >>> 4 >>> 1 >>> 1 >>> 1) ++
      (Bits.ofNat 1 (count.toNat >>> 4 >>> 1 >>> 1) ++ (Bits.ofNat 1 (count.toNat >>> 4 >>> 1) ++
        (Bits.ofNat 1 (count.toNat >>> 4) ++
          (Bits.ofNat 4 count.toNat ++ Bits.ofBytes entries)))) := by
    rw [Bits.ofBytes_cons, Bits.ofNat_add 4 4, Bits.ofNat_add 3 1, Bits.ofNat_add 2 1,
      Bits.ofNat_add 1 1]
    simp only [List.append_assoc]
  have hhead := hreads
  rw [hoctet] at hhead
  obtain ⟨ctx₁, hrun₁, h₁, hfaults₁, hlen₁⟩ :=
    Yields.skipBits_mod (by norm_num : 1 ≤ 64) _ ctx _ hhead
  obtain ⟨ctx₂, hrun₂, h₂, hfaults₂, hlen₂⟩ :=
    Yields.readBits_mod 8 (by norm_num : 1 ≤ 64) _ ctx₁ _ h₁
  obtain ⟨ctx₃, hrun₃, h₃, hfaults₃, hlen₃⟩ :=
    Yields.readBits_mod 8 (by norm_num : 1 ≤ 64) _ ctx₂ _ h₂
  obtain ⟨ctx₄, hrun₄, h₄, hfaults₄, hlen₄⟩ :=
    Yields.readBits_mod 8 (by norm_num : 1 ≤ 64) _ ctx₃ _ h₃
  obtain ⟨ctx₅, hrun₅, h₅, hfaults₅, hlen₅⟩ :=
    Yields.readBits_mod 8 (by norm_num : 4 ≤ 64) count.toNat ctx₄ _ h₄
  refine ⟨fun svc =>
    { ccsvcinfoId := sectionId
      svcInfoStart := BitVec.ofNat 8 ((count.toNat >>> 4 >>> 1 >>> 1) % 2 ^ 1)
      svcInfoChange := BitVec.ofNat 8 ((count.toNat >>> 4 >>> 1) % 2 ^ 1)
      svcInfoComplete := BitVec.ofNat 8 ((count.toNat >>> 4) % 2 ^ 1)
      svcCount := BitVec.ofNat 8 (count.toNat % 2 ^ 4), svc },
    ctx₅, ?_, fun _ => hcount, h₅, hfaults₅.trans (hfaults₄.trans (hfaults₃.trans
      (hfaults₂.trans hfaults₁))), hlen₅.trans (hlen₄.trans (hlen₃.trans (hlen₂.trans hlen₁)))⟩
  rw [parseCcsvcinfoSection_eq, needOctets_bind_enough hreads (by rw [List.length_cons]; omega),
    run_bind_of_ok hrun₁, run_bind_of_ok hrun₂, run_bind_of_ok hrun₃, run_bind_of_ok hrun₄,
    run_bind_of_ok hrun₅]
  simp only [hcount]
  rfl

/-! ### Where a run is safe -/

variable {header : Eia708bCdpHeader} {tc : Eia708bTimeCodeSection} {ccdata : Eia708bCcdataSection}
  {ccsvc : Eia708bCcsvcinfoSection} {next : Byte}

/-- From the footer on the parser is safe. -/
lemma readFooter_runsSafely (hreads : ctx.Reads (Bits.ofBytes l)) (hfaults : ctx.faults = [])
    (hcc : ccdata.ccCount.toNat ≤ maxCcCount) (hsvc : ccsvc.svcCount.toNat ≤ 15) :
    CdpRunsSafely ((readFooter payload n header tc ccdata ccsvc next).run.run ctx) := by
  have hcounts : ∀ {footer : Eia708bCdpFooter} {ctx' : KlbsContext} {l' : List Byte}
      {valid : Bool}, ctx.Reaches ctx' l' → CdpRunsSafely
        (.ok (KlvancPacketEia708b.mk payload n valid header tc ccdata ccsvc footer), ctx') :=
    fun hreach => ⟨hreach.reads.used_le, hreach.faults_eq.trans hfaults, fun pkt hpkt => by
      cases hpkt
      exact ⟨hcc, hsvc⟩⟩
  by_cases hid : next = 0x74
  · obtain ⟨f, hf, htakes⟩ := parseCdpFooter_takes next
    rw [readFooter, if_pos hid, hf]
    by_cases hlen : 3 ≤ l.length
    · obtain ⟨footer, ctx', hrun, hreach⟩ := htakes.reaches hreads hlen
      rw [run_bind_of_ok ((needOctets_bind_enough hreads hlen).trans hrun)]
      exact hcounts hreach
    · rw [run_bind_of_error (needOctets_bind_few hreads (not_le.mp hlen))]
      exact .of_error rfl ⟨hreads, rfl, rfl⟩ hfaults
  · rw [readFooter, if_neg hid, pure_bind]
    exact hcounts ⟨hreads, rfl, rfl⟩

/-- A section of which less than its shortest form is left is rejected. -/
lemma parseCcsvcinfoSection_few (sectionId : Byte) (hreads : ctx.Reads (Bits.ofBytes l))
    (hlt : l.length < 3) :
    (parseCcsvcinfoSection sectionId).run.run ctx = (.error (-enomem), ctx) :=
  needOctets_bind_few hreads hlt

/-- From the services on the parser is safe unless they overrun the payload. -/
lemma readServices_runsSafely (hreads : ctx.Reads (Bits.ofBytes l)) (hfaults : ctx.faults = [])
    (hcc : ccdata.ccCount.toNat ≤ maxCcCount) :
    CdpRunsSafely ((readServices payload n header tc ccdata next).run.run ctx) ↔
      ¬ServicesOverrun next l := by
  by_cases hid : next = 0x73
  · rw [readServices, sectionIf, if_pos hid]
    by_cases hlen : l.length < 3
    · -- not even the shortest section is there
      refine iff_of_true ?_ ?_
      · rw [run_bind_of_error (parseCcsvcinfoSection_few next hreads hlen)]
        exact .of_error rfl ⟨hreads, rfl, rfl⟩ hfaults
      · rintro ⟨-, count, entries, rfl, hne, hend⟩
        have hpos := List.length_pos_of_ne_nil hne
        rw [List.length_cons] at hlen
        omega
    · obtain ⟨count, entries, rfl⟩ := List.exists_cons_of_length_pos (by omega : 0 < l.length)
      rw [List.length_cons] at hlen
      obtain ⟨g, ctx₁, hrun₁, hcount, h₁⟩ :=
        parseCcsvcinfoSection_count next count hreads (by omega)
      have htakes := @parseSvcEntries_takes 0 (count.toNat % 16) (by rw [maxCcsvcCount]; omega)
      rw [(by ring : 56 * (count.toNat % 16) = 8 * (count.toNat % 16 * 7))] at htakes
      rcases lt_trichotomy (count.toNat % 16 * 7) entries.length with hlt | heq | hgt
      · -- something follows the entries
        have hover : ¬ServicesOverrun next (count :: entries) := by
          rintro ⟨-, count', entries', hcons, -, hend⟩
          obtain ⟨rfl, rfl⟩ := List.cons.inj hcons
          omega
        obtain ⟨next', rest, hdrop⟩ :=
          List.exists_cons_of_length_pos
            (by rw [List.length_drop]; omega : 0 < (entries.drop (count.toNat % 16 * 7)).length)
        obtain ⟨svc, ctx₂, hrun₂, h₂⟩ := countedEntries_pass (g := g) htakes h₁.reads hdrop
        refine iff_of_true ?_ hover
        rw [run_bind_of_ok (hrun₁.trans hrun₂)]
        refine readFooter_runsSafely h₂.reads
          (h₂.faults_eq.trans (h₁.faults_eq.trans hfaults)) hcc ?_
        rw [hcount]
        omega
      · -- the next id is read behind the end
        refine iff_of_false (not_cdpRunsSafely_of_past ?_) (not_not.mpr ?_)
        · refine (Progresses.second (fun _ => readFooter_progresses) ctx).past ?_
          rw [hrun₁]
          exact countedEntries_past htakes h₁.reads heq
        · exact ⟨hid, count, entries, rfl, List.ne_nil_of_length_pos (by omega), heq⟩
      · -- the entries are cut off
        refine iff_of_true ?_ ?_
        · rw [run_bind_of_error (hrun₁.trans (needOctets_bind_few h₁.reads hgt))]
          exact .of_error rfl h₁ hfaults
        · rintro ⟨-, count', entries', hcons, -, hend⟩
          obtain ⟨rfl, rfl⟩ := List.cons.inj hcons
          omega
  · rw [readServices, sectionIf, if_neg hid, pure_bind]
    refine iff_of_true ?_ fun hover => hid hover.1
    exact readFooter_runsSafely hreads hfaults hcc (Nat.zero_le 15)

/-- A section of which less than its shortest form is left is rejected. -/
lemma parseCcdataSection_few (sectionId : Byte) (hreads : ctx.Reads (Bits.ofBytes l))
    (hlt : l.length < 2) :
    (parseCcdataSection sectionId).run.run ctx = (.error (-enomem), ctx) :=
  needOctets_bind_few hreads hlt

/-- Behind captions that are cut off nothing is found. -/
lemma behindCaptions_none {count : Byte} {triplets : List Byte}
    (hle : triplets.length ≤ count.toNat % 32 * 3) :
    behindCaptions 0x72 (count :: triplets) = none := by
  rw [behindCaptions, if_pos rfl]
  simp only [List.drop_eq_nil_of_le hle]

/-- On a caption section that is long enough for its count the parser is safe unless the captions or
the services overrun the payload. -/
lemma readCaptions_section_runsSafely {count : Byte} {triplets : List Byte} (hne : triplets ≠ [])
    (hreads : ctx.Reads (Bits.ofBytes (count :: triplets))) (hfaults : ctx.faults = []) :
    CdpRunsSafely ((readCaptions payload n header tc 0x72).run.run ctx) ↔
      ¬CaptionsOverrun 0x72 (count :: triplets) ∧
        ∀ next' rest, behindCaptions 0x72 (count :: triplets) = some (next', rest) →
          ¬ServicesOverrun next' rest := by
  rw [readCaptions, sectionIf, if_pos rfl]
  obtain ⟨g, ctx₁, hrun₁, hcount, h₁⟩ := parseCcdataSection_count 0x72 count hreads hne
  have hmod : count.toNat % 32 < 32 := Nat.mod_lt _ (by norm_num)
  by_cases hgt : triplets.length < count.toNat % 32 * 3
  · -- the triplets are cut off
    refine iff_of_true ?_ ⟨?_, fun next' rest hbehind => ?_⟩
    · rw [run_bind_of_error (hrun₁.trans (needOctets_bind_few h₁.reads hgt))]
      exact .of_error rfl h₁ hfaults
    · rintro ⟨-, count', triplets', hcons, -, hend⟩
      obtain ⟨rfl, rfl⟩ := List.cons.inj hcons
      omega
    · rw [behindCaptions_none hgt.le] at hbehind
      cases hbehind
  · by_cases hmany : count.toNat % 32 = 31
    · -- the last triplet is stored behind the array
      refine iff_of_false (not_cdpRunsSafely_of_faults ?_) fun hover => hover.1 ?_
      · refine (Progresses.second (fun _ => readServices_progresses) ctx).faults_ne_nil ?_
        rw [hrun₁]
        exact countedEntries_faults (parseCcEntries_faulty (by decide) (by rw [hmany]; decide))
          h₁.reads (not_lt.mp hgt)
      · exact ⟨rfl, count, triplets, rfl, hne, Or.inl ⟨hmany, by omega⟩⟩
    · have htakes := @parseCcEntries_takes 0 (count.toNat % 32) (by rw [maxCcCount]; omega)
      rw [(by ring : 24 * (count.toNat % 32) = 8 * (count.toNat % 32 * 3))] at htakes
      rcases Nat.lt_or_eq_of_le (not_lt.mp hgt) with hlt | heq
      · -- something follows the triplets
        have hover : ¬CaptionsOverrun 0x72 (count :: triplets) := by
          rintro ⟨-, count', triplets', hcons, -, hend⟩
          obtain ⟨rfl, rfl⟩ := List.cons.inj hcons
          omega
        obtain ⟨next', rest, hdrop⟩ := List.exists_cons_of_length_pos
          (by rw [List.length_drop]; omega :
            0 < (triplets.drop (count.toNat % 32 * 3)).length)
        obtain ⟨cc, ctx₂, hrun₂, h₂⟩ := countedEntries_pass (g := g) htakes h₁.reads hdrop
        have hbehind : behindCaptions 0x72 (count :: triplets) = some (next', rest) := by
          rw [behindCaptions, if_pos rfl]
          simp only [hdrop]
        rw [run_bind_of_ok (hrun₁.trans hrun₂), hbehind]
        rw [readServices_runsSafely h₂.reads
          (h₂.faults_eq.trans (h₁.faults_eq.trans hfaults)) (by rw [hcount, maxCcCount]; omega)]
        constructor
        · intro hsvc
          refine ⟨hover, fun next'' rest' heq => ?_⟩
          obtain ⟨rfl, rfl⟩ := Prod.mk.inj (Option.some.inj heq)
          exact hsvc
        · exact fun hand => hand.2 next' rest rfl
      · -- the next id is read behind the end
        refine iff_of_false (not_cdpRunsSafely_of_past ?_) fun hover => hover.1 ?_
        · refine (Progresses.second (fun _ => readServices_progresses) ctx).past ?_
          rw [hrun₁]
          exact countedEntries_past htakes h₁.reads heq
        · exact ⟨rfl, count, triplets, rfl, hne, Or.inr heq⟩

/-- From the captions on the parser is safe unless they or the services overrun the payload. -/
lemma readCaptions_runsSafely (hreads : ctx.Reads (Bits.ofBytes l)) (hfaults : ctx.faults = []) :
    CdpRunsSafely ((readCaptions payload n header tc next).run.run ctx) ↔
      ¬CaptionsOverrun next l ∧ ∀ next' rest, behindCaptions next l = some (next', rest) →
        ¬ServicesOverrun next' rest := by
  by_cases hid : next = 0x72
  · subst hid
    rw [readCaptions, sectionIf, if_pos rfl]
    by_cases hlen : l.length < 2
    · -- not even the shortest section is there
      refine iff_of_true ?_ ⟨?_, fun next' rest hbehind => ?_⟩
      · rw [run_bind_of_error (parseCcdataSection_few 0x72 hreads hlen)]
        exact .of_error rfl ⟨hreads, rfl, rfl⟩ hfaults
      · rintro ⟨-, count, triplets, rfl, hne, -⟩
        have hpos := List.length_pos_of_ne_nil hne
        rw [List.length_cons] at hlen
        omega
      · have hnone : behindCaptions 0x72 l = none := by
          cases l with
          | nil => rfl
          | cons count triplets =>
            exact behindCaptions_none (by rw [List.length_cons] at hlen; omega)
        rw [hnone] at hbehind
        cases hbehind
    · obtain ⟨count, triplets, rfl⟩ := List.exists_cons_of_length_pos (by omega : 0 < l.length)
      rw [List.length_cons] at hlen
      exact readCaptions_section_runsSafely (List.ne_nil_of_length_pos (by omega)) hreads hfaults
  · have hbehind : behindCaptions next l = some (next, l) := if_neg hid
    rw [readCaptions, sectionIf, if_neg hid, pure_bind, hbehind,
      readServices_runsSafely hreads hfaults (Nat.zero_le _)]
    constructor
    · intro hsvc
      refine ⟨fun hover => hid hover.1, fun next' rest heq => ?_⟩
      obtain ⟨rfl, rfl⟩ := Prod.mk.inj (Option.some.inj heq)
      exact hsvc
    · exact fun hand => hand.2 next l rfl

/-- The parser is safe on a payload unless its captions or its services overrun it. -/
lemma parseCdp_runsSafely (hreads : ctx.Reads (Bits.ofBytes l)) (hfaults : ctx.faults = []) :
    CdpRunsSafely ((parseCdp payload n).run.run ctx) ↔
      (∀ next rest, captionsAt l = some (next, rest) → ¬CaptionsOverrun next rest) ∧
        ∀ next rest, servicesAt l = some (next, rest) → ¬ServicesOverrun next rest := by
  cases hat : captionsAt l with
  | none =>
    obtain ⟨l', ctx', hrun, hreach⟩ := @parseCdp_captionsAt_none payload l n ctx hreads hat
    have hnone : servicesAt l = none := by rw [servicesAt, hat, Option.bind_none]
    rw [hrun, hnone]
    refine iff_of_true (.of_error rfl hreach hfaults) ⟨fun _ _ h => ?_, fun _ _ h => ?_⟩
    · cases h
    · cases h
  | some x =>
    obtain ⟨next, rest⟩ := x
    obtain ⟨header, tc, ctx', hrun, hreach⟩ := @parseCdp_captionsAt payload l n ctx _ _ hreads hat
    have hsome : servicesAt l = behindCaptions next rest := by
      rw [servicesAt, hat, Option.bind_some]
    rw [hrun, hsome, readCaptions_runsSafely hreach.reads (hreach.faults_eq.trans hfaults)]
    refine and_congr_left fun _ => ⟨fun hover next' rest' heq => ?_, fun h => h next rest rfl⟩
    obtain ⟨rfl, rfl⟩ := Prod.mk.inj (Option.some.inj heq)
    exact hover

end Sections

/-! ### The parser -/

/-- `parse_EIA_708B` with the reader it leaves. -/
def cdpRun (hdr : KlvancPacketHeader) : Except ℤ KlvancPacketEia708b × KlbsContext :=
  (parseCdp ((List.range 256).map hdr.payloadByte) hdr.payloadLengthWords).run.run
    (payloadReader hdr)

/-- `parse_EIA_708B` is safe on the payload: the octets loaded lie inside it, no array is left, and
a packet that is delivered has counts for which its arrays have cells. -/
structure EIA708BParsedSafely (hdr : KlvancPacketHeader) : Prop where
  inside : klbsGetByteCount (cdpRun hdr).2 ≤ hdr.payloadLengthWords
  safe : (parseEIA708B hdr).Safe
  counts : ∀ pkt, (parseEIA708B hdr).val = .ok pkt →
    pkt.ccdata.ccCount.toNat ≤ 30 ∧ pkt.ccsvc.svcCount.toNat ≤ 15

/-- `parse_EIA_708B` is safe on a payload exactly when the captions and the services that it finds
in it do not overrun it. -/
theorem parseEIA708B_safe_iff (hdr : KlvancPacketHeader) (h : hdr.payload.length ≤ 255) :
    EIA708BParsedSafely hdr ↔
      (∀ next rest, captionsAt (hdr.payload.map lowByte) = some (next, rest) →
        ¬CaptionsOverrun next rest) ∧
      ∀ next rest, servicesAt (hdr.payload.map lowByte) = some (next, rest) →
        ¬ServicesOverrun next rest := by
  have hiff := @parseCdp_runsSafely ((List.range 256).map hdr.payloadByte)
    (hdr.payload.map lowByte) hdr.payloadLengthWords _ (payloadReader_reads h) rfl
  have hlen : (cdpRun hdr).2.buflen = hdr.payloadLengthWords :=
    (parseCdp_progresses (payloadReader hdr)).buflen_eq
  rw [← hiff]
  constructor
  · intro hsafe
    exact ⟨hsafe.inside.trans hlen.ge, hsafe.safe, hsafe.counts⟩
  · intro hsafe
    exact ⟨hsafe.inside.trans hlen.le, hsafe.safe, hsafe.counts⟩

/-- A distribution packet cut off behind its only triplet. -/
def endingCaptions : SdiPacket :=
  .ofBytes 0x61 0x01 [0x96, 0x69, 0x0c, 0x4f, 0x43, 0x00, 0x01, 0x72, 0xe1, 0xfc, 0x80, 0x80]
    (Eq.refl true)

/-- Its last triplet is followed by an octet that is not there. -/
theorem not_parseEIA708B_safe_ending : ¬EIA708BParsedSafely endingCaptions.onLine := fun h =>
  absurd h.inside (by decide +kernel)

/-- A distribution packet with two triplets and a service, and its footer. -/
def captionsAndService : SdiPacket :=
  .ofBytes 0x61 0x01 [0x96, 0x69, 0x1c, 0x4f, 0x73, 0x00, 0x01, 0x72, 0xe2, 0xfc, 0x80, 0x80,
    0xfd, 0x80, 0x80, 0x73, 0xd1, 0xe1, 0x65, 0x6e, 0x67, 0xc1, 0x3f, 0xff, 0x74, 0x00, 0x01, 0x02]
    (Eq.refl true)

/-- The triplets and the service are parsed safely, and delivered. -/
theorem parseEIA708B_safe_captionsAndService :
    EIA708BParsedSafely captionsAndService.onLine ∧
      (parseEIA708B captionsAndService.onLine).val.toOption.map
        (fun pkt => (pkt.ccdata.ccCount, pkt.ccsvc.svcCount)) = some (2, 1) := by
  have hcaptions : captionsAt (captionsAndService.onLine.payload.map lowByte) =
      some (0x72, [0xe2, 0xfc, 0x80, 0x80, 0xfd, 0x80, 0x80, 0x73, 0xd1, 0xe1, 0x65, 0x6e, 0x67,
        0xc1, 0x3f, 0xff, 0x74, 0x00, 0x01, 0x02]) := by
    decide +kernel
  have hservices : servicesAt (captionsAndService.onLine.payload.map lowByte) =
      some (0x73, [0xd1, 0xe1, 0x65, 0x6e, 0x67, 0xc1, 0x3f, 0xff, 0x74, 0x00, 0x01, 0x02]) := by
    decide +kernel
  refine ⟨(parseEIA708B_safe_iff captionsAndService.onLine (by decide)).mpr
    ⟨fun next rest h hover => ?_, fun next rest h hover => ?_⟩, by decide +kernel⟩
  · rw [hcaptions] at h
    obtain ⟨rfl, rfl⟩ := Prod.mk.inj (Option.some.inj h)
    obtain ⟨-, count, triplets, heq, -, hend⟩ := hover
    obtain ⟨rfl, rfl⟩ := List.cons.inj heq
    exact absurd hend (by decide)
  · rw [hservices] at h
    obtain ⟨rfl, rfl⟩ := Prod.mk.inj (Option.some.inj h)
    obtain ⟨-, count, entries, heq, -, hend⟩ := hover
    obtain ⟨rfl, rfl⟩ := List.cons.inj heq
    exact absurd hend (by decide)

end Libklvanc
