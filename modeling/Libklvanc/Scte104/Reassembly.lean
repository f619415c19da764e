import Libklvanc.Core.LineScan
import Libklvanc.Foundation.Series

/-!
# Reassembling SCTE-104 messages

The fragments kept in the context are an implementation of the assembler `Series.step`: after every
packet the slots hold the fragments that the assembler holds (`holds_parseSCTE104`). So
`messageFragmentFinal` assembles a message exactly when the packets since the last first fragment,
without the ignored ones, are that fragment and at most eight middle ones, and the message is then
made of these fragments in the order in which they came (`messageFragmentFinal_assembles_iff`).
-/

namespace Libklvanc

/-! ### The kinds of packets -/

/-- What the descriptor byte says a packet is. -/
inductive FragmentKind
  | ignored
  | single
  | first
  | middle
  | last
  deriving DecidableEq, Repr

/-- The kind of a packet: a duplicate is ignored, and so is a packet that is neither a whole message
nor a fragment. -/
def fragmentKind (hdr : KlvancPacketHeader) : FragmentKind :=
  let descriptor := hdr.payloadByte 0
  if descriptor.getLsbD 0 then .ignored
  else if descriptor = 0x08 then .single
  else
    match descriptor.getLsbD 2, descriptor.getLsbD 1 with
    | true, false => .first
    | true, true => .middle
    | false, true => .last
    | false, false => .ignored

/-- The event that a packet is for the assembler. -/
def fragmentEvent (hdr : KlvancPacketHeader) : Series.Event KlvancPacketHeader :=
  match fragmentKind hdr with
  | .ignored => .skip
  | .single => .single
  | .first => .first hdr
  | .middle => .middle hdr
  | .last => .last hdr

/-- A packet without payload is ignored. -/
lemma payload_ne_nil {hdr : KlvancPacketHeader} (h : fragmentKind hdr ≠ .ignored) :
    hdr.payload ≠ [] := by
  intro hnil
  apply h
  have hd : hdr.payloadByte 0 = 0 := by
    rw [KlvancPacketHeader.payloadByte, KlvancPacketHeader.payloadWord, hnil]
    rfl
  rw [fragmentKind, hd]
  rfl

/-- The payload of a message: that of its first fragment and those of the others behind their
descriptor bytes. -/
def joinedPayload : List KlvancPacketHeader → List Word
  | [] => []
  | hdr :: hdrs => hdr.payload ++ hdrs.flatMap fun hdr => hdr.payload.drop 1

/-! ### The slots -/

/-- A packet as it is kept in a slot. -/
def storedFragment (hdr : KlvancPacketHeader) : KlvancPacketHeader :=
  { hdr with rawLengthWords := hdr.payloadLengthWords + 7 }

/-- The slots hold the packets `l`, and the others are `NULL`. -/
structure Scte104Fragments.Holds (frags : Scte104Fragments) (l : List KlvancPacketHeader) :
    Prop where
  count : frags.count = l.length
  slots : ∀ (i : ℕ) (h : i < scte104MaxFragments), frags.slots[i] = l[i]?.map storedFragment

namespace Scte104Fragments.Holds

variable {frags : Scte104Fragments} {l : List KlvancPacketHeader} {hdr : KlvancPacketHeader}

/-- A new context holds nothing. -/
lemma empty : Holds {} [] where
  count := rfl
  slots i h := by simp

/-- Exactly the slots below the count are occupied. -/
lemma isSome_iff (h : frags.Holds l) (i : ℕ) (hi : i < scte104MaxFragments) :
    frags.slots[i].isSome = true ↔ i < frags.count := by
  rw [h.slots i hi, h.count]
  simp

/-- The occupied slots. -/
lemma take_eq (h : frags.Holds l) : frags.slots.toList.take frags.count =
    l.map fun hdr => some (storedFragment hdr) := by
  have hle := frags.count_le
  have hcount := h.count
  apply List.ext_getElem
  · rw [List.length_take, Vector.length_toList, List.length_map, min_eq_left hle, hcount]
  · intro i h₁ h₂
    rw [List.length_take, Vector.length_toList] at h₁
    have hi : i < l.length := by omega
    rw [List.getElem_take, Vector.getElem_toList, h.slots i (by omega), List.getElem_map,
      List.getElem?_eq_getElem hi]
    rfl

/-- `messageFragmentReset` empties the slots. -/
lemma reset (h : frags.Holds l) : (messageFragmentReset frags).Holds [] where
  count := rfl
  slots i hi := by
    have hs := h.slots i hi
    simp only [messageFragmentReset, Vector.getElem_mapFinIdx, List.getElem?_nil, Option.map_none,
      hs, h.count]
    split_ifs with hc
    · rfl
    · rw [List.getElem?_eq_none (not_lt.mp hc)]
      rfl

/-- `messageFragmentAppend` keeps one more packet. -/
lemma append (h : frags.Holds l) (hlt : l.length < scte104MaxFragments) (hdr : KlvancPacketHeader) :
    (messageFragmentAppend frags hdr).Safe ∧
    (messageFragmentAppend frags hdr).val.Holds (l ++ [hdr]) := by
  have hcount : frags.count < scte104MaxFragments := by rwa [h.count]
  unfold messageFragmentAppend
  rw [dif_pos hcount]
  refine ⟨Checked.safe_pure _, by simp [h.count], fun i hi => ?_⟩
  simp only [Checked.pure_val, Vector.getElem_set, h.count]
  split_ifs with hc
  · subst hc
    simp [storedFragment]
  · rw [h.slots i hi]
    rcases lt_or_gt_of_ne hc with hlt | hgt
    · rw [List.getElem?_eq_none hlt.le, List.getElem?_eq_none (by simpa using hlt)]
    · rw [List.getElem?_append_left hgt]

/-- `messageFragmentFollowing` does what the assembler does with a middle fragment. -/
lemma following (h : frags.Holds l) (hlt : l.length < scte104MaxFragments) :
    (messageFragmentFollowing frags hdr).Safe ∧ (messageFragmentFollowing frags hdr).val.Holds
      (Series.step scte104MaxFragments l (.middle hdr)).1 := by
  have hnil : frags.count = 0 ↔ l = [] := by rw [h.count, List.length_eq_zero_iff]
  have hfull : frags.count + 1 = scte104MaxFragments ↔ l.length + 1 = scte104MaxFragments := by
    rw [h.count]
  unfold messageFragmentFollowing Series.step
  simp only [hnil, hfull]
  by_cases h₁ : l = []
  · simp only [h₁, true_or, if_true]
    exact ⟨Checked.safe_pure _, h.reset⟩
  · by_cases h₂ : l.length + 1 = scte104MaxFragments
    · simp only [h₁, h₂, or_true, if_true, if_false]
      exact ⟨Checked.safe_pure _, h.reset⟩
    · simp only [h₁, h₂, or_self, if_false]
      exact h.append hlt hdr

end Scte104Fragments.Holds

/-! ### Joining the payloads -/

/-- Appending a payload that fits, from a position inside it on. -/
lemma klvancPacketPayloadAppend_eq {dst src : KlvancPacketHeader} {srcOffset : ℕ}
    (hpayload : dst.payloadLengthWords + src.payloadLengthWords ≤ packetMaxPayload)
    (hraw : dst.rawLengthWords + src.rawLengthWords ≤ packetMaxPayload)
    (hoffset : srcOffset ≤ src.payloadLengthWords) :
    ∃ full, klvancPacketPayloadAppend dst src srcOffset = pure (some full) ∧
      full.payload = dst.payload ++ src.payload.drop srcOffset ∧
      full.rawLengthWords = dst.rawLengthWords + src.rawLengthWords := by
  unfold klvancPacketPayloadAppend
  rw [if_neg (by omega), if_neg (by omega), if_neg (by omega)]
  exact ⟨_, rfl, rfl, rfl⟩

/-- The loop of `messageFragmentFinal` joins the payloads behind the descriptor bytes. -/
lemma messageFragmentJoin_eq {l : List KlvancPacketHeader} {dst : KlvancPacketHeader}
    (hsmall : ∀ hdr ∈ l, hdr.payloadLengthWords ≤ 255) (hne : ∀ hdr ∈ l, hdr.payload ≠ [])
    (hpayload : dst.payloadLengthWords + 255 * l.length ≤ packetMaxPayload)
    (hraw : dst.rawLengthWords + 262 * l.length ≤ packetMaxPayload) :
    ∃ full, messageFragmentJoin dst 1 (l.map fun hdr => some (storedFragment hdr)) =
        pure (some full) ∧
      full.payload = dst.payload ++ l.flatMap fun hdr => hdr.payload.drop 1 := by
  induction l generalizing dst with
  | nil => exact ⟨dst, rfl, by simp⟩
  | cons hdr l ih =>
    have hle := hsmall hdr List.mem_cons_self
    have hpos : 1 ≤ hdr.payloadLengthWords :=
      List.length_pos_iff.mpr (hne hdr List.mem_cons_self)
    rw [List.length_cons] at hpayload hraw
    obtain ⟨mid, hmid, hpl, hrl⟩ := @klvancPacketPayloadAppend_eq dst (storedFragment hdr) 1
      (by change _ + hdr.payloadLengthWords ≤ _; omega)
      (by change _ + (hdr.payloadLengthWords + 7) ≤ _; omega) hpos
    have hlen : mid.payloadLengthWords ≤ dst.payloadLengthWords + 255 := by
      rw [KlvancPacketHeader.payloadLengthWords, hpl, List.length_append, List.length_drop]
      change _ + (hdr.payloadLengthWords - 1) ≤ _
      simp only [KlvancPacketHeader.payloadLengthWords] at hle ⊢
      omega
    have hrlen : mid.rawLengthWords ≤ dst.rawLengthWords + 262 := by
      rw [hrl]
      change _ + (hdr.payloadLengthWords + 7) ≤ _
      omega
    obtain ⟨full, hfull, hp⟩ := @ih mid (fun h hm => hsmall h (List.mem_cons_of_mem _ hm))
      (fun h hm => hne h (List.mem_cons_of_mem _ hm)) (by omega) (by omega)
    refine ⟨full, ?_, ?_⟩
    · rw [List.map_cons, messageFragmentJoin, hmid]
      exact hfull
    · rw [hp, hpl, List.flatMap_cons, List.append_assoc]
      rfl

/-- `messageFragmentFinal` empties the slots. -/
lemma messageFragmentFinal_holds {frags : Scte104Fragments} {l : List KlvancPacketHeader}
    (h : frags.Holds l) (hlt : l.length < scte104MaxFragments) (hdr : KlvancPacketHeader) :
    (messageFragmentFinal frags hdr).val.2.Holds [] := by
  unfold messageFragmentFinal
  split_ifs
  · exact h.reset
  · exact ((h.append hlt hdr).2).reset

/-- `messageFragmentFinal` joins the fragments held with the last one, if there are any. -/
lemma messageFragmentFinal_eq {frags : Scte104Fragments} {l : List KlvancPacketHeader}
    {hdr : KlvancPacketHeader} (h : frags.Holds l) (hlt : l.length < scte104MaxFragments)
    (hsmall : ∀ f ∈ l ++ [hdr], f.payloadLengthWords ≤ 255)
    (hne : ∀ f ∈ l ++ [hdr], f.payload ≠ []) :
    (messageFragmentFinal frags hdr).Safe ∧
      (messageFragmentFinal frags hdr).val.1.map (·.payload) =
        if l = [] then none else some (joinedPayload (l ++ [hdr])) := by
  unfold messageFragmentFinal
  by_cases hl : l = []
  · have hcount : frags.count = 0 := by rw [h.count, hl, List.length_nil]
    rw [if_pos hcount, if_pos hl]
    exact ⟨Checked.safe_pure _, rfl⟩
  · have hcount : frags.count ≠ 0 := by rwa [h.count, ne_eq, List.length_eq_zero_iff]
    rw [if_neg hcount, if_neg hl]
    obtain ⟨hsafe, happ⟩ := h.append hlt hdr
    obtain ⟨f, l, rfl⟩ := List.exists_cons_of_ne_nil hl
    have hlen : (l ++ [hdr]).length < 10 := by
      simp only [List.length_cons, scte104MaxFragments] at hlt
      rw [List.length_append, List.length_singleton]
      exact hlt
    have hf := hsmall f List.mem_cons_self
    obtain ⟨mid, hmid, hpl, hrl⟩ := @klvancPacketPayloadAppend_eq
      { hdr with checksumValid := false, payload := [], raw := [], rawLengthWords := 0 }
      (storedFragment f) 0
      (by change 0 + f.payloadLengthWords ≤ 16384; omega)
      (by change 0 + (f.payloadLengthWords + 7) ≤ 16384; omega) (Nat.zero_le _)
    have hplen : mid.payloadLengthWords = f.payloadLengthWords := by
      rw [KlvancPacketHeader.payloadLengthWords, hpl]
      rfl
    have hrlen : mid.rawLengthWords = f.payloadLengthWords + 7 := by
      rw [hrl]
      exact Nat.zero_add _
    obtain ⟨full, hfull, hp⟩ := @messageFragmentJoin_eq (l ++ [hdr]) mid
      (fun g hg => hsmall g (List.mem_cons_of_mem _ hg))
      (fun g hg => hne g (List.mem_cons_of_mem _ hg))
      (by simp only [packetMaxPayload]; omega) (by simp only [packetMaxPayload]; omega)
    have hjoin : messageFragmentJoin
        { hdr with checksumValid := false, payload := [], raw := [], rawLengthWords := 0 } 0
        ((messageFragmentAppend frags hdr).val.slots.toList.take
          (messageFragmentAppend frags hdr).val.count) = pure (some full) := by
      rw [happ.take_eq, List.cons_append, List.map_cons, messageFragmentJoin, hmid]
      exact hfull
    constructor
    · rw [Checked.safe_bind, Checked.safe_bind, hjoin]
      exact ⟨hsafe, Checked.safe_pure _, Checked.safe_pure _⟩
    · rw [Checked.bind_val, Checked.bind_val, hjoin]
      change some full.payload = some (f.payload ++ _)
      rw [hp, hpl]
      rfl

/-! ### Runs -/

/-- Delivering a message leaves the context alone. -/
lemma deliverScte104_ctx (run : KlvancRun) (hdr : KlvancPacketHeader) (descriptor : Byte) :
    (deliverScte104 run hdr descriptor).2.ctx = run.ctx := by
  unfold deliverScte104
  dsimp only
  split <;> rfl

/-- One packet: the slots follow the assembler. -/
lemma holds_parseSCTE104 {run : KlvancRun} {l : List KlvancPacketHeader}
    (hreg : run.ctx.registered (·.scte104) = true) (h : run.ctx.scte104.Holds l)
    (hlt : l.length < scte104MaxFragments) (hdr : KlvancPacketHeader) :
    (parseSCTE104 run hdr).2.ctx.scte104.Holds
      (Series.step scte104MaxFragments l (fragmentEvent hdr)).1 := by
  unfold parseSCTE104 fragmentEvent fragmentKind
  simp only [hreg, Bool.not_true, Bool.false_eq_true, if_false]
  by_cases hdup : (hdr.payloadByte 0).getLsbD 0 = true
  · simp only [hdup, if_true]
    exact h
  · by_cases hsingle : hdr.payloadByte 0 = 0x08
    · have hflag : (0x08 : Byte).getLsbD 0 = false := by decide
      simp only [hsingle, hflag, Bool.false_eq_true, ne_eq, not_true_eq_false, if_false, if_true]
      rw [deliverScte104_ctx]
      exact h.reset
    · rw [Bool.not_eq_true] at hdup
      simp only [hdup, hsingle, Bool.false_eq_true, ne_eq, not_false_eq_true, if_true, if_false]
      cases (hdr.payloadByte 0).getLsbD 2 <;> cases (hdr.payloadByte 0).getLsbD 1
      · exact h
      · -- the last fragment
        have hfinal := messageFragmentFinal_holds h hlt hdr
        cases hval : (messageFragmentFinal run.ctx.scte104 hdr).val.1 with
        | none => exact hfinal
        | some fullhdr =>
          simp only [deliverScte104_ctx]
          exact hfinal
      · exact (h.reset.append (by decide) _).2
      · exact (h.following hlt).2

/-- The packets of a history given to `parse_SCTE_104`, one after the other. -/
def parseSCTE104s (run : KlvancRun) (hdrs : List KlvancPacketHeader) : KlvancRun :=
  hdrs.foldl (fun run hdr => (parseSCTE104 run hdr).2) run

/-- A history: the slots hold what the assembler has collected. -/
lemma holds_parseSCTE104s {ctx : KlvancContext} (hreg : ctx.registered (·.scte104) = true)
    (hempty : ctx.scte104 = {}) (hdrs : List KlvancPacketHeader) :
    (parseSCTE104s (.start ctx) hdrs).ctx.settings = ctx.settings ∧
      (parseSCTE104s (.start ctx) hdrs).ctx.scte104.Holds
        (Series.collected scte104MaxFragments (hdrs.map fragmentEvent)) := by
  induction hdrs using List.reverseRecOn with
  | nil =>
    refine ⟨rfl, ?_⟩
    change ctx.scte104.Holds []
    rw [hempty]
    exact Scte104Fragments.Holds.empty
  | append_singleton hdrs hdr ih =>
    obtain ⟨hsettings, hholds⟩ := ih
    have hlt := Series.collected_length_lt (show 2 ≤ scte104MaxFragments by decide)
      (hdrs.map fragmentEvent)
    rw [parseSCTE104s, List.foldl_append, List.foldl_cons, List.foldl_nil, List.map_append,
      List.map_singleton, Series.collected_append_singleton]
    rw [← registered_congr hsettings] at hreg
    exact ⟨(keeps_parseSCTE104 _ hdr).settings.trans hsettings,
      holds_parseSCTE104 hreg hholds hlt hdr⟩

/-! ### Histories -/

/-- Only a first fragment is the event of one. -/
lemma fragmentEvent_eq_first {hdr f : KlvancPacketHeader} :
    fragmentEvent hdr = .first f ↔ fragmentKind hdr = .first ∧ hdr = f := by
  unfold fragmentEvent
  cases fragmentKind hdr <;> simp

/-- Only a middle fragment is the event of one. -/
lemma fragmentEvent_eq_middle {hdr f : KlvancPacketHeader} :
    fragmentEvent hdr = .middle f ↔ fragmentKind hdr = .middle ∧ hdr = f := by
  unfold fragmentEvent
  cases fragmentKind hdr <;> simp

/-- The events that matter are those of the packets that are not ignored. -/
lemma relevant_map_fragmentEvent (hdrs : List KlvancPacketHeader) :
    Series.Event.relevant (hdrs.map fragmentEvent) =
      (hdrs.filter (fragmentKind · ≠ .ignored)).map fragmentEvent := by
  have hskip : ∀ hdr, (!(fragmentEvent hdr).isSkip) = decide (fragmentKind hdr ≠ .ignored) := by
    intro hdr
    unfold fragmentEvent
    cases fragmentKind hdr <;> rfl
  rw [Series.Event.relevant, List.filter_map]
  exact congrArg _ (List.filter_congr fun hdr _ => hskip hdr)

/-- Middle fragments are the events of middle fragments. -/
lemma map_fragmentEvent_eq_middle {hdrs ms : List KlvancPacketHeader} :
    hdrs.map fragmentEvent = ms.map Series.Event.middle ↔
      (∀ m ∈ hdrs, fragmentKind m = .middle) ∧ hdrs = ms := by
  induction hdrs generalizing ms with
  | nil => cases ms <;> simp
  | cons hdr hdrs ih =>
    cases ms with
    | nil => simp
    | cons m ms =>
      rw [List.map_cons, List.map_cons, List.cons.injEq, fragmentEvent_eq_middle, ih,
        List.forall_mem_cons, List.cons.injEq]
      tauto

/-- A history of packets ends in a series when it ends in a first fragment and middle ones. -/
lemma endsIn_map_fragmentEvent {hdrs l : List KlvancPacketHeader} :
    Series.EndsIn (hdrs.map fragmentEvent) l ↔
      ∃ pre first middles, hdrs = pre ++ first :: middles ∧ fragmentKind first = .first ∧
        (∀ m ∈ middles, fragmentKind m = .middle) ∧ l = first :: middles := by
  constructor
  · rintro ⟨pre, f, ms, hes, rfl⟩
    obtain ⟨pre', rest, rfl, -, hrest⟩ := List.map_eq_append_iff.mp hes
    obtain ⟨f', ms', rfl, hf, hms⟩ := List.map_eq_cons_iff.mp hrest
    obtain ⟨hkind, rfl⟩ := fragmentEvent_eq_first.mp hf
    obtain ⟨hmiddle, rfl⟩ := map_fragmentEvent_eq_middle.mp hms
    exact ⟨pre', f', ms', rfl, hkind, hmiddle, rfl⟩
  · rintro ⟨pre, f, ms, rfl, hf, hms, rfl⟩
    refine ⟨pre.map fragmentEvent, f, ms, ?_, rfl⟩
    rw [List.map_append, List.map_cons, fragmentEvent_eq_first.mpr ⟨hf, rfl⟩,
      map_fragmentEvent_eq_middle.mpr ⟨hms, rfl⟩]

/-- What the assembler holds was in the history and is no ignored packet. -/
lemma mem_of_endsIn {hdrs l : List KlvancPacketHeader}
    (h : Series.EndsIn (Series.Event.relevant (hdrs.map fragmentEvent)) l) {f : KlvancPacketHeader}
    (hf : f ∈ l) : f ∈ hdrs ∧ fragmentKind f ≠ .ignored := by
  rw [relevant_map_fragmentEvent] at h
  obtain ⟨pre, first, middles, hdecomp, -, -, rfl⟩ := endsIn_map_fragmentEvent.mp h
  have hmem : f ∈ hdrs.filter (fragmentKind · ≠ .ignored) := by
    rw [hdecomp]
    exact List.mem_append_right _ hf
  simpa using hmem

section History

variable {ctx : KlvancContext} {hdrs : List KlvancPacketHeader} {hdr : KlvancPacketHeader}

/-- A last fragment is joined to what the assembler has collected, if there is anything. -/
lemma messageFragmentFinal_collected (hreg : ctx.registered (·.scte104) = true)
    (hempty : ctx.scte104 = {}) (hsmall : ∀ hdr ∈ hdrs, hdr.payloadLengthWords ≤ 255)
    (hle : hdr.payloadLengthWords ≤ 255) (hkind : fragmentKind hdr = .last) :
    (messageFragmentFinal (parseSCTE104s (.start ctx) hdrs).ctx.scte104 hdr).Safe ∧
      (messageFragmentFinal (parseSCTE104s (.start ctx) hdrs).ctx.scte104 hdr).val.1.map
          (·.payload) =
        if Series.collected scte104MaxFragments (hdrs.map fragmentEvent) = [] then none
        else some (joinedPayload
          (Series.collected scte104MaxFragments (hdrs.map fragmentEvent) ++ [hdr])) := by
  have hcap : 2 ≤ scte104MaxFragments := by decide
  obtain ⟨-, hholds⟩ := holds_parseSCTE104s hreg hempty hdrs
  have hmem : ∀ f ∈ Series.collected scte104MaxFragments (hdrs.map fragmentEvent) ++ [hdr],
      f.payloadLengthWords ≤ 255 ∧ fragmentKind f ≠ .ignored := by
    intro f hf
    rcases List.mem_append.mp hf with hf | hf
    · have hends := ((Series.collected_eq_iff hcap (List.ne_nil_of_mem hf)).mp rfl).1
      obtain ⟨hin, hne⟩ := mem_of_endsIn hends hf
      exact ⟨hsmall f hin, hne⟩
    · rw [List.mem_singleton.mp hf, hkind]
      exact ⟨hle, by decide⟩
  exact messageFragmentFinal_eq hholds (Series.collected_length_lt hcap _)
    (fun f hf => (hmem f hf).1) fun f hf => payload_ne_nil (hmem f hf).2

/-- A history that ends, ignored packets left out, in a first fragment and at most eight middle ones
leaves these collected. -/
lemma collected_of_series {pre middles : List KlvancPacketHeader} {first : KlvancPacketHeader}
    (hdecomp : hdrs.filter (fragmentKind · ≠ .ignored) = pre ++ first :: middles)
    (hfirst : fragmentKind first = .first) (hmiddles : ∀ m ∈ middles, fragmentKind m = .middle)
    (hcount : middles.length ≤ 8) :
    Series.collected scte104MaxFragments (hdrs.map fragmentEvent) = first :: middles := by
  have hends : Series.EndsIn (Series.Event.relevant (hdrs.map fragmentEvent))
      (first :: middles) := by
    rw [relevant_map_fragmentEvent]
    exact endsIn_map_fragmentEvent.mpr ⟨pre, first, middles, hdecomp, hfirst, hmiddles, rfl⟩
  refine (Series.collected_eq_iff (by decide) (List.cons_ne_nil _ _)).mpr ⟨hends, ?_⟩
  simp only [List.length_cons, scte104MaxFragments]
  omega

/-- A last fragment completes the message of such a history. -/
lemma messageFragmentFinal_completes (hreg : ctx.registered (·.scte104) = true)
    (hempty : ctx.scte104 = {}) (hsmall : ∀ hdr ∈ hdrs, hdr.payloadLengthWords ≤ 255)
    {pre middles : List KlvancPacketHeader} {first : KlvancPacketHeader}
    (hdecomp : hdrs.filter (fragmentKind · ≠ .ignored) = pre ++ first :: middles)
    (hfirst : fragmentKind first = .first) (hmiddles : ∀ m ∈ middles, fragmentKind m = .middle)
    (hcount : middles.length ≤ 8) (hle : hdr.payloadLengthWords ≤ 255)
    (hkind : fragmentKind hdr = .last) :
    ∃ full frags, messageFragmentFinal (parseSCTE104s (.start ctx) hdrs).ctx.scte104 hdr =
        pure (some full, frags) ∧
      full.payload = joinedPayload (first :: (middles ++ [hdr])) := by
  obtain ⟨hsafe, hval⟩ := messageFragmentFinal_collected hreg hempty hsmall hle hkind
  rw [collected_of_series hdecomp hfirst hmiddles hcount, if_neg (List.cons_ne_nil _ _)] at hval
  obtain ⟨full, hfull, hpayload⟩ := Option.map_eq_some_iff.mp hval
  exact ⟨full, _, Checked.ext (Prod.ext hfull rfl) hsafe, hpayload⟩

end History

/-- After every history of packets of at most 255 payload words the count is at most 9 and exactly
the slots below it are occupied; and a last fragment then assembles a message exactly when the
packets since the last first fragment, without the ignored ones, are that fragment and at most eight
middle ones: the message is their payloads, of the later ones without the descriptor byte. -/
theorem messageFragmentFinal_assembles_iff {ctx : KlvancContext}
    (hreg : ctx.registered (·.scte104) = true) (hempty : ctx.scte104 = {})
    {hdrs : List KlvancPacketHeader} (hsmall : ∀ hdr ∈ hdrs, hdr.payloadLengthWords ≤ 255) :
    (parseSCTE104s (.start ctx) hdrs).ctx.scte104.count ≤ 9 ∧
      (∀ (i : ℕ) (hi : i < scte104MaxFragments),
        (parseSCTE104s (.start ctx) hdrs).ctx.scte104.slots[i].isSome = true ↔
          i < (parseSCTE104s (.start ctx) hdrs).ctx.scte104.count) ∧
      ∀ hdr : KlvancPacketHeader, hdr.payloadLengthWords ≤ 255 → fragmentKind hdr = .last →
        (messageFragmentFinal (parseSCTE104s (.start ctx) hdrs).ctx.scte104 hdr).Safe ∧
        ∀ payload, (∃ full,
            (messageFragmentFinal (parseSCTE104s (.start ctx) hdrs).ctx.scte104 hdr).val.1 =
              some full ∧ full.payload = payload) ↔
          ∃ pre first middles, hdrs.filter (fragmentKind · ≠ .ignored) = pre ++ first :: middles ∧
            fragmentKind first = .first ∧ (∀ m ∈ middles, fragmentKind m = .middle) ∧
            middles.length ≤ 8 ∧
            payload = first.payload ++ (middles ++ [hdr]).flatMap fun f => f.payload.drop 1 := by
  obtain ⟨-, hholds⟩ := holds_parseSCTE104s hreg hempty hdrs
  refine ⟨?_, hholds.isSome_iff, fun hdr hle hkind => ?_⟩
  · rw [hholds.count]
    exact Nat.le_of_lt_succ (Series.collected_length_lt (by decide) _)
  · obtain ⟨hsafe, hval⟩ := messageFragmentFinal_collected hreg hempty hsmall hle hkind
    refine ⟨hsafe, fun payload => ?_⟩
    rw [← Option.map_eq_some_iff, hval]
    constructor
    · intro h
      split_ifs at h with hc
      obtain ⟨hends, hlen⟩ := (Series.collected_eq_iff (by decide) hc).mp rfl
      rw [relevant_map_fragmentEvent] at hends
      obtain ⟨pre, first, middles, hdecomp, hfirst, hmiddles, heq⟩ :=
        endsIn_map_fragmentEvent.mp hends
      rw [heq] at h hlen
      refine ⟨pre, first, middles, hdecomp, hfirst, hmiddles, ?_, (Option.some.inj h).symm⟩
      simp only [List.length_cons, scte104MaxFragments] at hlen
      omega
    · rintro ⟨pre, first, middles, hdecomp, hfirst, hmiddles, hlen, rfl⟩
      rw [collected_of_series hdecomp hfirst hmiddles hlen, if_neg (List.cons_ne_nil _ _)]
      rfl

/-- A packet with the given payload. -/
def fragmentHeader (payload : List Word) : KlvancPacketHeader where
  type := .scte104
  adf := (0x000, 0x3ff, 0x3ff)
  did := 0x41
  dbnsdid := 0x07
  checksum := 0
  payload := payload
  checksumValid := true
  lineNr := 9
  raw := []
  rawLengthWords := payload.length + 7
  horizontalOffset := 0

/-- A first, a duplicated, a middle and a last fragment make a message. -/
theorem messageFragmentFinal_assembles_three :
    ∃ full, (messageFragmentFinal (parseSCTE104s
        (.start { callbacks := some { scte104 := true } })
        [fragmentHeader [0x0c, 0xff], fragmentHeader [0x0d], fragmentHeader [0x0e, 0xff, 0x00]]
        ).ctx.scte104 (fragmentHeader [0x0a, 0x1e])).val.1 = some full ∧
      full.payload = [0x0c, 0xff, 0xff, 0x00, 0x1e] :=
  (((messageFragmentFinal_assembles_iff rfl rfl (by decide)).2.2
    (fragmentHeader [0x0a, 0x1e]) (by decide) (by decide)).2 _).mpr
    ⟨[], fragmentHeader [0x0c, 0xff], [fragmentHeader [0x0e, 0xff, 0x00]], by decide, by decide,
      by decide, by decide, by decide⟩

end Libklvanc
