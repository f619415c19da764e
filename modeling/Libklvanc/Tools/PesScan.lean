import Libklvanc.Foundation.FrameScan
import Libklvanc.Tools.PesSafety

/-!
# The cut of a stream into transport packets

A resynchronisation looks for the header at about half of the bytes in the buffer, and takes four
bytes more than it has looked at. A header at one of these four is lost, so that what the callback
gets depends on where the stream was cut. As long as no header is lost, it gets the PES packets that
one scan of the stream finds, whatever the cut (`pePush_scans`).
-/

namespace Libklvanc

/-- How many bytes a PES packet has, whose header comes first. -/
def pesSize (l : List Byte) : ℕ := pesHdr.length + 2 + pesLength (l.drop pesHdr.length)

/-- The PES packets that a scan of a stream finds. -/
def pesScan (l : List Byte) : List (List Byte) := FrameScan.scan pesHdr pesSize l

namespace PesQueue

variable {q : PesQueue}

/-- The bytes of the stream that the extractor has not dealt with, the header of the PES packet it
waits for included. -/
def unread (q : PesQueue) : List Byte := (if q.hasSync then pesHdr else []) ++ q.bytes

/-- The next resynchronisation loses no header: if one begins at a byte that it takes, then the
first one begins at a byte that it looks at. -/
def KeepsHdr (q : PesQueue) : Prop :=
  q.hasSync = false → 16 < q.bytes.length →
    ∀ j < places q.bytes.length + 4, pesHdr <+: q.bytes.drop j →
      ∃ i < places q.bytes.length, pesHdr <+: q.bytes.drop i

instance : DecidablePred KeepsHdr := fun _ => inferInstanceAs (Decidable (_ → _ → _))

/-- No resynchronisation of the loop loses a header. -/
def KeepsAll : ℕ → PesQueue → Prop
  | 0, _ => True
  | fuel + 1, q => q.KeepsHdr ∧ (q.round.1.isSome → KeepsAll fuel q.round.2)

instance KeepsAll.instDecidable : ∀ fuel q, Decidable (KeepsAll fuel q)
  | 0, _ => inferInstanceAs (Decidable True)
  | fuel + 1, q =>
    have := instDecidable fuel q.round.2
    inferInstanceAs (Decidable (q.KeepsHdr ∧ (q.round.1.isSome → KeepsAll fuel q.round.2)))

/-- No resynchronisation loses a header when a payload comes. -/
def Keeps (q : PesQueue) (payload : List Byte) : Prop :=
  KeepsAll ((q.bytes ++ payload).length + 1) ⟨q.hasSync, q.bytes ++ payload⟩

instance (q : PesQueue) : DecidablePred q.Keeps := fun _ => KeepsAll.instDecidable _ _

/-! ### What a resynchronisation finds -/

/-- The first place with the header. -/
lemma firstHdr_eq_some {bytes : List Byte} {k i : ℕ} (h : firstHdr bytes 0 k = some i) :
    i < k ∧ pesHdr <+: bytes.drop i ∧ ∀ j < i, ¬pesHdr <+: bytes.drop j := by
  rw [firstHdr, List.find?_range'_eq_some] at h
  obtain ⟨hbegins, hmem, hbefore⟩ := h
  rw [List.mem_range'_1, Nat.zero_add, Nat.sub_zero] at hmem
  refine ⟨hmem.2, List.isPrefixOf_iff_prefix.mp hbegins, fun j hj hnot => ?_⟩
  have hfalse := hbefore j (Nat.zero_le j) hj
  rw [List.isPrefixOf_iff_prefix.mpr hnot] at hfalse
  exact Bool.false_ne_true hfalse

/-- No place has the header. -/
lemma firstHdr_eq_none {bytes : List Byte} {k : ℕ} (h : firstHdr bytes 0 k = none) :
    ∀ j < k, ¬pesHdr <+: bytes.drop j := by
  intro j hj hbegins
  rw [firstHdr, List.find?_eq_none] at h
  exact h j (List.mem_range'_1.mpr ⟨Nat.zero_le j, by omega⟩)
    (List.isPrefixOf_iff_prefix.mpr hbegins)

/-- Inside the queue a header does not depend on the bytes to come. -/
lemma prefix_drop_append_iff {bytes future : List Byte} {j : ℕ} (h : j + 4 ≤ bytes.length) :
    pesHdr <+: (bytes ++ future).drop j ↔ pesHdr <+: bytes.drop j := by
  rw [List.drop_append_of_le_length (by omega)]
  refine FrameScan.prefix_append_iff ?_
  rw [List.length_drop]
  exact Nat.le_sub_of_add_le' h

/-- A resynchronisation that loses no header passes over bytes that a scan passes over. -/
lemma pesScan_resync (h : q.KeepsHdr) (future : List Byte) :
    pesScan (q.resync.unread ++ future) = pesScan (q.unread ++ future) := by
  by_cases hlooks : (!q.hasSync) = true ∧ 16 < q.bytes.length
  · have hlen := hlooks.2
    have hsync : q.hasSync = false := Bool.not_eq_true' _ ▸ hlooks.1
    have hplaces : places q.bytes.length + 3 + 4 ≤ q.bytes.length := by
      rw [places]
      omega
    have hunread : q.unread = q.bytes := by rw [unread, hsync]; rfl
    rw [resync_of_looks hlooks, hunread]
    cases hfirst : firstHdr q.bytes 0 (places q.bytes.length) with
    | some i =>
      obtain ⟨hi, hbegins, hbefore⟩ := firstHdr_eq_some hfirst
      have hpass : pesScan (q.bytes ++ future) = pesScan ((q.bytes ++ future).drop i) :=
        FrameScan.scan_drop fun j hj hnot =>
          hbefore j hj ((prefix_drop_append_iff (by omega)).mp hnot)
      obtain ⟨rest, hrest⟩ := hbegins
      have hdrop : q.bytes.drop (i + 4) = rest := by
        rw [← List.drop_drop, ← hrest]
        rfl
      rw [hpass, List.drop_append_of_le_length (by omega), ← hrest]
      simp only [unread, Option.isSome_some, Option.getD_some, if_true, hdrop]
    | none =>
      have hnone := firstHdr_eq_none hfirst
      have hpass : pesScan (q.bytes ++ future) =
          pesScan ((q.bytes ++ future).drop (places q.bytes.length + 4)) := by
        refine FrameScan.scan_drop fun j hj hnot => ?_
        obtain ⟨i, hi, hbegins⟩ := h hsync hlen j hj ((prefix_drop_append_iff (by omega)).mp hnot)
        exact hnone i hi hbegins
      rw [hpass, List.drop_append_of_le_length (by omega)]
      rfl
  · rw [resync_of_not_looks hlooks]

/-! ### What the loop puts out -/

/-- The loop has nothing to put out. -/
def Idle (q : PesQueue) : Prop := q.hasSync = true → ¬Complete q.bytes

/-- A PES packet of which more than the header has come. -/
lemma pesSize_hdr_append {bytes : List Byte} (future : List Byte) (h : 2 ≤ bytes.length) :
    pesSize (pesHdr ++ bytes ++ future) = pesHdr.length + (pesLength bytes + 2) := by
  have hzero : (bytes ++ future).getD 0 0 = bytes.getD 0 0 := List.getD_append _ _ _ _ (by omega)
  have hone : (bytes ++ future).getD 1 0 = bytes.getD 1 0 := List.getD_append _ _ _ _ (by omega)
  have hlen : pesLength (bytes ++ future) = pesLength bytes := by
    rw [pesLength, hzero, hone, pesLength]
  rw [pesSize, List.append_assoc, List.drop_left, hlen]
  omega

/-- A round puts out what a scan finds first, and the scan goes on with what the round leaves. -/
lemma pesScan_round (h : q.KeepsHdr) (future : List Byte) :
    pesScan (q.unread ++ future) = q.round.1.toList ++ pesScan (q.round.2.unread ++ future) := by
  rw [← pesScan_resync h, round]
  split_ifs with hcomplete
  · obtain ⟨hsync, hcomplete⟩ := hcomplete
    have hlen : pesLength q.resync.bytes + 2 ≤ q.resync.bytes.length := hcomplete
    have hunread : q.resync.unread = pesHdr ++ q.resync.bytes := by rw [unread, if_pos hsync]
    have hsize := @pesSize_hdr_append q.resync.bytes future (by omega)
    have hbegins : pesHdr <+: pesHdr ++ q.resync.bytes ++ future :=
      (List.prefix_append _ _).trans (List.prefix_append _ _)
    rw [hunread, pesScan, FrameScan.scan_frame hbegins (by rw [hsize]; exact Nat.succ_pos _) (by
      rw [hsize, List.length_append, List.length_append]; omega), hsize, List.append_assoc,
      List.take_length_add_append, List.drop_length_add_append,
      List.take_append_of_le_length hlen, List.drop_append_of_le_length hlen]
    rfl
  · rfl

/-- The loop puts out what a scan finds, and the scan goes on with what the loop leaves. -/
lemma pesScan_dequeue {fuel : ℕ} (h : KeepsAll fuel q) (future : List Byte) :
    pesScan (q.unread ++ future) =
      (dequeue fuel q).1 ++ pesScan ((dequeue fuel q).2.unread ++ future) := by
  induction fuel generalizing q with
  | zero => rfl
  | succ fuel ih =>
    obtain ⟨hhdr, hrest⟩ := h
    rw [pesScan_round hhdr, dequeue]
    rcases hround : q.round with ⟨_ | msg, next⟩
    · rfl
    · rw [hround] at hrest
      rw [ih (hrest rfl)]
      rfl

/-- A round takes bytes away, and at least two if it puts a PES packet out. -/
lemma round_bytes (q : PesQueue) :
    q.round.2.bytes <:+ q.bytes ∧
      (q.round.1.isSome → q.round.2.bytes.length < q.bytes.length) ∧
      (q.round.1 = none → q.round.2.Idle) := by
  have hresync : q.resync.bytes <:+ q.bytes := by
    rw [resync]
    dsimp only
    split_ifs
    · exact List.drop_suffix _ _
    · exact List.suffix_rfl
  rw [round]
  split_ifs with hcomplete
  · have hlen : pesLength q.resync.bytes + 2 ≤ q.resync.bytes.length := hcomplete.2
    refine ⟨(List.drop_suffix _ _).trans hresync, fun _ => ?_, fun hnone => ?_⟩
    · refine lt_of_lt_of_le ?_ hresync.length_le
      rw [List.length_drop]
      omega
    · exact hnone.elim
  · exact ⟨hresync, fun hsome => absurd hsome Bool.false_ne_true,
      fun _ hsync hbytes => hcomplete ⟨hsync, hbytes⟩⟩

/-- The loop leaves an end of the queue, and ends with nothing to put out. -/
lemma dequeue_bytes {fuel : ℕ} (h : q.bytes.length < fuel) :
    (dequeue fuel q).2.bytes <:+ q.bytes ∧ (dequeue fuel q).2.Idle := by
  induction fuel generalizing q with
  | zero => exact absurd h (Nat.not_lt_zero _)
  | succ fuel ih =>
    obtain ⟨hsuffix, hless, hidle⟩ := q.round_bytes
    rw [dequeue]
    rcases hround : q.round with ⟨_ | msg, next⟩
    · rw [hround] at hsuffix hidle
      exact ⟨hsuffix, hidle rfl⟩
    · rw [hround] at hsuffix hless
      obtain ⟨hrest, hend⟩ := ih ((hless rfl).trans_le (Nat.lt_succ_iff.mp h))
      exact ⟨hrest.trans hsuffix, hend⟩

/-- What is left of a stream that ends with stuffing holds no PES packet. -/
lemma pesScan_unread_of_idle (hidle : q.Idle) (hstuffing : ∀ b ∈ q.bytes, b = 0xff) :
    pesScan q.unread = [] := by
  cases hsync : q.hasSync with
  | true =>
    have hunread : q.unread = pesHdr ++ q.bytes := by rw [unread, if_pos hsync]
    have hincomplete : ¬pesLength q.bytes + 2 ≤ q.bytes.length := hidle hsync
    rw [hunread]
    refine FrameScan.scan_incomplete (List.prefix_append _ _) ?_
    rw [pesSize, List.drop_left, List.length_append]
    omega
  | false =>
    have hunread : q.unread = q.bytes := by rw [unread, hsync]; rfl
    rw [hunread]
    refine FrameScan.scan_eq_nil fun j _ hbegins => ?_
    have hmem : (0 : Byte) ∈ q.bytes :=
      List.mem_of_mem_drop (hbegins.subset (List.mem_cons_self : (0 : Byte) ∈ pesHdr))
    exact absurd (hstuffing 0 hmem) (by decide)

end PesQueue

/-! ### Runs of the extractor -/

/-- The packet leaves less in the buffer than its initial size. -/
def PesExtractor.StaysSmall (pe : PesExtractor) (pkt : TsPacket) : Prop :=
  pe.rb.fill + (payload pkt).length < maxPesSize

/-- No resynchronisation loses a header when the packet comes. -/
def PesExtractor.KeepsHeaders (pe : PesExtractor) (pkt : TsPacket) : Prop :=
  pe.queue.Keeps (payload pkt)

section Run

variable {fresh : ℕ → Byte} {pid : Word} {pe : PesExtractor} {q : PesQueue}

/-- A packet that leaves the buffer small acts on the queue. -/
lemma peProcessPacket_eq (h : pe.Holds pid q) {pkt : TsPacket} (hfits : AdaptationFits pkt)
    (hsmall : pe.StaysSmall pkt) :
    ∃ next, peProcessPacket fresh pe pkt = pure ((q.process (payload pkt)).1, next) ∧
      next.Holds pid (q.process (payload pkt)).2 := by
  obtain ⟨hwf, rfl, rfl⟩ := h
  have hroom : pe.rb.fill + (payload pkt).length ≤ pe.rb.size :=
    hsmall.le.trans (hwf.sizeInitial ▸ hwf.rb.initial_le)
  obtain ⟨pe₁, happend, -, hwf₁, hpid₁, hqueue₁⟩ := @peAppend_of_room fresh pe pkt hwf hfits hroom
  obtain ⟨next, hdequeue, hwf₂, hpid₂, hqueue₂⟩ :=
    @peDequeue_eq fresh pe₁ (rbUsed pe₁.rb + 1) hwf₁
  have hused : rbUsed pe₁.rb = (pe.queue.bytes ++ payload pkt).length := by
    rw [rbUsed, ← pe₁.rb.length_contents]
    exact congrArg (fun q : PesQueue => q.bytes.length) hqueue₁
  rw [hqueue₁, hused] at hdequeue hqueue₂
  refine ⟨next, ?_, hwf₂, hpid₂.trans hpid₁, hqueue₂⟩
  rw [peProcessPacket, happend, pure_bind]
  dsimp only
  rw [if_pos rfl, hused]
  exact hdequeue

/-- A push of packets on the PID puts out what a scan of their payloads finds. -/
lemma pePush_scan {pkts : List TsPacket} (h : pe.Holds pid q) (hidle : q.Idle)
    (hqueue : q.bytes.length < maxPesSize)
    (hpkts : ∀ pkt ∈ pkts, packetPid pkt = pid ∧ AdaptationFits pkt)
    (hsmall : Runs.Meets (peProcessPacket fresh) PesExtractor.StaysSmall pe pkts)
    (hkeeps : Runs.Meets (peProcessPacket fresh) PesExtractor.KeepsHeaders pe pkts) :
    ∃ msgs next q', pePush fresh pe pkts = pure (msgs, next) ∧ next.Holds pid q' ∧
      pesScan (q.unread ++ pkts.flatMap payload) = msgs ++ pesScan q'.unread ∧ q'.Idle ∧
      q'.bytes.length < maxPesSize ∧ q'.bytes <:+ q.bytes ++ pkts.flatMap payload := by
  induction pkts generalizing pe q with
  | nil =>
    refine ⟨[], pe, q, rfl, h, ?_, hidle, hqueue, ?_⟩
    · rw [List.flatMap_nil, List.append_nil, List.nil_append]
    · rw [List.flatMap_nil, List.append_nil]
  | cons pkt pkts ih =>
    obtain ⟨⟨hpid, hfits⟩, hrest⟩ := List.forall_mem_cons.mp hpkts
    obtain ⟨hsmall, hsmalls⟩ := hsmall
    obtain ⟨hkeep, hkeeps⟩ := hkeeps
    obtain ⟨pe₁, hstep, hholds⟩ := @peProcessPacket_eq fresh pid pe q h pkt hfits hsmall
    rw [hstep] at hsmalls hkeeps
    -- what the step does to the queue
    have hkeepq : q.Keeps (payload pkt) := h.queue ▸ hkeep
    have hfill : (q.bytes ++ payload pkt).length < maxPesSize := by
      have hlen : q.bytes.length = pe.rb.fill := by rw [← h.queue]; exact pe.rb.length_contents
      rw [List.length_append, hlen]
      exact hsmall
    obtain ⟨hsuffix, hidle₁⟩ := @PesQueue.dequeue_bytes ⟨q.hasSync, q.bytes ++ payload pkt⟩
      ((q.bytes ++ payload pkt).length + 1) (Nat.lt_succ_self _)
    have hscan := PesQueue.pesScan_dequeue hkeepq (pkts.flatMap payload)
    obtain ⟨msgs, next, q', hpush, hholds', hmsgs, hidle', hlen', hsuffix'⟩ :=
      ih hholds hidle₁ (hsuffix.length_le.trans_lt hfill) hrest hsmalls hkeeps
    refine ⟨(q.process (payload pkt)).1 ++ msgs, next, q', ?_, hholds', ?_, hidle', hlen', ?_⟩
    · rw [pePush, if_pos (hpid.trans h.pid.symm), hstep, pure_bind]
      dsimp only
      rw [hpush, pure_bind]
    · have hunread : (⟨q.hasSync, q.bytes ++ payload pkt⟩ : PesQueue).unread =
          q.unread ++ payload pkt := (List.append_assoc _ _ _).symm
      rw [hunread] at hscan
      rw [List.flatMap_cons, ← List.append_assoc, hscan, List.append_assoc]
      exact congrArg _ hmsgs
    · rw [List.flatMap_cons, ← List.append_assoc]
      exact hsuffix'.trans (List.suffix_append_self_iff.mpr hsuffix)

end Run

/-! ### Ways to cut a stream -/

/-- Calls of `pe_push` one after the other. -/
def pePushes (fresh : ℕ → Byte) : PesExtractor → List (List TsPacket) →
    Checked Fault (List (List Byte) × PesExtractor)
  | pe, [] => pure ([], pe)
  | pe, pkts :: batches => do
    let (msgs, pe) ← pePush fresh pe pkts
    let (rest, pe) ← pePushes fresh pe batches
    pure (msgs ++ rest, pe)

/-- Batches of transport packets on a PID whose payloads are together the bytes `stream`. -/
structure PesCut (pid : Word) (stream : List Byte) where
  batches : List (List TsPacket)
  onPid : ∀ pkt ∈ batches.flatten, packetPid pkt = pid ∧ AdaptationFits pkt
  payloads : batches.flatten.flatMap payload = stream

/-- A push of packets is a push of the first ones and of the others. -/
lemma pePush_append (fresh : ℕ → Byte) (pe : PesExtractor) (pkts pkts' : List TsPacket) :
    pePush fresh pe (pkts ++ pkts') =
      (do
        let (msgs, pe) ← pePush fresh pe pkts
        let (rest, pe) ← pePush fresh pe pkts'
        pure (msgs ++ rest, pe)) := by
  induction pkts generalizing pe with
  | nil =>
    rw [List.nil_append, pePush, pure_bind]
    simp
  | cons pkt pkts ih =>
    rw [List.cons_append, pePush, pePush]
    simp only [ih, bind_assoc, pure_bind, List.append_assoc]

/-- It does not matter in which batches packets are pushed. -/
lemma pePushes_eq (fresh : ℕ → Byte) (pe : PesExtractor) (batches : List (List TsPacket)) :
    pePushes fresh pe batches = pePush fresh pe batches.flatten := by
  induction batches generalizing pe with
  | nil => rfl
  | cons pkts batches ih =>
    rw [pePushes, List.flatten_cons, pePush_append]
    simp only [ih]

/-- What a new extractor puts out for a stream that ends with stuffing. -/
lemma pePushes_scan {fresh : ℕ → Byte} {pid : Word} {pe : PesExtractor}
    (hnew : peAlloc fresh pid = some pe) {stream : List Byte} {count : ℕ}
    (hcount : maxPesSize ≤ count) (cut : PesCut pid (stream ++ List.replicate count 0xff))
    (hsmall : Runs.Meets (peProcessPacket fresh) PesExtractor.StaysSmall pe cut.batches.flatten)
    (hkeeps : Runs.Meets (peProcessPacket fresh) PesExtractor.KeepsHeaders pe
      cut.batches.flatten) :
    (pePushes fresh pe cut.batches).Safe ∧
      (pePushes fresh pe cut.batches).val.1 = pesScan (stream ++ List.replicate count 0xff) := by
  obtain ⟨msgs, next, q, hpush, -, hscan, hidle, hlen, hsuffix⟩ :=
    pePush_scan (peAlloc_holds hnew) (fun hsync => absurd hsync Bool.false_ne_true)
      (by norm_num [maxPesSize]) cut.onPid hsmall hkeeps
  rw [cut.payloads] at hscan hsuffix
  -- what is left at the end is stuffing
  have hstuffing : ∀ b ∈ q.bytes, b = 0xff := by
    have hend : List.replicate count (0xff : Byte) <:+ stream ++ List.replicate count 0xff :=
      List.suffix_append _ _
    have hbytes : q.bytes <:+ List.replicate count 0xff := by
      refine List.suffix_of_suffix_length_le hsuffix hend ?_
      rw [List.length_replicate]
      exact hlen.le.trans hcount
    intro b hb
    exact List.eq_of_mem_replicate (hbytes.subset hb)
  rw [pePushes_eq, hpush]
  refine ⟨Checked.safe_pure _, ?_⟩
  rw [PesQueue.pesScan_unread_of_idle hidle hstuffing, List.append_nil] at hscan
  exact hscan.symm

/-- As long as the buffer stays small and no resynchronisation loses a header, any two cuts of a
stream that ends with stuffing make the callback get the same PES packets, those that one scan
finds. -/
theorem pePush_scans {fresh : ℕ → Byte} {pid : Word} {pe : PesExtractor}
    (hnew : peAlloc fresh pid = some pe) {stream : List Byte} {count : ℕ}
    (hcount : maxPesSize ≤ count) (cut cut' : PesCut pid (stream ++ List.replicate count 0xff))
    (hsmall : Runs.Meets (peProcessPacket fresh) PesExtractor.StaysSmall pe cut.batches.flatten)
    (hsmall' : Runs.Meets (peProcessPacket fresh) PesExtractor.StaysSmall pe cut'.batches.flatten)
    (hkeeps : Runs.Meets (peProcessPacket fresh) PesExtractor.KeepsHeaders pe cut.batches.flatten)
    (hkeeps' : Runs.Meets (peProcessPacket fresh) PesExtractor.KeepsHeaders pe
      cut'.batches.flatten) :
    (pePushes fresh pe cut.batches).Safe ∧ (pePushes fresh pe cut'.batches).Safe ∧
      (pePushes fresh pe cut.batches).val.1 = (pePushes fresh pe cut'.batches).val.1 ∧
      (pePushes fresh pe cut.batches).val.1 = pesScan (stream ++ List.replicate count 0xff) := by
  obtain ⟨hsafe, hscan⟩ := pePushes_scan hnew hcount cut hsmall hkeeps
  obtain ⟨hsafe', hscan'⟩ := pePushes_scan hnew hcount cut' hsmall' hkeeps'
  exact ⟨hsafe, hsafe', hscan.trans hscan'.symm, hscan⟩

/-! ### A header that is lost -/

/-- A packet on PID 100 with an adaptation field in front of a payload. -/
def tsPacketOf (bs : List Byte) : TsPacket :=
  zeroPad 188 (([0x47, 0, 100, 0x30, BitVec.ofNat 8 (183 - bs.length)] ++
    List.replicate (183 - bs.length) 0xff) ++ bs)

lemma payloadOffset_tsPacketOf {bs : List Byte} (h : bs.length ≤ 183) :
    payloadOffset (tsPacketOf bs) = 188 - bs.length := by
  have hfield : (BitVec.ofNat 8 (183 - bs.length)).toNat = 183 - bs.length := by
    rw [BitVec.toNat_ofNat, Nat.mod_eq_of_lt (by omega)]
  have hadaption : adaption (tsPacketOf bs) = 3 := by simp [adaption, tsPacketOf, zeroPad]
  have hlength : adaptationFieldLength (tsPacketOf bs) = 183 - bs.length := by
    rw [← hfield]
    simp [adaptationFieldLength, tsPacketOf, zeroPad]
  rw [payloadOffset, if_pos (Or.inr hadaption), if_pos rfl, hlength]
  omega

lemma tsPacketOf_onPid {bs : List Byte} (h : bs.length ≤ 183) :
    packetPid (tsPacketOf bs) = 100 ∧ AdaptationFits (tsPacketOf bs) := by
  refine ⟨by simp [packetPid, tsPacketOf, zeroPad], payloadOffset_le_iff.mp ?_⟩
  rw [payloadOffset_tsPacketOf h, packetSize]
  exact Nat.sub_le _ _

lemma payload_tsPacketOf {bs : List Byte} (h : bs.length ≤ 183) : payload (tsPacketOf bs) = bs := by
  have hfield : (([0x47, 0, 100, 0x30, BitVec.ofNat 8 (183 - bs.length)] : List Byte) ++
      List.replicate (183 - bs.length) 0xff).length = 188 - bs.length := by
    rw [List.length_append, List.length_replicate]
    change 5 + (183 - bs.length) = _
    omega
  have hall : ((([0x47, 0, 100, 0x30, BitVec.ofNat 8 (183 - bs.length)] : List Byte) ++
      List.replicate (183 - bs.length) 0xff) ++ bs).length = 188 := by
    rw [List.length_append, hfield]
    omega
  rw [payload, payloadOffset_tsPacketOf h, tsPacketOf, zeroPad_toList hall.le, hall, Nat.sub_self,
    List.replicate_zero, List.append_nil, ← hfield, List.drop_left]

namespace PesQueue

variable {q : PesQueue}

/-- A payload as a step of the queue. -/
def step (q : PesQueue) (payload : List Byte) : Checked Fault (List (List Byte) × PesQueue) :=
  pure (q.process payload)

/-- The payload leaves less in the queue than the initial size of the ring buffer. -/
def StaysSmall (q : PesQueue) (payload : List Byte) : Prop :=
  q.bytes.length + payload.length < maxPesSize

instance (q : PesQueue) : DecidablePred q.StaysSmall := fun _ => Nat.decLt _ _

/-- A queue without the last byte of the header. -/
structure Quiet (q : PesQueue) : Prop where
  hasSync : q.hasSync = false
  bytes : 0xbd ∉ q.bytes

lemma Quiet.not_begins (h : q.Quiet) (j : ℕ) : ¬pesHdr <+: q.bytes.drop j := fun hbegins =>
  h.bytes (List.mem_of_mem_drop (hbegins.subset (by simp [pesHdr])))

lemma Quiet.keepsHdr (h : q.Quiet) : q.KeepsHdr := fun _ _ j _ hbegins =>
  absurd hbegins (h.not_begins j)

/-- A round on a quiet queue puts nothing out. -/
lemma Quiet.round (h : q.Quiet) :
    q.round.1 = none ∧ q.round.2.Quiet ∧
      (q.round.2.bytes.length ≤ 16 ∨ q.round.2.bytes.length < q.bytes.length) := by
  have hnone : firstHdr q.bytes 0 (places q.bytes.length) = none := by
    rw [firstHdr, List.find?_eq_none]
    exact fun j _ hbegins => h.not_begins j (List.isPrefixOf_iff_prefix.mp hbegins)
  have hresync : q.resync.Quiet ∧
      (q.resync.bytes.length ≤ 16 ∨ q.resync.bytes.length < q.bytes.length) := by
    by_cases hlooks : (!q.hasSync) = true ∧ 16 < q.bytes.length
    · rw [resync_of_looks hlooks, hnone]
      refine ⟨⟨rfl, fun hmem => h.bytes (List.mem_of_mem_drop hmem)⟩, Or.inr ?_⟩
      have hlen := hlooks.2
      rw [List.length_drop]
      omega
    · rw [resync_of_not_looks hlooks]
      refine ⟨h, Or.inl (not_lt.mp fun hlen => hlooks ⟨?_, hlen⟩)⟩
      rw [h.hasSync]
      rfl
  have hsync : ¬(q.resync.hasSync = true ∧ Complete q.resync.bytes) := fun hand =>
    Bool.false_ne_true (hresync.1.hasSync.symm.trans hand.1)
  rw [PesQueue.round, if_neg hsync]
  exact ⟨rfl, hresync⟩

/-- Stuffing on a quiet queue. -/
lemma Quiet.process (h : q.Quiet) (hlen : q.bytes.length ≤ 200) :
    q.Keeps [0xff] ∧ (q.process [0xff]).1 = [] ∧ (q.process [0xff]).2.Quiet ∧
      (q.process [0xff]).2.bytes.length ≤ 200 := by
  have hquiet : (⟨q.hasSync, q.bytes ++ [0xff]⟩ : PesQueue).Quiet := by
    refine ⟨h.hasSync, fun hmem => ?_⟩
    rcases List.mem_append.mp hmem with hmem | hmem
    · exact h.bytes hmem
    · exact absurd (List.mem_singleton.mp hmem) (by decide)
  obtain ⟨hnone, hnext, hless⟩ := hquiet.round
  have hlen' : (q.bytes ++ [0xff]).length ≤ 201 := by
    rw [List.length_append]
    exact Nat.succ_le_succ hlen
  rw [Keeps, KeepsAll, PesQueue.process, dequeue]
  rcases hround : (⟨q.hasSync, q.bytes ++ [0xff]⟩ : PesQueue).round with ⟨msg, next⟩
  rw [hround] at hnone hnext hless
  subst hnone
  refine ⟨⟨hquiet.keepsHdr, fun hsome => absurd hsome Bool.false_ne_true⟩, rfl, hnext, ?_⟩
  rcases hless with hsmall | hless
  · exact hsmall.trans (by norm_num)
  · exact Nat.le_of_lt_succ (hless.trans_le hlen')

/-- Any amount of stuffing on a quiet queue. -/
lemma Quiet.run (h : q.Quiet) (hlen : q.bytes.length ≤ 200) (count : ℕ) :
    Runs.Meets step StaysSmall q (List.replicate count [0xff]) ∧
      Runs.Meets step Keeps q (List.replicate count [0xff]) ∧
      (Runs.run step q (List.replicate count [0xff])).1.flatten = [] := by
  induction count generalizing q with
  | zero => exact ⟨trivial, trivial, rfl⟩
  | succ count ih =>
    obtain ⟨hkeeps, hnil, hquiet, hlen'⟩ := h.process hlen
    obtain ⟨hsmall, hkeeps', hrun⟩ := ih hquiet hlen'
    refine ⟨⟨?_, hsmall⟩, ⟨hkeeps, hkeeps'⟩, ?_⟩
    · refine lt_of_le_of_lt (Nat.add_le_add_right hlen _) ?_
      norm_num [maxPesSize]
    · rw [List.replicate_succ, Runs.run, List.flatten_cons]
      exact List.append_eq_nil_iff.mpr ⟨hnil, hrun⟩

end PesQueue

section Pieces

variable {fresh : ℕ → Byte} {pe : PesExtractor} {q : PesQueue} {pieces : List (List Byte)}

/-- Packets with the pieces of a stream act on the queue. -/
lemma pePush_pieces (h : pe.Holds 100 q) (hlen : ∀ piece ∈ pieces, piece.length ≤ 183)
    (hsmall : Runs.Meets PesQueue.step PesQueue.StaysSmall q pieces) :
    Runs.Meets (peProcessPacket fresh) PesExtractor.StaysSmall pe (pieces.map tsPacketOf) ∧
      (Runs.Meets PesQueue.step PesQueue.Keeps q pieces →
        Runs.Meets (peProcessPacket fresh) PesExtractor.KeepsHeaders pe (pieces.map tsPacketOf)) ∧
      (pePush fresh pe (pieces.map tsPacketOf)).val.1 =
        (Runs.run PesQueue.step q pieces).1.flatten := by
  induction pieces generalizing pe q with
  | nil => exact ⟨trivial, fun _ => trivial, rfl⟩
  | cons piece pieces ih =>
    obtain ⟨hpiece, hrest⟩ := List.forall_mem_cons.mp hlen
    obtain ⟨hpid, hfits⟩ := tsPacketOf_onPid hpiece
    obtain ⟨hfirst, hsmall⟩ := hsmall
    have hpayload := payload_tsPacketOf hpiece
    have hfill : pe.rb.fill = q.bytes.length := by rw [← h.queue]; exact pe.rb.length_contents.symm
    have hfirst' : pe.StaysSmall (tsPacketOf piece) := by
      rw [PesExtractor.StaysSmall, hpayload, hfill]
      exact hfirst
    obtain ⟨next, hstep, hholds⟩ := @peProcessPacket_eq fresh 100 pe q h _ hfits hfirst'
    rw [hpayload] at hstep hholds
    obtain ⟨hsmalls, hkeeps, hpush⟩ := ih hholds hrest hsmall
    rw [List.map_cons]
    refine ⟨⟨hfirst', by rwa [hstep]⟩, fun hkeep => ⟨?_, ?_⟩, ?_⟩
    · rw [PesExtractor.KeepsHeaders, hpayload, h.queue]
      exact hkeep.1
    · rw [hstep]
      exact hkeeps hkeep.2
    · rw [pePush, if_pos (hpid.trans h.pid.symm), hstep, pure_bind]
      exact congrArg _ hpush

lemma flatMap_payload_map (hlen : ∀ piece ∈ pieces, piece.length ≤ 183) :
    (pieces.map tsPacketOf).flatMap payload = pieces.flatten := by
  rw [List.flatMap_map, ← List.flatMap_id]
  exact List.flatMap_congr fun piece hpiece => payload_tsPacketOf (hlen piece hpiece)

/-- The pieces and the stuffing fit into packets. -/
lemma length_pieces_le (hlen : ∀ piece ∈ pieces, piece.length ≤ 183) (count : ℕ) :
    ∀ piece ∈ pieces ++ List.replicate count [0xff], piece.length ≤ 183 := by
  intro piece hmem
  rcases List.mem_append.mp hmem with hmem | hmem
  · exact hlen piece hmem
  · rw [List.eq_of_mem_replicate hmem]
    norm_num

lemma onPid_pieces (hlen : ∀ piece ∈ pieces, piece.length ≤ 183) :
    ∀ pkt ∈ pieces.map tsPacketOf, packetPid pkt = 100 ∧ AdaptationFits pkt := by
  intro pkt hmem
  obtain ⟨piece, hpiece, rfl⟩ := List.mem_map.mp hmem
  exact tsPacketOf_onPid (hlen piece hpiece)

end Pieces

/-- Pieces of a stream and then stuffing, every piece in a packet. -/
def cutOf (pieces : List (List Byte)) (count : ℕ) (hlen : ∀ piece ∈ pieces, piece.length ≤ 183) :
    PesCut 100 (pieces.flatten ++ List.replicate count 0xff) where
  batches := [(pieces ++ List.replicate count [0xff]).map tsPacketOf]
  onPid := by
    rw [List.flatten_singleton]
    exact onPid_pieces (length_pieces_le hlen count)
  payloads := by
    rw [List.flatten_singleton, flatMap_payload_map (length_pieces_le hlen count),
      List.flatten_append, List.flatten_replicate_singleton]

/-- What comes out for pieces that leave a quiet queue. -/
lemma cutOf_run {fresh : ℕ → Byte} {pe : PesExtractor} (hnew : peAlloc fresh 100 = some pe)
    {pieces : List (List Byte)} (hlen : ∀ piece ∈ pieces, piece.length ≤ 183)
    (hsmall : Runs.Meets PesQueue.step PesQueue.StaysSmall ⟨false, []⟩ pieces)
    (hquiet : (Runs.run PesQueue.step ⟨false, []⟩ pieces).2.Quiet)
    (hbytes : (Runs.run PesQueue.step ⟨false, []⟩ pieces).2.bytes.length ≤ 200) (count : ℕ) :
    Runs.Meets (peProcessPacket fresh) PesExtractor.StaysSmall pe
        (cutOf pieces count hlen).batches.flatten ∧
      (Runs.Meets PesQueue.step PesQueue.Keeps ⟨false, []⟩ pieces →
        Runs.Meets (peProcessPacket fresh) PesExtractor.KeepsHeaders pe
          (cutOf pieces count hlen).batches.flatten) ∧
      (pePushes fresh pe (cutOf pieces count hlen).batches).val.1 =
        (Runs.run PesQueue.step ⟨false, []⟩ pieces).1.flatten := by
  obtain ⟨hsmall', hkeeps', hnil⟩ := hquiet.run hbytes count
  obtain ⟨hsmalls, hkeeps, hpush⟩ := @pePush_pieces fresh pe _ _ (peAlloc_holds hnew)
    (length_pieces_le hlen count) (Runs.meets_append.mpr ⟨hsmall, hsmall'⟩)
  have hbatches : (cutOf pieces count hlen).batches.flatten =
      (pieces ++ List.replicate count [0xff]).map tsPacketOf := List.flatten_singleton
  rw [pePushes_eq, hbatches]
  refine ⟨hsmalls, fun hkeep => hkeeps (Runs.meets_append.mpr ⟨hkeep, hkeeps'⟩), ?_⟩
  rw [hpush, Runs.run_append_fst, List.flatten_append, hnil, List.append_nil]

/-- A PES packet without data behind seven bytes of stuffing, in two cuts that both find it. -/
theorem pePush_scans_found :
    ∃ pe, peAlloc (fun _ => 0) 100 = some pe ∧
      ∃ cut cut' : PesCut 100 ([255, 255, 255, 255, 255, 255, 255, 0, 0, 1, 0xbd, 0, 0, 255, 255,
          255, 255, 255, 255] ++ List.replicate maxPesSize 0xff),
        (pePushes (fun _ => 0) pe cut.batches).val.1 =
            (pePushes (fun _ => 0) pe cut'.batches).val.1 ∧
          (pePushes (fun _ => 0) pe cut.batches).val.1 =
            pesScan ([255, 255, 255, 255, 255, 255, 255, 0, 0, 1, 0xbd, 0, 0, 255, 255,
              255, 255, 255, 255] ++ List.replicate maxPesSize 0xff) := by
  have hrun := fun pieces hlen => @cutOf_run (fun _ => 0) _ rfl pieces hlen
  obtain ⟨hsmall, hkeeps, -⟩ := hrun [[255, 255, 255, 255, 255, 255, 255, 0, 0, 1, 0xbd, 0, 0, 255,
    255, 255, 255, 255, 255]] (by decide) (by decide) ⟨by decide, by decide⟩ (by decide) maxPesSize
  obtain ⟨hsmall', hkeeps', -⟩ := hrun [[255, 255, 255, 255, 255, 255, 255, 0, 0, 1], [0xbd, 0, 0,
    255, 255, 255, 255, 255, 255]] (by decide) (by decide) ⟨by decide, by decide⟩ (by decide)
    maxPesSize
  have hscans := @pePush_scans (fun _ => 0) 100 _ rfl _ maxPesSize le_rfl _ _ hsmall hsmall'
    (hkeeps (by decide)) (hkeeps' (by decide))
  exact ⟨_, rfl, _, _, hscans.2.2⟩

/-- The same stream, cut behind the first 17 bytes: a resynchronisation that looks at the first
seven of them takes the header with the next four, and the PES packet does not come out. -/
theorem not_pePush_scans :
    ∃ pe, peAlloc (fun _ => 0) 100 = some pe ∧
      ∀ count, ∃ cut cut' : PesCut 100
        ([255, 255, 255, 255, 255, 255, 255, 0, 0, 1, 0xbd, 0, 0, 255, 255, 255, 255, 255,
          255] ++ List.replicate count 0xff),
        Runs.Meets (peProcessPacket fun _ => 0) PesExtractor.StaysSmall pe cut.batches.flatten ∧
          Runs.Meets (peProcessPacket fun _ => 0) PesExtractor.StaysSmall pe cut'.batches.flatten ∧
          (pePushes (fun _ => 0) pe cut.batches).val.1 = [[0, 0, 1, 0xbd, 0, 0]] ∧
          (pePushes (fun _ => 0) pe cut'.batches).val.1 = [] := by
  refine ⟨_, rfl, fun count => ?_⟩
  have hrun := fun pieces hlen => @cutOf_run (fun _ => 0) _ rfl pieces hlen
  obtain ⟨hsmall, -, hmsgs⟩ := hrun [[255, 255, 255, 255, 255, 255, 255, 0, 0, 1, 0xbd, 0, 0, 255,
    255, 255, 255, 255, 255]] (by decide) (by decide) ⟨by decide, by decide⟩ (by decide) count
  obtain ⟨hsmall', -, hmsgs'⟩ := hrun [[255, 255, 255, 255, 255, 255, 255, 0, 0, 1, 0xbd, 0, 0, 255,
    255, 255, 255], [255, 255]] (by decide) (by decide) ⟨by decide, by decide⟩ (by decide) count
  exact ⟨_, _, hsmall, hsmall', hmsgs.trans (by decide), hmsgs'.trans (by decide)⟩

end Libklvanc
