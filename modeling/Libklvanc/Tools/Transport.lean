import Libklvanc.Tools.PesScan
import Libklvanc.Tools.TsPacketizer

/-!
# From the packetizer to the extractor

`ts_packetizer` fills the last packet of a section with stuffing, of which the extractor takes some
bytes before it waits for the next packet: at most 89 are left in front of the next section
(`PesQueue.Stuffed`). Its header is then among the bytes that the resynchronisation looks at, so
that none is lost: the callback gets the sections, in their order, whatever else is multiplexed with
them and however the packets are pushed (`pePushes_tsPacketizeSections`).
-/

namespace Libklvanc

/-- A PES packet with its length in the header, in at most 89 packets: as many as the ring buffer
holds without growing. -/
structure IsPesSection (bytes : List Byte) : Prop where
  begins : pesHdr <+: bytes
  size : pesSize bytes = bytes.length
  small : bytes.length ≤ 89 * tsPayloadMax

namespace PesQueue

variable {q : PesQueue} {bytes : List Byte}

/-- Nothing but stuffing is left of what came before. -/
structure Stuffed (q : PesQueue) : Prop where
  hasSync : q.hasSync = false
  bytes : ∃ r ≤ 89, q.bytes = List.replicate r 0xff

lemma stuffed_nil : Stuffed ⟨false, []⟩ := ⟨rfl, 0, Nat.zero_le _, rfl⟩

/-- Stuffing holds no header. -/
lemma not_begins_replicate (r j : ℕ) (rest : List Byte) (hj : j < r) :
    ¬pesHdr <+: (List.replicate r 0xff ++ rest).drop j := by
  intro hbegins
  rw [List.drop_append_of_le_length (by rw [List.length_replicate]; exact hj.le),
    List.drop_replicate] at hbegins
  obtain ⟨n, hn⟩ := Nat.exists_eq_succ_of_ne_zero (Nat.sub_ne_zero_of_lt hj)
  rw [hn, List.replicate_succ, List.cons_append, pesHdr, List.cons_prefix_cons] at hbegins
  exact absurd hbegins.1 (by decide)

/-- The first place with the header. -/
lemma firstHdr_of_first {i k : ℕ} (hi : i < k) (hbegins : pesHdr <+: bytes.drop i)
    (hbefore : ∀ j < i, ¬pesHdr <+: bytes.drop j) : firstHdr bytes 0 k = some i := by
  rw [firstHdr, List.find?_range'_eq_some]
  refine ⟨List.isPrefixOf_iff_prefix.mpr hbegins, ?_, fun j _ hj => ?_⟩
  · rw [List.mem_range'_1, Nat.zero_add]
    exact ⟨Nat.zero_le i, hi⟩
  · rw [Bool.not_eq_true', Bool.eq_false_iff]
    exact fun hprefix => hbefore j hj (List.isPrefixOf_iff_prefix.mp hprefix)

/-- The resynchronisation finds a header that comes with the next packet behind stuffing. -/
lemma Stuffed.resync (h : q.Stuffed) {payload : List Byte} (hbegins : pesHdr <+: payload)
    (hlen : payload.length = tsPayloadMax) :
    (⟨q.hasSync, q.bytes ++ payload⟩ : PesQueue).resync =
      ⟨true, payload.drop pesHdr.length⟩ := by
  have hmax : tsPayloadMax = 184 := rfl
  obtain ⟨r, hr, hbytes⟩ := h.bytes
  have hall : (q.bytes ++ payload).length = r + 184 := by
    rw [hbytes, List.length_append, List.length_replicate, hlen, hmax]
  have hlooks : (!(⟨q.hasSync, q.bytes ++ payload⟩ : PesQueue).hasSync) = true ∧
      16 < (⟨q.hasSync, q.bytes ++ payload⟩ : PesQueue).bytes.length := by
    dsimp only
    rw [h.hasSync, hall]
    exact ⟨rfl, by omega⟩
  have hdrop : (q.bytes ++ payload).drop r = payload := by
    rw [hbytes]
    exact List.drop_left' List.length_replicate
  have hfirst : firstHdr (q.bytes ++ payload) 0 (places (q.bytes ++ payload).length) = some r := by
    refine firstHdr_of_first ?_ (hdrop.symm ▸ hbegins) fun j hj => ?_
    · rw [hall, places]
      omega
    · rw [hbytes]
      exact not_begins_replicate r j payload hj
  rw [resync_of_looks hlooks, hfirst, Option.isSome_some, Option.getD_some, ← List.drop_drop, hdrop]
  rfl

/-- With the header taken there is nothing to look for. -/
lemma resync_of_hasSync (h : q.hasSync = true) : q.resync = q :=
  resync_of_not_looks fun hlooks => by rw [h] at hlooks; exact Bool.false_ne_true hlooks.1

/-- The loop begins with a resynchronisation. -/
lemma dequeue_resync (h : q.resync.hasSync = true) (fuel : ℕ) :
    dequeue (fuel + 1) q = dequeue (fuel + 1) q.resync := by
  have hround : q.resync.round = q.round := by rw [round, round, resync_of_hasSync h]
  rw [dequeue, dequeue, hround]

/-- The loop ends with a PES packet that is not complete. -/
lemma dequeue_of_incomplete (hincomplete : ¬Complete bytes) (fuel : ℕ) :
    dequeue (fuel + 1) ⟨true, bytes⟩ = ([], ⟨true, bytes⟩) := by
  have hround : (⟨true, bytes⟩ : PesQueue).round = (none, ⟨true, bytes⟩) := by
    rw [round, resync_of_hasSync rfl]
    exact if_neg fun hand => hincomplete hand.2
  rw [dequeue, hround]

/-- The loop takes a part of the stuffing that is left, and ends. -/
lemma dequeue_stuffing {r : ℕ} (hr : r ≤ 183) (fuel : ℕ) :
    ∃ next, dequeue (fuel + 1) ⟨false, List.replicate r 0xff⟩ = ([], next) ∧ next.Stuffed := by
  have hquiet : Quiet ⟨false, List.replicate r 0xff⟩ :=
    ⟨rfl, fun hmem => absurd (List.eq_of_mem_replicate hmem) (by decide)⟩
  have hround := hquiet.round.1
  have hnext : (⟨false, List.replicate r 0xff⟩ : PesQueue).round.2.Stuffed := by
    have hnone : firstHdr (List.replicate r 0xff) 0
        (places (List.replicate r (0xff : Byte)).length) =
        none := by
      rw [firstHdr, List.find?_eq_none]
      exact fun j _ hj => hquiet.not_begins j (List.isPrefixOf_iff_prefix.mp hj)
    have hresync : (⟨false, List.replicate r 0xff⟩ : PesQueue).resync.Stuffed := by
      by_cases hlooks : 16 < r
      · rw [resync_of_looks ⟨rfl, by rwa [List.length_replicate]⟩, hnone, Option.isSome_none,
          Option.getD_none, List.length_replicate, List.drop_replicate]
        refine ⟨rfl, _, ?_, rfl⟩
        rw [places]
        omega
      · rw [resync_of_not_looks fun h => hlooks (by simpa using h.2)]
        exact ⟨rfl, r, by omega, rfl⟩
    rw [round, if_neg fun h => Bool.false_ne_true (hresync.hasSync.symm.trans h.1)]
    exact hresync
  rw [dequeue]
  rcases hresult : (⟨false, List.replicate r 0xff⟩ : PesQueue).round with ⟨msg, next⟩
  rw [hresult] at hround hnext
  subst hround
  exact ⟨next, rfl, hnext⟩

end PesQueue

/-! ### The packets of one section -/

/-- What the first `k` packets of a section carry. -/
def tsCarried (bytes : List Byte) (k : ℕ) : List Byte :=
  bytes.take (k * tsPayloadMax) ++ List.replicate (k * tsPayloadMax - bytes.length) 0xff

/-- What packet `k` of a section carries. -/
def tsCarries (bytes : List Byte) (k : ℕ) : List Byte :=
  tsPiece bytes k ++ List.replicate (tsPayloadMax - (tsPiece bytes k).length) 0xff

section Section

variable {bytes : List Byte} {k : ℕ}

lemma length_tsCarried : (tsCarried bytes k).length = k * tsPayloadMax := by
  rw [tsCarried, List.length_append, List.length_take, List.length_replicate]
  omega

lemma length_tsCarries : (tsCarries bytes k).length = tsPayloadMax := by
  have hle := @length_tsPiece_le bytes k
  rw [tsCarries, List.length_append, List.length_replicate]
  omega

lemma tsCarried_succ (hk : k < tsCount bytes.length) :
    tsCarried bytes (k + 1) = tsCarried bytes k ++ tsCarries bytes k := by
  rw [tsCarried, tsCarried, ← flatMap_tsPiece bytes hk, ← flatMap_tsPiece bytes hk.le,
    List.range_succ, List.flatMap_append, List.flatMap_singleton, tsCarries]

/-- A section has more than its header. -/
lemma IsPesSection.six_le (h : IsPesSection bytes) : 6 ≤ bytes.length := by
  rw [← h.size, pesSize]
  exact Nat.le_add_right 6 _

/-- The length of a PES packet is among its first six bytes. -/
lemma pesLength_drop_congr {l l' : List Byte} (h : l.take 6 = l'.take 6) :
    pesLength (l.drop pesHdr.length) = pesLength (l'.drop pesHdr.length) := by
  have hfront (l : List Byte) : (l.drop pesHdr.length).take 2 = (l.take 6).drop pesHdr.length := by
    rw [List.drop_take]
    rfl
  rw [← pesLength_take, hfront, h, ← hfront, pesLength_take]

/-- What has come begins as the section does. -/
lemma tsCarried_take (hlen : 6 ≤ bytes.length) (hpos : 0 < k) :
    (tsCarried bytes k).take 6 = bytes.take 6 := by
  have hle : 6 ≤ k * tsPayloadMax :=
    (show 6 ≤ tsPayloadMax by decide).trans (Nat.le_mul_of_pos_left _ hpos)
  have hshort : 6 ≤ (bytes.take (k * tsPayloadMax)).length := by
    rw [List.length_take]
    exact le_min hle hlen
  rw [tsCarried, List.take_append_of_le_length hshort, List.take_take, min_eq_left hle]

/-- The length that has come is that of the section. -/
lemma IsPesSection.pesLength_tsCarried (h : IsPesSection bytes) (hpos : 0 < k) :
    pesLength ((tsCarried bytes k).drop pesHdr.length) + 2 = bytes.length - pesHdr.length := by
  have hsize := h.size
  rw [pesLength_drop_congr (tsCarried_take h.six_le hpos)]
  rw [pesSize] at hsize
  omega

/-- The PES packet is complete with the last packet. -/
lemma IsPesSection.complete_iff (h : IsPesSection bytes) (hpos : 0 < k) :
    PesQueue.Complete ((tsCarried bytes k).drop pesHdr.length) ↔ tsCount bytes.length ≤ k := by
  have hmax : tsPayloadMax = 184 := rfl
  have hhdr : pesHdr.length = 4 := rfl
  have hcount := @lt_tsCount_iff k bytes.length
  have hsix := h.six_le
  rw [PesQueue.Complete, h.pesLength_tsCarried hpos, List.length_drop, length_tsCarried]
  omega

/-- The loop with the last packet of a section puts the section out. -/
lemma IsPesSection.dequeue_last (h : IsPesSection bytes) (fuel : ℕ) :
    ∃ next, PesQueue.dequeue (fuel + 2)
        ⟨true, (tsCarried bytes (tsCount bytes.length)).drop pesHdr.length⟩ = ([bytes], next) ∧
      next.Stuffed := by
  have hmax : tsPayloadMax = 184 := rfl
  have hsix := h.six_le
  have hcount := le_tsCount_mul bytes.length
  have hpos : 0 < tsCount bytes.length := lt_tsCount_iff.mpr (by omega)
  have hlast : (tsCount bytes.length - 1) * tsPayloadMax < bytes.length :=
    lt_tsCount_iff.mp (Nat.sub_lt hpos Nat.one_pos)
  have hcarried : (tsCarried bytes (tsCount bytes.length)).drop pesHdr.length =
      bytes.drop pesHdr.length ++
        List.replicate (tsCount bytes.length * tsPayloadMax - bytes.length) 0xff := by
    rw [tsCarried, List.take_of_length_le hcount, List.drop_append_of_le_length]
    exact (show 4 ≤ 6 by norm_num).trans hsix
  have hbody : (bytes.drop pesHdr.length).length =
      pesLength ((tsCarried bytes (tsCount bytes.length)).drop pesHdr.length) + 2 := by
    rw [List.length_drop, h.pesLength_tsCarried hpos]
  obtain ⟨rest, hrest⟩ := h.begins
  have hsection : pesHdr ++ bytes.drop pesHdr.length = bytes := by rw [← hrest, List.drop_left]
  have hround : (⟨true, (tsCarried bytes (tsCount bytes.length)).drop
      pesHdr.length⟩ : PesQueue).round =
      (some bytes, ⟨false,
        List.replicate (tsCount bytes.length * tsPayloadMax - bytes.length) 0xff⟩) := by
    rw [PesQueue.round, PesQueue.resync_of_hasSync rfl]
    dsimp only
    rw [if_pos ⟨rfl, (h.complete_iff hpos).mpr le_rfl⟩, ← hbody, hcarried, List.take_left,
      List.drop_left, hsection]
  have hstuffing : tsCount bytes.length * tsPayloadMax - bytes.length ≤ 183 := by
    rw [Nat.sub_mul] at hlast
    omega
  obtain ⟨next, hnext, hstuffed⟩ := PesQueue.dequeue_stuffing hstuffing fuel
  refine ⟨next, ?_, hstuffed⟩
  rw [PesQueue.dequeue, hround]
  dsimp only
  rw [hnext]

/-- A queue that has taken the first `k` packets of a section. -/
def Receiving (bytes : List Byte) (k : ℕ) (q : PesQueue) : Prop :=
  if k = 0 then q.Stuffed else q = ⟨true, (tsCarried bytes k).drop pesHdr.length⟩

/-- The loop with packet `k` of a section is the loop on what has come of it. -/
lemma Receiving.process_eq {q : PesQueue} (hq : Receiving bytes k q) (h : IsPesSection bytes)
    (hk : k < tsCount bytes.length) :
    ∃ fuel, q.process (tsCarries bytes k) =
      PesQueue.dequeue (fuel + 2) ⟨true, (tsCarried bytes (k + 1)).drop pesHdr.length⟩ := by
  have hmax : tsPayloadMax = 184 := rfl
  have hlen := @length_tsCarries bytes k
  have hfuel : (q.bytes ++ tsCarries bytes k).length + 1 =
      ((q.bytes ++ tsCarries bytes k).length - 1) + 2 := by
    rw [List.length_append]
    omega
  refine ⟨(q.bytes ++ tsCarries bytes k).length - 1, ?_⟩
  rw [PesQueue.process, hfuel]
  rw [Receiving] at hq
  split_ifs at hq with hzero
  · subst hzero
    have hfirst : tsCarried bytes (0 + 1) = tsCarries bytes 0 := by
      rw [tsCarried_succ hk, tsCarried, Nat.zero_mul, List.take_zero, Nat.zero_sub]
      rfl
    have hpiece : pesHdr <+: tsPiece bytes 0 := by
      rw [tsPiece, Nat.zero_mul, List.drop_zero, List.prefix_take_iff]
      exact ⟨h.begins, by decide⟩
    have hbegins : pesHdr <+: tsCarries bytes 0 := hpiece.trans (List.prefix_append _ _)
    have hresync := hq.resync hbegins hlen
    rw [hfirst, PesQueue.dequeue_resync (by rw [hresync]), hresync]
  · rw [hq, tsCarried_succ hk]
    dsimp only
    rw [List.drop_append_of_le_length]
    rw [length_tsCarried]
    exact (show 4 ≤ tsPayloadMax by decide).trans
      (Nat.le_mul_of_pos_left _ (Nat.pos_of_ne_zero hzero))

/-- Packet `k` of a section: the section is put out with the last one. -/
lemma Receiving.process {q : PesQueue} (hq : Receiving bytes k q) (h : IsPesSection bytes)
    (hk : k < tsCount bytes.length) :
    (k + 1 < tsCount bytes.length → (q.process (tsCarries bytes k)).1 = [] ∧
        Receiving bytes (k + 1) (q.process (tsCarries bytes k)).2) ∧
      (k + 1 = tsCount bytes.length → (q.process (tsCarries bytes k)).1 = [bytes] ∧
        (q.process (tsCarries bytes k)).2.Stuffed) := by
  obtain ⟨fuel, hprocess⟩ := hq.process_eq h hk
  rw [hprocess]
  refine ⟨fun hlt => ?_, fun hlast => ?_⟩
  · have hincomplete : ¬PesQueue.Complete ((tsCarried bytes (k + 1)).drop pesHdr.length) :=
      fun hcomplete => not_le.mpr hlt ((h.complete_iff (Nat.succ_pos k)).mp hcomplete)
    rw [PesQueue.dequeue_of_incomplete hincomplete]
    refine ⟨rfl, ?_⟩
    rw [Receiving, if_neg (Nat.succ_ne_zero k)]
  · obtain ⟨next, hnext, hstuffed⟩ := h.dequeue_last fuel
    rw [hlast, hnext]
    exact ⟨rfl, hstuffed⟩

/-- A queue that receives a section is small enough for the next packet. -/
lemma Receiving.staysSmall {q : PesQueue} (hq : Receiving bytes k q) (h : IsPesSection bytes)
    (hk : k < tsCount bytes.length) : q.StaysSmall (tsCarries bytes k) := by
  have hmax : tsPayloadMax = 184 := rfl
  have hsmall := h.small
  have hbegins := lt_tsCount_iff.mp hk
  rw [hmax] at hsmall hbegins
  have hlen : q.bytes.length ≤ 89 * tsPayloadMax - pesHdr.length - tsPayloadMax := by
    rw [Receiving] at hq
    split_ifs at hq with hzero
    · obtain ⟨r, hr, hbytes⟩ := hq.bytes
      rw [hbytes, List.length_replicate]
      exact hr.trans (by decide)
    · rw [hq, List.length_drop, length_tsCarried, hmax]
      omega
  rw [PesQueue.StaysSmall, length_tsCarries]
  exact (Nat.add_le_add_right hlen _).trans_lt (by decide)

/-- The packets of a section that are left. -/
lemma Receiving.run {q : PesQueue} (hq : Receiving bytes k q) (h : IsPesSection bytes) {count : ℕ}
    (hcount : k + (count + 1) = tsCount bytes.length) :
    (Runs.run PesQueue.step q ((List.range' k (count + 1)).map (tsCarries bytes))).1.flatten =
        [bytes] ∧
      (Runs.run PesQueue.step q ((List.range' k (count + 1)).map (tsCarries bytes))).2.Stuffed ∧
      Runs.Meets PesQueue.step PesQueue.StaysSmall q
        ((List.range' k (count + 1)).map (tsCarries bytes)) := by
  induction count generalizing k q with
  | zero =>
    obtain ⟨hout, hstuffed⟩ := (hq.process h (by omega)).2 hcount
    exact ⟨(List.append_nil _).trans hout, hstuffed, hq.staysSmall h (by omega), trivial⟩
  | succ count ih =>
    obtain ⟨hout, hreceiving⟩ := (hq.process h (by omega)).1 (by omega)
    obtain ⟨houts, hstuffed, hsmall⟩ := ih hreceiving (by omega)
    rw [List.range'_succ, List.map_cons]
    refine ⟨?_, hstuffed, hq.staysSmall h (by omega), hsmall⟩
    rw [Runs.run, List.flatten_cons]
    exact (congrArg₂ List.append hout houts).trans (List.nil_append _)

end Section

/-! ### Any number of sections -/

/-- What the packets of several sections carry. -/
def tsCarriesAll (sections : List (List Byte)) : List (List Byte) :=
  sections.flatMap fun bytes => (List.range (tsCount bytes.length)).map (tsCarries bytes)

/-- The sections are put out one after the other. -/
lemma run_tsCarriesAll {q : PesQueue} (hq : q.Stuffed) {sections : List (List Byte)}
    (hsections : ∀ bytes ∈ sections, IsPesSection bytes) :
    (Runs.run PesQueue.step q (tsCarriesAll sections)).1.flatten = sections ∧
      Runs.Meets PesQueue.step PesQueue.StaysSmall q (tsCarriesAll sections) := by
  induction sections generalizing q with
  | nil => exact ⟨rfl, trivial⟩
  | cons bytes sections ih =>
    obtain ⟨hbytes, hrest⟩ := List.forall_mem_cons.mp hsections
    have hpos : 0 < tsCount bytes.length := lt_tsCount_iff.mpr (by have := hbytes.six_le; omega)
    obtain ⟨count, hcount⟩ := Nat.exists_eq_add_of_lt hpos
    have hreceiving : Receiving bytes 0 q := by rwa [Receiving, if_pos rfl]
    obtain ⟨hout, hstuffed, hsmall⟩ := hreceiving.run hbytes hcount.symm
    obtain ⟨houts, hsmalls⟩ := ih hstuffed hrest
    have hrange : List.range' 0 (count + 1) = List.range (tsCount bytes.length) := by
      rw [hcount, Nat.zero_add, List.range_eq_range']
    rw [hrange] at hout hsmall houts hsmalls
    rw [tsCarriesAll, List.flatMap_cons, Runs.run_append_fst, List.flatten_append,
      Runs.meets_append, hout]
    exact ⟨congrArg _ houts, hsmall, hsmalls⟩

/-- The packets of sections carry their pieces. -/
lemma map_payload_tsPacketsOfAll (pid : Word) (cc : Byte) (sections : List (List Byte)) :
    (tsPacketsOfAll pid cc sections).map payload = tsCarriesAll sections := by
  induction sections generalizing cc with
  | nil => rfl
  | cons bytes sections ih =>
    rw [tsPacketsOfAll, List.map_append, ih, tsCarriesAll, tsCarriesAll, List.flatMap_cons,
      tsPacketsOf, List.map_map]
    refine congrArg (· ++ _) (List.map_congr_left fun i _ => ?_)
    exact payload_tsPacket length_tsPiece_le

/-- The extractor passes over packets on other PIDs, and does to the queue what the payloads of
those on its PID do. -/
lemma pePush_run {fresh : ℕ → Byte} {pid : Word} {pe : PesExtractor} {q : PesQueue}
    (h : pe.Holds pid q) {pkts : List TsPacket}
    (hfits : ∀ pkt ∈ pkts.filter (fun pkt => packetPid pkt = pid), AdaptationFits pkt)
    (hsmall : Runs.Meets PesQueue.step PesQueue.StaysSmall q
      ((pkts.filter fun pkt => packetPid pkt = pid).map payload)) :
    ∃ next, pePush fresh pe pkts =
      pure ((Runs.run PesQueue.step q
        ((pkts.filter fun pkt => packetPid pkt = pid).map payload)).1.flatten, next) := by
  induction pkts generalizing pe q with
  | nil => exact ⟨pe, rfl⟩
  | cons pkt pkts ih =>
    by_cases hpid : packetPid pkt = pid
    · rw [List.filter_cons_of_pos (by simpa using hpid)] at hfits hsmall ⊢
      obtain ⟨hfit, hrest⟩ := List.forall_mem_cons.mp hfits
      obtain ⟨hfirst, hsmalls⟩ := hsmall
      have hfill : pe.rb.fill = q.bytes.length := by
        rw [← h.queue]
        exact pe.rb.length_contents.symm
      have hfirst' : pe.StaysSmall pkt := by
        rw [PesExtractor.StaysSmall, hfill]
        exact hfirst
      obtain ⟨pe₁, hstep, hholds⟩ := @peProcessPacket_eq fresh pid pe q h pkt hfit hfirst'
      obtain ⟨next, hpush⟩ := ih hholds hrest hsmalls
      refine ⟨next, ?_⟩
      rw [pePush, if_pos (hpid.trans h.pid.symm), hstep, pure_bind]
      dsimp only
      rw [hpush]
      rfl
    · rw [List.filter_cons_of_neg (by simpa using hpid)] at hfits hsmall ⊢
      obtain ⟨next, hpush⟩ := ih h hfits hsmall
      refine ⟨next, ?_⟩
      rw [pePush, if_neg (h.pid ▸ hpid), pure_bind]
      dsimp only
      rw [hpush]
      rfl

/-- A section is short enough for the packetizer. -/
lemma IsPesSection.tsFits {bytes : List Byte} (h : IsPesSection bytes) : TsFits bytes.length := by
  have hsmall := h.small
  have hmax : tsPayloadMax = 184 := rfl
  have hsize : packetSize = 188 := rfl
  rw [TsFits, hmax, hsize]
  rw [hmax] at hsmall
  omega

/-- The extractor finds the sections in their packets. -/
lemma pePushes_sections {fresh : ℕ → Byte} {pid : Word} {pe : PesExtractor}
    (hnew : peAlloc fresh pid = some pe) (hpid : pid ≤ 0x1fff) {cc : Byte}
    {sections : List (List Byte)} (hsections : ∀ bytes ∈ sections, IsPesSection bytes)
    {batches : List (List TsPacket)}
    (hbatches : batches.flatten.filter (fun pkt => packetPid pkt = pid) =
      tsPacketsOfAll pid cc sections) :
    ∃ next, pePushes fresh pe batches = pure (sections, next) := by
  obtain ⟨hout, hsmall⟩ := run_tsCarriesAll PesQueue.stuffed_nil hsections
  rw [← map_payload_tsPacketsOfAll pid cc, ← hbatches] at hout hsmall
  have hfit : ∀ pkt ∈ batches.flatten.filter (fun pkt => packetPid pkt = pid),
      AdaptationFits pkt := by
    intro pkt hmem hadaption
    rw [hbatches] at hmem
    rw [(tsPacketsOfAll_onPid hpid cc sections pkt hmem).2.2] at hadaption
    exact absurd hadaption (by decide)
  obtain ⟨next, hpush⟩ := @pePush_run fresh pid pe _ (peAlloc_holds hnew) _ hfit hsmall
  refine ⟨next, ?_⟩
  rw [pePushes_eq, hpush, hout]

/-- Sections that `ts_packetizer` has cut into packets on one PID, multiplexed with packets on other
PIDs, and pushed in any batches into a new extractor: the callback gets the sections, each of them
once and in their order. -/
theorem pePushes_tsPacketizeSections {fresh : ℕ → Byte} {pid : Word} {pe : PesExtractor}
    (hnew : peAlloc fresh pid = some pe) (hpid : pid ≤ 0x1fff) {cc cc' : Byte}
    {sections : List (List Byte)} (hsections : ∀ bytes ∈ sections, IsPesSection bytes)
    {pkts : List TsPacket} (hsent : tsPacketizeSections pid cc sections = pure (pkts, cc'))
    {batches : List (List TsPacket)}
    (hbatches : batches.flatten.filter (fun pkt => packetPid pkt = pid) = pkts) :
    ∃ next, pePushes fresh pe batches = pure (sections, next) := by
  have hfits : ∀ bytes ∈ sections, TsFits bytes.length := fun bytes hmem =>
    (hsections bytes hmem).tsFits
  have hpkts : pkts = tsPacketsOfAll pid cc sections := by
    rw [tsPacketizeSections_eq hpid cc hfits] at hsent
    exact (congrArg (fun x : Checked Fault (List TsPacket × Byte) => x.val.1) hsent).symm
  exact pePushes_sections hnew hpid hsections (hbatches.trans hpkts)

/-- A packet on another PID between packets of a PID is filtered out. -/
lemma filter_between {pid : Word} {pkts : List TsPacket} (hpkts : ∀ pkt ∈ pkts, packetPid pkt = pid)
    (n : ℕ) {other : TsPacket} (hother : packetPid other ≠ pid) :
    ([pkts.take n, other :: pkts.drop n].flatten).filter (fun pkt => packetPid pkt = pid) =
      pkts := by
  have hself : pkts.filter (fun pkt => packetPid pkt = pid) = pkts :=
    List.filter_eq_self.mpr fun pkt hmem => decide_eq_true (hpkts pkt hmem)
  rw [List.flatten_cons, List.flatten_singleton, List.filter_append,
    List.filter_cons_of_neg (by simpa using hother), ← List.filter_append, List.take_append_drop,
    hself]

/-- A packet on PID `0x81`. -/
def otherPacket : TsPacket := tsPacket 0 0x81 false [1, 2]

lemma packetPid_otherPacket : packetPid otherPacket ≠ 0x80 := by
  rw [otherPacket, packetPid_tsPacket (by decide) (by decide)]
  decide

/-- Two PES packets without or with a byte of data, and a packet on another PID between them. -/
theorem pePushes_tsPacketizeSections_two :
    ∃ pe pkts cc next, peAlloc (fun _ => 0) 0x80 = some pe ∧
      tsPacketizeSections 0x80 0 [[0, 0, 1, 0xbd, 0, 0], [0, 0, 1, 0xbd, 0, 1, 7]] =
        pure (pkts, cc) ∧
      pePushes (fun _ => 0) pe [pkts.take 1, otherPacket :: pkts.drop 1] =
        pure ([[0, 0, 1, 0xbd, 0, 0], [0, 0, 1, 0xbd, 0, 1, 7]], next) := by
  have hsections : ∀ bytes ∈ [[0, 0, 1, 0xbd, 0, 0], [0, 0, 1, 0xbd, 0, 1, (7 : Byte)]],
      IsPesSection bytes := by
    rw [List.forall_mem_cons, List.forall_mem_singleton]
    exact ⟨⟨by decide, by decide, by decide⟩, ⟨by decide, by decide, by decide⟩⟩
  have hsent := @tsPacketizeSections_eq 0x80 (by decide) 0
    [[0, 0, 1, 0xbd, 0, 0], [0, 0, 1, 0xbd, 0, 1, 7]] (by decide)
  have honPid : ∀ pkt ∈ tsPacketsOfAll 0x80 0 [[0, 0, 1, 0xbd, 0, 0], [0, 0, 1, 0xbd, 0, 1, 7]],
      packetPid pkt = 0x80 :=
    fun pkt hmem => (tsPacketsOfAll_onPid (by decide) 0 _ pkt hmem).2.1
  obtain ⟨next, hpush⟩ := pePushes_tsPacketizeSections (@Eq.refl _ (peAlloc (fun _ => 0) 0x80))
    (by decide) hsections hsent (filter_between honPid 1 packetPid_otherPacket)
  exact ⟨_, _, _, next, rfl, hsent, hpush⟩

end Libklvanc
