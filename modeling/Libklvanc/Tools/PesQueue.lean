import Libklvanc.Tools.PesExtractor

/-!
# The PES extractor over a queue of bytes

What the extractor does to the bytes in its ring buffer, apart from where they lie in it. On a
well-formed ring buffer every round of `pe_processPacket` acts as `PesQueue.round` acts on the
contents (`peRound_eq`), and so does its loop (`peDequeue_eq`); neither leaves the buffer or wraps a
size.
-/

namespace Libklvanc

/-- The extractor with a queue of bytes in place of its ring buffer. -/
structure PesQueue where
  hasSync : Bool
  bytes : List Byte
  deriving DecidableEq

namespace PesQueue

/-- At how many places of a queue of `n` bytes a resynchronisation looks for the header. -/
def places (n : ℕ) : ℕ := (n - 3) / 2

/-- The first of the places from `i` up to `k` at which the header begins. -/
def firstHdr (bytes : List Byte) (i k : ℕ) : Option ℕ :=
  (List.range' i (k - i)).find? fun j => pesHdr.isPrefixOf (bytes.drop j)

/-- The resynchronisation takes the bytes up to the header, or those it has looked at. -/
def resync (q : PesQueue) : PesQueue :=
  if !q.hasSync ∧ 16 < q.bytes.length then
    let found := firstHdr q.bytes 0 (places q.bytes.length)
    ⟨found.isSome, q.bytes.drop (found.getD (places q.bytes.length) + 4)⟩
  else q

lemma resync_of_looks {q : PesQueue} (h : (!q.hasSync) = true ∧ 16 < q.bytes.length) :
    q.resync = ⟨(firstHdr q.bytes 0 (places q.bytes.length)).isSome, q.bytes.drop
      ((firstHdr q.bytes 0 (places q.bytes.length)).getD (places q.bytes.length) + 4)⟩ :=
  if_pos h

lemma resync_of_not_looks {q : PesQueue} (h : ¬((!q.hasSync) = true ∧ 16 < q.bytes.length)) :
    q.resync = q :=
  if_neg h

/-- The PES packet is complete of which all but the header lies at the front of the queue. -/
def Complete (bytes : List Byte) : Prop := pesLength bytes + 2 ≤ bytes.length

/-- A place with the header is the first one. -/
lemma firstHdr_of_begins {bytes : List Byte} {i k : ℕ} (hi : i < k) (h : pesHdr <+: bytes.drop i) :
    firstHdr bytes i k = some i := by
  have hlen : k - i = k - (i + 1) + 1 := by omega
  rw [firstHdr, hlen, List.range'_succ]
  exact List.find?_cons_of_pos (List.isPrefixOf_iff_prefix.mpr h)

/-- A place without the header is passed over. -/
lemma firstHdr_of_not_begins {bytes : List Byte} {i k : ℕ} (hi : i < k)
    (h : ¬pesHdr <+: bytes.drop i) : firstHdr bytes i k = firstHdr bytes (i + 1) k := by
  have hlen : k - i = k - (i + 1) + 1 := by omega
  rw [firstHdr, hlen, List.range'_succ]
  exact List.find?_cons_of_neg fun hbegins => h (List.isPrefixOf_iff_prefix.mp hbegins)

lemma firstHdr_self (bytes : List Byte) (k : ℕ) : firstHdr bytes k k = none := by
  rw [firstHdr, Nat.sub_self]
  rfl

instance : DecidablePred Complete := fun _ => inferInstanceAs (Decidable (_ ≤ _))

/-- One round of the loop. -/
def round (q : PesQueue) : Option (List Byte) × PesQueue :=
  let q := q.resync
  if q.hasSync ∧ Complete q.bytes then
    (some (pesHdr ++ q.bytes.take (pesLength q.bytes + 2)),
      ⟨false, q.bytes.drop (pesLength q.bytes + 2)⟩)
  else (none, q)

/-- The loop, for at most `fuel` rounds. -/
def dequeue : ℕ → PesQueue → List (List Byte) × PesQueue
  | 0, q => ([], q)
  | fuel + 1, q =>
    match q.round with
    | (none, q) => ([], q)
    | (some msg, q) => (msg :: (dequeue fuel q).1, (dequeue fuel q).2)

/-- A payload goes behind the queue before the loop. -/
def process (q : PesQueue) (payload : List Byte) : List (List Byte) × PesQueue :=
  dequeue ((q.bytes ++ payload).length + 1) ⟨q.hasSync, q.bytes ++ payload⟩

end PesQueue

/-! ### The ring buffer holds the queue -/

namespace PesExtractor

/-- What the ring buffer stands for. -/
def queue (pe : PesExtractor) : PesQueue := ⟨pe.hasSync, pe.rb.contents⟩

@[simp] lemma queue_hasSync (pe : PesExtractor) : pe.queue.hasSync = pe.hasSync := rfl

@[simp] lemma queue_bytes (pe : PesExtractor) : pe.queue.bytes = pe.rb.contents := rfl

/-- What all calls keep of an extractor. -/
structure WF (pe : PesExtractor) : Prop where
  rb : pe.rb.WF
  sizeMax : pe.rb.sizeMax = 1048576
  sizeInitial : pe.rb.sizeInitial = maxPesSize

/-- The extractor is well formed, and holds the queue on the PID. -/
structure Holds (pe : PesExtractor) (pid : Word) (q : PesQueue) : Prop where
  wf : pe.WF
  pid : pe.pid = pid
  queue : pe.queue = q

end PesExtractor

/-- A new extractor holds the empty queue. -/
lemma peAlloc_holds {fresh : ℕ → Byte} {pid : Word} {pe : PesExtractor}
    (h : peAlloc fresh pid = some pe) : pe.Holds pid ⟨false, []⟩ := by
  obtain ⟨rb, hnew, rfl⟩ := Option.map_eq_some_iff.mp h
  obtain ⟨hwf, hempty, -, hinitial, hmax⟩ := rbNew_wf (by norm_num [maxPesSize]) hnew
  refine ⟨⟨hwf, hmax, hinitial⟩, rfl, ?_⟩
  rw [PesExtractor.queue, hempty]

section Refinement

variable {fresh : ℕ → Byte} {pe : PesExtractor} {rb : KLRingBuffer}

/-- A read leaves a buffer that an extractor can have. -/
lemma rbRead_holds (h : pe.WF) (bytes : ℕ) (hasSync : Bool) :
    ∃ rb, rbRead fresh pe.rb bytes = pure (pe.rb.contents.take bytes, rb) ∧
      PesExtractor.Holds { pe with rb, hasSync } pe.pid ⟨hasSync, pe.rb.contents.drop bytes⟩ := by
  obtain ⟨next, hread, hwf, hcontents, -, hmax, hinitial⟩ := rbReader_eq fresh h.rb bytes true
  refine ⟨next, hread, ⟨hwf, hmax.trans h.sizeMax, hinitial.trans h.sizeInitial⟩, rfl, ?_⟩
  rw [PesExtractor.queue]
  exact congrArg _ hcontents

/-- A peek changes nothing of the contents. -/
lemma rbPeek_holds (h : pe.WF) (bytes : ℕ) :
    ∃ rb, rbPeek fresh pe.rb bytes = pure (pe.rb.contents.take bytes, rb) ∧
      PesExtractor.Holds { pe with rb } pe.pid pe.queue := by
  obtain ⟨next, hread, hwf, hcontents, -, hmax, hinitial⟩ := rbReader_eq fresh h.rb bytes false
  refine ⟨next, hread, ⟨hwf, hmax.trans h.sizeMax, hinitial.trans h.sizeInitial⟩, rfl, ?_⟩
  rw [PesExtractor.queue]
  exact congrArg _ hcontents

/-- A change of `hasSync` leaves the buffer alone. -/
lemma holds_of_contents (h : pe.WF) {bytes : List Byte} (hcontents : pe.rb.contents = bytes)
    (hasSync : Bool) : PesExtractor.Holds { pe with hasSync } pe.pid ⟨hasSync, bytes⟩ := by
  refine ⟨⟨h.rb, h.sizeMax, h.sizeInitial⟩, rfl, ?_⟩
  rw [PesExtractor.queue]
  exact congrArg _ hcontents

/-- The loop of the resynchronisation goes on where there are places left. -/
lemma lt_rbUsed_iff {bytes : List Byte} {i : ℕ} (hcontents : rb.contents = bytes.drop (i + 4)) :
    i < rbUsed rb ↔ i < PesQueue.places bytes.length := by
  rw [rbUsed, ← rb.length_contents, hcontents, List.length_drop, PesQueue.places]
  omega

/-- The window on the bytes moves on by one. -/
lemma window_succ (bytes : List Byte) (i : ℕ) :
    ((bytes.drop i).take 4).drop 1 ++ (bytes.drop (i + 4)).take 1 =
      (bytes.drop (i + 1)).take 4 := by
  have hsplit : (bytes.drop (i + 1)).take (3 + 1) =
      (bytes.drop (i + 1)).take 3 ++ ((bytes.drop (i + 1)).drop 3).take 1 := List.take_add
  rw [hsplit, List.drop_take, List.drop_drop, List.drop_drop]

/-- The loop of the resynchronisation passes over the places without the header. -/
lemma peSeek_eq (bytes : List Byte) {fuel i : ℕ} (h : pe.WF)
    (hi : i ≤ PesQueue.places bytes.length) (hfuel : PesQueue.places bytes.length - i ≤ fuel)
    (hcontents : pe.rb.contents = bytes.drop (i + 4)) :
    ∃ rb, peSeek fresh fuel i ((bytes.drop i).take 4) pe.rb =
        pure ((PesQueue.firstHdr bytes i (PesQueue.places bytes.length)).isSome, rb) ∧
      PesExtractor.Holds
        { pe with
          rb
          hasSync := (PesQueue.firstHdr bytes i (PesQueue.places bytes.length)).isSome } pe.pid
        ⟨(PesQueue.firstHdr bytes i (PesQueue.places bytes.length)).isSome,
          bytes.drop ((PesQueue.firstHdr bytes i (PesQueue.places bytes.length)).getD
            (PesQueue.places bytes.length) + 4)⟩ := by
  induction fuel generalizing i pe with
  | zero =>
    have hik : i = PesQueue.places bytes.length := by omega
    rw [← hik, PesQueue.firstHdr_self]
    exact ⟨pe.rb, rfl, holds_of_contents h hcontents false⟩
  | succ fuel ih =>
    rw [peSeek]
    rcases hi.lt_or_eq with hlt | heq
    · rw [if_pos ((lt_rbUsed_iff hcontents).mpr hlt)]
      by_cases hbegins : pesHdr <+: bytes.drop i
      · have hwindow : (bytes.drop i).take 4 = pesHdr := (List.prefix_iff_eq_take.mp hbegins).symm
        rw [PesQueue.firstHdr_of_begins hlt hbegins, if_pos hwindow]
        exact ⟨pe.rb, rfl, holds_of_contents h hcontents true⟩
      · have hwindow : (bytes.drop i).take 4 ≠ pesHdr := fun heq =>
          hbegins (List.prefix_iff_eq_take.mpr heq.symm)
        obtain ⟨rb, hread, hholds⟩ := @rbRead_holds fresh pe h 1 pe.hasSync
        have hrest : rb.contents = bytes.drop (i + 1 + 4) := by
          refine (congrArg PesQueue.bytes hholds.queue).trans ?_
          rw [hcontents, List.drop_drop, Nat.add_right_comm]
        rw [PesQueue.firstHdr_of_not_begins hlt hbegins, if_neg hwindow, hread, pure_bind,
          hcontents]
        dsimp only
        rw [window_succ]
        exact ih hholds.wf hlt (by omega) hrest
    · rw [if_neg fun hlt => heq.not_lt ((lt_rbUsed_iff hcontents).mp hlt), ← heq,
        PesQueue.firstHdr_self]
      exact ⟨pe.rb, rfl, holds_of_contents h hcontents false⟩

/-- The resynchronisation acts on the contents. -/
lemma peResync_eq (h : pe.WF) :
    ∃ next, peResync fresh pe = pure next ∧ next.Holds pe.pid pe.queue.resync := by
  have hused : rbUsed pe.rb = pe.rb.contents.length := pe.rb.length_contents.symm
  rw [peResync, hused]
  by_cases hlook : (!pe.hasSync) = true ∧ 16 < pe.rb.contents.length
  · rw [if_pos hlook, PesQueue.resync_of_looks hlook]
    obtain ⟨rb, hread, hholds⟩ := @rbRead_holds fresh pe h pesHdr.length pe.hasSync
    have hrest : rb.contents = pe.rb.contents.drop (0 + 4) := congrArg PesQueue.bytes hholds.queue
    have hfuel : PesQueue.places pe.rb.contents.length - 0 ≤ rbUsed rb := by
      rw [rbUsed, ← rb.length_contents, hrest, List.length_drop, PesQueue.places]
      omega
    obtain ⟨rb', hseek, hholds'⟩ :=
      @peSeek_eq fresh _ pe.rb.contents (rbUsed rb) 0 hholds.wf (Nat.zero_le _) hfuel hrest
    refine ⟨_, ?_, hholds'⟩
    rw [hread, pure_bind]
    exact congrArg (fun x : Checked Fault (Bool × KLRingBuffer) => x >>= fun r =>
      pure { pe with rb := r.2, hasSync := r.1 }) hseek
  · rw [if_neg hlook, PesQueue.resync_of_not_looks hlook]
    exact ⟨pe, rfl, h, rfl, rfl⟩

/-- The length of a PES packet is read in the first two bytes. -/
lemma pesLength_take (bytes : List Byte) : pesLength (bytes.take 2) = pesLength bytes := by
  simp [pesLength, List.getD_eq_getElem?_getD]

/-- A round of the loop acts on the contents. -/
lemma peRound_eq (h : pe.WF) :
    ∃ next, peRound fresh pe = pure (pe.queue.round.1, next) ∧
      next.Holds pe.pid pe.queue.round.2 := by
  obtain ⟨pe₁, hresync, hwf₁, hpid₁, hqueue₁⟩ := @peResync_eq fresh pe h
  rw [peRound, hresync, pure_bind]
  simp only [PesQueue.round, ← hqueue₁, PesExtractor.queue_hasSync, PesExtractor.queue_bytes]
  cases hsync : pe₁.hasSync with
  | false =>
    rw [if_pos (by rfl), if_neg fun hand => Bool.false_ne_true hand.1]
    exact ⟨pe₁, rfl, hwf₁, hpid₁, rfl⟩
  | true =>
    obtain ⟨rb₂, hpeek, hwf₂, -, hqueue₂⟩ := @rbPeek_holds fresh pe₁ hwf₁ 2
    have hcontents : rb₂.contents = pe₁.rb.contents := congrArg PesQueue.bytes hqueue₂
    have hused : rbUsed rb₂ = pe₁.rb.contents.length := by
      rw [rbUsed, ← hcontents, rb₂.length_contents]
    rw [if_neg (by simp), hpeek, pure_bind]
    simp only [pesLength_take, hused]
    by_cases hcomplete : PesQueue.Complete pe₁.rb.contents
    · have hcomplete' : pesLength pe₁.rb.contents + 2 ≤ pe₁.rb.contents.length := hcomplete
      have htwo : (pe₁.rb.contents.take 2).length = 2 := List.length_take_of_le (by omega)
      obtain ⟨rb₃, hread, hholds⟩ :=
        @rbRead_holds fresh _ hwf₂ (pesLength pe₁.rb.contents + 2) false
      rw [if_neg (by rw [htwo]; exact fun hne => hne rfl), if_pos hcomplete', hread, pure_bind,
        if_pos ⟨trivial, hcomplete⟩, hcontents]
      refine ⟨_, rfl, hholds.wf, hpid₁, ?_⟩
      rw [hholds.queue]
      exact congrArg _ (congrArg _ hcontents)
    · have hcomplete' : ¬pesLength pe₁.rb.contents + 2 ≤ pe₁.rb.contents.length := hcomplete
      rw [if_neg hcomplete', ite_self, if_neg fun hand => hcomplete hand.2]
      refine ⟨_, rfl, ⟨hwf₂.rb, hwf₂.sizeMax, hwf₂.sizeInitial⟩, hpid₁, ?_⟩
      rw [← hqueue₂, PesExtractor.queue, PesExtractor.queue, hsync]

/-- The loop acts on the contents. -/
lemma peDequeue_eq (fuel : ℕ) (h : pe.WF) :
    ∃ next, peDequeue fresh fuel pe = pure ((PesQueue.dequeue fuel pe.queue).1, next) ∧
      next.Holds pe.pid (PesQueue.dequeue fuel pe.queue).2 := by
  induction fuel generalizing pe with
  | zero => exact ⟨pe, rfl, h, rfl, rfl⟩
  | succ fuel ih =>
    obtain ⟨pe₁, hround, hwf₁, hpid₁, hqueue₁⟩ := @peRound_eq fresh pe h
    rw [peDequeue, hround, pure_bind, PesQueue.dequeue]
    rcases hresult : pe.queue.round with ⟨_ | msg, q⟩
    · rw [hresult] at hqueue₁
      exact ⟨pe₁, rfl, hwf₁, hpid₁, hqueue₁⟩
    · rw [hresult] at hqueue₁
      obtain ⟨next, hrest, hwf, hpid, hqueue⟩ := ih hwf₁
      subst hqueue₁
      refine ⟨next, ?_, hwf, hpid.trans hpid₁, hqueue⟩
      dsimp only
      rw [hrest, pure_bind]

end Refinement

end Libklvanc
