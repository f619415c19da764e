import Libklvanc.Tools.RingBuffer

/-!
# The ring buffer as a queue

Any calls of `rb_write`, `rb_read` and `rb_peek` on a buffer from `rb_new`. A call acts as on a
queue of bytes (`KLRingBuffer.StepsAsQueue`), except in two cases: a write that fills the whole of
an empty buffer whose head is not at the beginning of `data` runs over its end, and a write that
makes the buffer larger while its contents wrap around leaves the wrapped part behind. In runs
without them the buffer is a queue throughout (`rb_behavesAsQueue`).
-/

namespace Libklvanc

/-- A call on a ring buffer. -/
inductive RbCall
  /-- `rb_write` of all the bytes of an object. -/
  | write (obj : MemObject) (bs : List Byte)
  /-- `rb_read`. -/
  | read (bytes : ℕ)
  /-- `rb_peek`. -/
  | peek (bytes : ℕ)

/-- The number that a call returns and the bytes it puts out, and the buffer after it. -/
def RbCall.run (fresh : ℕ → Byte) (buf : KLRingBuffer) :
    RbCall → Checked Fault ((ℕ × List Byte) × KLRingBuffer)
  | .write obj bs => do
    let (count, buf) ← rbWrite fresh buf ⟨obj, bs, 0⟩ bs.length
    pure ((count, []), buf)
  | .read bytes => do
    let (out, buf) ← rbRead fresh buf bytes
    pure ((out.length, out), buf)
  | .peek bytes => do
    let (out, buf) ← rbPeek fresh buf bytes
    pure ((out.length, out), buf)

namespace KLRingBuffer

/-- The call acts as on a queue: a write appends all its bytes or none, a read or a peek returns the
oldest bytes, and a read drops them. -/
def StepsAsQueue (buf : KLRingBuffer) (call : RbCall) (result : ℕ × List Byte)
    (next : KLRingBuffer) : Prop :=
  next.data.length = next.size ∧ rbUsed next = next.contents.length ∧
    match call with
    | .write _ bs =>
      (result.1 = bs.length ∧ next.contents = buf.contents ++ bs) ∨
        (result.1 = 0 ∧ next.contents = buf.contents)
    | .read bytes =>
      result = (min bytes buf.contents.length, buf.contents.take bytes) ∧
        next.contents = buf.contents.drop bytes
    | .peek bytes =>
      result = (min bytes buf.contents.length, buf.contents.take bytes) ∧
        next.contents = buf.contents

/-- The increment of a write does not wrap around, and the memory that a growing buffer asks for
exists: no object has 2^63 bytes. -/
def Possible (buf : KLRingBuffer) : RbCall → Prop
  | .write _ bs =>
    bs.length * 128 < 2 ^ 64 ∧
      (buf.size - buf.fill < bs.length → buf.size + bs.length * 128 ≤ buf.sizeMax →
        buf.size + bs.length * 128 < 2 ^ 63)
  | _ => True

instance (buf : KLRingBuffer) : DecidablePred buf.Possible
  | .write _ bs =>
    inferInstanceAs (Decidable (bs.length * 128 < 2 ^ 64 ∧
      (buf.size - buf.fill < bs.length → buf.size + bs.length * 128 ≤ buf.sizeMax →
        buf.size + bs.length * 128 < 2 ^ 63)))
  | .read _ | .peek _ => inferInstanceAs (Decidable True)

/-- A write does not fill the whole of an empty buffer from another place than its beginning, and
the buffer grows only while its contents do not wrap, and not so far that its size wraps. -/
def Fits (buf : KLRingBuffer) : RbCall → Prop
  | .write _ bs =>
    (bs.length ≤ buf.size - buf.fill → ¬buf.Overruns bs.length) ∧
      (buf.size - buf.fill < bs.length → buf.size + bs.length * 128 < 2 ^ 64 ∧
        (buf.size + bs.length * 128 ≤ buf.sizeMax → buf.Unwrapped))
  | _ => True

instance (buf : KLRingBuffer) : DecidablePred buf.Fits
  | .write _ bs =>
    inferInstanceAs (Decidable
      ((bs.length ≤ buf.size - buf.fill → ¬(bs.length = buf.size ∧ buf.head ≠ 0)) ∧
        (buf.size - buf.fill < bs.length → buf.size + bs.length * 128 < 2 ^ 64 ∧
          (buf.size + bs.length * 128 ≤ buf.sizeMax → buf.head + buf.fill ≤ buf.size))))
  | .read _ | .peek _ => inferInstanceAs (Decidable True)

end KLRingBuffer

section Step

variable {buf : KLRingBuffer}

/-- All the bytes of a list. -/
lemma cellsFrom_zero (l : List Byte) : cellsFrom l 0 l.length = l := by
  apply List.ext_getElem (length_cellsFrom _ _ _)
  intro i h₁ h₂
  simp only [cellsFrom, List.getElem_map, List.getElem_range, Nat.zero_add]
  exact List.getD_eq_getElem _ _ h₂

/-- A write that fits acts as on a queue. -/
lemma write_stepsAsQueue (fresh : ℕ → Byte) (h : buf.WF) {obj : MemObject} {bs : List Byte}
    (hpossible : buf.Possible (.write obj bs)) (hfits : buf.Fits (.write obj bs)) :
    ∃ result next, RbCall.run fresh buf (.write obj bs) = pure (result, next) ∧ next.WF ∧
      buf.StepsAsQueue (.write obj bs) result next := by
  obtain ⟨hover, hgrow⟩ := hfits
  have hsrc : (⟨obj, bs, 0⟩ : BytePtr).pos + bs.length ≤ (⟨obj, bs, 0⟩ : BytePtr).cells.length :=
    (Nat.zero_add _).le
  have hbs : cellsFrom (⟨obj, bs, 0⟩ : BytePtr).cells (⟨obj, bs, 0⟩ : BytePtr).pos bs.length = bs :=
    cellsFrom_zero bs
  simp only [RbCall.run]
  rcases Nat.lt_or_ge (buf.size - buf.fill) bs.length with hfull | hroom
  · obtain ⟨hwrap, hunwrapped⟩ := hgrow hfull
    rcases Nat.lt_or_ge buf.sizeMax (buf.size + bs.length * 128) with hrefuse | hmax
    · -- the buffer cannot grow so far
      rw [rbWrite_of_refuse fresh h hfull hrefuse hwrap, pure_bind]
      exact ⟨_, _, rfl, h, h.length_data, buf.length_contents.symm, Or.inr ⟨rfl, rfl⟩⟩
    · -- the buffer grows
      obtain ⟨old, next, hwrite, hwf, hcontents, -, hold, -, -, -⟩ :=
        rbWrite_of_grow fresh h hsrc hfull hmax (hpossible.2 hfull hmax)
      rw [hwrite, pure_bind]
      refine ⟨_, _, rfl, hwf, hwf.length_data, next.length_contents.symm, Or.inl ⟨rfl, ?_⟩⟩
      rw [hcontents, hold (hunwrapped hmax), hbs]
  · have hfill := h.fill_le
    obtain ⟨next, hwrite, hwf, hcontents, -, -, -⟩ :=
      rbWrite_of_room fresh h hsrc (by omega) (hover hroom)
    rw [hwrite, pure_bind]
    refine ⟨_, _, rfl, hwf, hwf.length_data, next.length_contents.symm, Or.inl ⟨rfl, ?_⟩⟩
    rw [hcontents, hbs]

/-- A read acts as on a queue. -/
lemma read_stepsAsQueue (fresh : ℕ → Byte) (h : buf.WF) (bytes : ℕ) :
    ∃ result next, RbCall.run fresh buf (.read bytes) = pure (result, next) ∧ next.WF ∧
      buf.StepsAsQueue (.read bytes) result next := by
  obtain ⟨next, hread, hwf, hcontents, -, -, -⟩ := rbReader_eq fresh h bytes true
  simp only [RbCall.run, rbRead]
  rw [hread, pure_bind]
  refine ⟨_, _, rfl, hwf, hwf.length_data, next.length_contents.symm, ?_, hcontents⟩
  rw [List.length_take]

/-- A peek acts as on a queue. -/
lemma peek_stepsAsQueue (fresh : ℕ → Byte) (h : buf.WF) (bytes : ℕ) :
    ∃ result next, RbCall.run fresh buf (.peek bytes) = pure (result, next) ∧ next.WF ∧
      buf.StepsAsQueue (.peek bytes) result next := by
  obtain ⟨next, hread, hwf, hcontents, -, -, -⟩ := rbReader_eq fresh h bytes false
  simp only [RbCall.run, rbPeek]
  rw [hread, pure_bind]
  refine ⟨_, _, rfl, hwf, hwf.length_data, next.length_contents.symm, ?_, hcontents⟩
  rw [List.length_take]

/-- A call that fits acts as on a queue and leaves a well-formed buffer. -/
lemma run_stepsAsQueue (fresh : ℕ → Byte) (h : buf.WF) {call : RbCall}
    (hpossible : buf.Possible call) (hfits : buf.Fits call) :
    ((RbCall.run fresh buf call).Safe ∧ buf.StepsAsQueue call (RbCall.run fresh buf call).val.1
      (RbCall.run fresh buf call).val.2) ∧ (RbCall.run fresh buf call).val.2.WF := by
  have hstep : ∃ result next, RbCall.run fresh buf call = pure (result, next) ∧ next.WF ∧
      buf.StepsAsQueue call result next := by
    cases call with
    | write obj bs => exact write_stepsAsQueue fresh h hpossible hfits
    | read bytes => exact read_stepsAsQueue fresh h bytes
    | peek bytes => exact peek_stepsAsQueue fresh h bytes
  obtain ⟨result, next, hrun, hwf, hqueue⟩ := hstep
  rw [hrun]
  exact ⟨⟨Checked.safe_pure _, hqueue⟩, hwf⟩

end Step

/-- In every run on a new buffer whose calls all fit, each call stays inside `data` and acts as on a
queue of bytes, whatever new memory holds. -/
theorem rb_behavesAsQueue (fresh : ℕ → Byte) {size sizeMax : ℕ} (hsize : size < 2 ^ 63)
    {buf : KLRingBuffer} (hnew : rbNew fresh size sizeMax = some buf) {calls : List RbCall}
    (hpossible : Runs.Meets (RbCall.run fresh) KLRingBuffer.Possible buf calls)
    (hfits : Runs.Meets (RbCall.run fresh) KLRingBuffer.Fits buf calls) :
    buf.contents = [] ∧
      Runs.Behaves (RbCall.run fresh) KLRingBuffer.StepsAsQueue buf calls := by
  obtain ⟨hwf, hempty, -⟩ := rbNew_wf hsize hnew
  refine ⟨hempty, ?_⟩
  refine Runs.behaves_of_meets (fun s call hs hok => ?_) hwf (hpossible.and hfits)
  exact run_stepsAsQueue fresh hs hok.1 hok.2

/-- Four bytes that become 260 when the fifth one comes. -/
theorem rb_behavesAsQueue_five :
    ∃ buf, rbNew (fun _ => 0) 4 1024 = some buf ∧ buf.contents = [] ∧
      Runs.Behaves (RbCall.run fun _ => 0) KLRingBuffer.StepsAsQueue buf
        [.write .ringData [1, 2, 3], .peek 2, .write .ringData [4, 5], .read 9] :=
  ⟨_, rfl, @rb_behavesAsQueue (fun _ => 0) 4 1024 (by norm_num) _ rfl _ (by decide) (by decide)⟩

/-- A write of four bytes to an empty buffer of four whose head has moved goes over the end of
`data`, and a buffer that grows while its contents wrap loses some of them. -/
theorem not_behavesAsQueue_wrapped :
    (∃ buf calls, rbNew (fun _ => 0) 4 4 = some buf ∧
      Runs.Meets (RbCall.run fun _ => 0) KLRingBuffer.Possible buf calls ∧
      ¬Runs.Behaves (RbCall.run fun _ => 0) KLRingBuffer.StepsAsQueue buf calls) ∧
    ∃ buf calls, rbNew (fun _ => 0) 4 1024 = some buf ∧
      Runs.Meets (RbCall.run fun _ => 0) KLRingBuffer.Possible buf calls ∧
      ¬Runs.Behaves (RbCall.run fun _ => 0) KLRingBuffer.StepsAsQueue buf calls := by
  constructor
  · refine ⟨_, [.write .ringData [1, 2, 3], .read 3, .write .ringData [4, 5, 6, 7]], rfl,
      by decide, ?_⟩
    rintro ⟨-, -, ⟨hsafe, -⟩, -⟩
    exact absurd hsafe (by decide)
  · refine ⟨_, [.write .ringData [1, 2, 3, 4], .read 1, .write .ringData [5], .write .ringData [6]],
      rfl, by decide, ?_⟩
    rintro ⟨-, -, -, ⟨-, -, -, hcontents⟩, -⟩
    exact absurd hcontents (by decide)

end Libklvanc
