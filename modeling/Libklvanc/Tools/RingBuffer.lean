import Libklvanc.Core.Basic
import Libklvanc.Foundation.RingWindow
import Libklvanc.Foundation.Runs

/-!
# The growing ring buffer

`klringbuffer.c`. Sizes are `size_t`, computed modulo 2^64; a computation that wraps around is
recorded (`Fault.wrap`). An index into `data` stands for a pointer. A write that finds too little
room makes the buffer larger, a read that leaves a larger buffer empty makes it as small as it was
at first.
-/

namespace Libklvanc

/-! ### Sizes -/

/-- The sum of two `size_t`. -/
def sizeAdd (a b : ℕ) : Checked Fault ℕ :=
  ⟨(a + b) % 2 ^ 64, if a + b < 2 ^ 64 then [] else [.wrap]⟩

/-- The difference of two `size_t`. -/
def sizeSub (a b : ℕ) : Checked Fault ℕ :=
  ⟨(a + (2 ^ 64 - b)) % 2 ^ 64, if b ≤ a then [] else [.wrap]⟩

/-- The product of two `size_t`. -/
def sizeMul (a b : ℕ) : Checked Fault ℕ :=
  ⟨a * b % 2 ^ 64, if a * b < 2 ^ 64 then [] else [.wrap]⟩

/-- The remainder of two `size_t`. -/
def sizeMod (a b : ℕ) : Checked Fault ℕ :=
  ⟨a % b, if b = 0 then [.divisionByZero] else []⟩

/-- An `int` converted to `size_t`. -/
def sizeOfInt (i : ℤ) : Checked Fault ℕ :=
  ⟨(i % 2 ^ 64).toNat, if 0 ≤ i then [] else [.wrap]⟩

/-! ### The buffer -/

/-- A pointer to bytes: the object it points into, its cells, and the one pointed to. -/
structure BytePtr where
  obj : MemObject
  cells : List Byte
  pos : ℕ

/-- The pointer `count` bytes further on. -/
def BytePtr.add (p : BytePtr) (count : ℕ) : BytePtr := { p with pos := p.pos + count }

/-- `memcpy` of `count` bytes from the pointer. -/
def BytePtr.copy (p : BytePtr) (count : ℕ) : Checked Fault (List Byte) :=
  copyFrom p.obj p.cells p.pos count

/-- `KLRingBuffer`. -/
structure KLRingBuffer where
  data : List Byte
  size : ℕ
  sizeMax : ℕ
  sizeInitial : ℕ
  head : ℕ
  fill : ℕ
  deriving DecidableEq

/-- `rb_new`; `fresh` is what new memory holds. -/
def rbNew (fresh : ℕ → Byte) (size sizeMax : ℕ) : Option KLRingBuffer :=
  if size = 0 ∨ sizeMax < size then none
  else
    some
      { data := (List.range size).map fresh, size, sizeMax, sizeInitial := size, head := 0
        fill := 0 }

/-- `rb_used`. -/
def rbUsed (buf : KLRingBuffer) : ℕ := buf.fill

/-- `rb_remain`. -/
def rbRemain (buf : KLRingBuffer) : Checked Fault ℕ := sizeSub buf.size buf.fill

/-- `rb_grow`. -/
def rbGrow (fresh : ℕ → Byte) (buf : KLRingBuffer) (increment : ℕ) :
    Checked Fault (ℤ × KLRingBuffer) := do
  let size ← sizeAdd buf.size increment
  if buf.sizeMax < size then pure (-2, buf)
  else pure (0, { buf with data := reallocTo fresh buf.data size, size })

/-- `rb_shrink_reset`. -/
def rbShrinkReset (fresh : ℕ → Byte) (buf : KLRingBuffer) : KLRingBuffer :=
  { buf with
    data := reallocTo fresh buf.data buf.sizeInitial
    size := buf.sizeInitial
    head := 0
    fill := 0 }

/-- The copies of `rb_write`: `data` after them, for a write of `bytes` bytes at `tail`. -/
def rbCopyIn (buf : KLRingBuffer) (src : BytePtr) (bytes tail writeEnd : ℕ) :
    Checked Fault (List Byte) :=
  if tail ≤ writeEnd then do
    let bs ← src.copy bytes
    copyTo .ringData buf.data tail bs
  else do
    let firstWrite ← sizeSub buf.size tail
    let bs ← src.copy firstWrite
    let data ← copyTo .ringData buf.data tail bs
    let secondWrite ← sizeSub bytes firstWrite
    let bs ← (src.add firstWrite).copy secondWrite
    copyTo .ringData data 0 bs

/-- The second half of `rb_write`, when there is room. -/
def rbStore (buf : KLRingBuffer) (src : BytePtr) (bytes : ℕ) :
    Checked Fault (ℕ × KLRingBuffer) := do
  let used ← sizeAdd buf.head buf.fill
  let tail ← sizeMod used buf.size
  let usedAfter ← sizeAdd used bytes
  let writeEnd ← sizeMod usedAfter buf.size
  let data ← rbCopyIn buf src bytes tail writeEnd
  let fill ← sizeAdd buf.fill bytes
  pure (bytes, { buf with data, fill })

/-- `rb_write`: what it returns, and the buffer after the call. -/
def rbWrite (fresh : ℕ → Byte) (buf : KLRingBuffer) (src : BytePtr) (bytes : ℕ) :
    Checked Fault (ℕ × KLRingBuffer) := do
  let remain ← rbRemain buf
  let (result, buf) ←
    (if remain < bytes then do
      let increment ← sizeMul bytes 128
      rbGrow fresh buf increment
    else pure (0, buf))
  if result < 0 then pure (0, buf) else rbStore buf src bytes

/-- The copies of `rb_reader`: the bytes put out, for a read of `bytes` bytes. -/
def rbCopyOut (buf : KLRingBuffer) (bytes endRead : ℕ) : Checked Fault (List Byte) :=
  if endRead ≤ buf.head then do
    let firstRead ← sizeSub buf.size buf.head
    let first ← copyFrom .ringData buf.data buf.head firstRead
    let secondRead ← sizeSub bytes firstRead
    let second ← copyFrom .ringData buf.data 0 secondRead
    pure (first ++ second)
  else copyFrom .ringData buf.data buf.head bytes

/-- `advance_head`. -/
def advanceHead (buf : KLRingBuffer) (bytes : ℕ) : Checked Fault KLRingBuffer := do
  let used ← sizeAdd buf.head bytes
  let head ← sizeMod used buf.size
  let fill ← sizeSub buf.fill bytes
  pure { buf with head, fill }

/-- `rb_reader`: the bytes put out, as many as it returns, and the buffer after the call. -/
def rbReader (fresh : ℕ → Byte) (buf : KLRingBuffer) (bytes : ℕ) (advanceReadHead : Bool) :
    Checked Fault (List Byte × KLRingBuffer) :=
  let bytes := if rbUsed buf < bytes then rbUsed buf else bytes
  if bytes = 0 then pure ([], buf)
  else do
    let used ← sizeAdd buf.head bytes
    let endRead ← sizeMod used buf.size
    let out ← rbCopyOut buf bytes endRead
    let buf ← (if advanceReadHead then advanceHead buf bytes else pure buf)
    if rbUsed buf = 0 ∧ buf.sizeInitial < buf.size then pure (out, rbShrinkReset fresh buf)
    else pure (out, buf)

/-- `rb_read`. -/
def rbRead (fresh : ℕ → Byte) (buf : KLRingBuffer) (bytes : ℕ) :
    Checked Fault (List Byte × KLRingBuffer) :=
  rbReader fresh buf bytes true

/-- `rb_peek`. -/
def rbPeek (fresh : ℕ → Byte) (buf : KLRingBuffer) (bytes : ℕ) :
    Checked Fault (List Byte × KLRingBuffer) :=
  rbReader fresh buf bytes false

/-! ### Sizes that do not wrap -/

section Sizes

variable {a b : ℕ}

lemma sizeAdd_eq (h : a + b < 2 ^ 64) : sizeAdd a b = pure (a + b) := by
  rw [sizeAdd, Nat.mod_eq_of_lt h, if_pos h]
  rfl

lemma sizeSub_eq (h : b ≤ a) (ha : a < 2 ^ 64) : sizeSub a b = pure (a - b) := by
  have hmod : (a + (2 ^ 64 - b)) % 2 ^ 64 = a - b := by omega
  rw [sizeSub, hmod, if_pos h]
  rfl

lemma sizeMul_eq (h : a * b < 2 ^ 64) : sizeMul a b = pure (a * b) := by
  rw [sizeMul, Nat.mod_eq_of_lt h, if_pos h]
  rfl

lemma sizeMod_eq (h : 0 < b) : sizeMod a b = pure (a % b) := by
  rw [sizeMod, if_neg h.ne']
  rfl

lemma sizeOfInt_natCast (h : a < 2 ^ 64) : sizeOfInt (a : ℤ) = pure a := by
  have hmod : ((a : ℤ) % 2 ^ 64).toNat = a := by omega
  rw [sizeOfInt, hmod, if_pos (Int.natCast_nonneg a)]
  rfl

end Sizes

/-- The cells of a list from one on. -/
def cellsFrom (l : List Byte) (start count : ℕ) : List Byte :=
  (List.range count).map fun i => l.getD (start + i) 0

@[simp] lemma length_cellsFrom (l : List Byte) (start count : ℕ) :
    (cellsFrom l start count).length = count := by
  simp [cellsFrom]

/-- Inside the object a copy takes its cells. -/
lemma copyFrom_eq (obj : MemObject) {l : List Byte} {start count : ℕ}
    (h : start + count ≤ l.length) :
    copyFrom obj l start count = pure (cellsFrom l start count) := by
  apply Checked.ext
  · rw [copyFrom, Checked.readRange_val_of_le _ _ _ h, Checked.pure_val]
    apply List.ext_getElem
    · rw [List.length_take, List.length_drop, length_cellsFrom]
      omega
    · intro i h₁ h₂
      rw [length_cellsFrom] at h₂
      simp only [List.getElem_take, List.getElem_drop, cellsFrom, List.getElem_map,
        List.getElem_range]
      rw [List.getD_eq_getElem]
  · exact (Checked.safe_readRange _ _ _).mpr (Or.inr h)

/-- So does a copy from a pointer. -/
lemma BytePtr.copy_eq {p : BytePtr} {count : ℕ} (h : p.pos + count ≤ p.cells.length) :
    p.copy count = pure (cellsFrom p.cells p.pos count) :=
  copyFrom_eq p.obj h

/-! ### Well-formed buffers -/

namespace KLRingBuffer

/-- What all calls keep of a buffer. -/
structure WF (buf : KLRingBuffer) : Prop where
  length_data : buf.data.length = buf.size
  head_lt : buf.head < buf.size
  fill_le : buf.fill ≤ buf.size
  initial_pos : 0 < buf.sizeInitial
  initial_le : buf.sizeInitial ≤ buf.size
  /-- No object is larger. -/
  size_lt : buf.size < 2 ^ 63

/-- The bytes in the buffer, the oldest one first. -/
def contents (buf : KLRingBuffer) : List Byte :=
  Ring.window (fun p => buf.data.getD p 0) buf.size buf.head buf.fill

@[simp] lemma length_contents (buf : KLRingBuffer) : buf.contents.length = buf.fill :=
  Ring.length_window

/-- The contents end before the end of `data`. -/
def Unwrapped (buf : KLRingBuffer) : Prop := buf.head + buf.fill ≤ buf.size

end KLRingBuffer

/-- A new buffer is well formed and empty. -/
lemma rbNew_wf {fresh : ℕ → Byte} {size sizeMax : ℕ} {buf : KLRingBuffer} (hsize : size < 2 ^ 63)
    (h : rbNew fresh size sizeMax = some buf) :
    buf.WF ∧ buf.contents = [] ∧ buf.size = size ∧ buf.sizeInitial = size ∧
      buf.sizeMax = sizeMax := by
  unfold rbNew at h
  split_ifs at h with hnone
  rw [Option.some_inj] at h
  subst h
  refine ⟨⟨by simp, ?_, Nat.zero_le _, ?_, le_rfl, hsize⟩, rfl, rfl, rfl, rfl⟩
  · exact Nat.pos_of_ne_zero fun hzero => hnone (Or.inl hzero)
  · exact Nat.pos_of_ne_zero fun hzero => hnone (Or.inl hzero)

/-! ### Reading -/

section Read

variable {buf : KLRingBuffer} {bytes : ℕ}

/-- The copies of a read put out the oldest bytes. -/
lemma rbCopyOut_eq (h : buf.WF) (hpos : 0 < bytes) (hle : bytes ≤ buf.fill) :
    rbCopyOut buf bytes ((buf.head + bytes) % buf.size) = pure (buf.contents.take bytes) := by
  obtain ⟨hdata, hhead, hfill, -, -, hsize⟩ := h
  rw [KLRingBuffer.contents, Ring.window_take hle, rbCopyOut]
  by_cases hwrap : buf.head + bytes < buf.size
  · -- the bytes are one range
    rw [Nat.mod_eq_of_lt hwrap, if_neg (by omega), copyFrom_eq _ (by omega),
      Ring.window_of_le (by omega)]
    rfl
  · -- the bytes go on at the beginning of `data`
    have hmod : (buf.head + bytes) % buf.size = buf.head + bytes - buf.size := by
      rw [Nat.mod_eq_sub_mod (by omega), Nat.mod_eq_of_lt (by omega)]
    have hsecond : cellsFrom buf.data 0 (bytes - (buf.size - buf.head)) =
        (List.range (bytes - (buf.size - buf.head))).map fun i => buf.data.getD i 0 :=
      List.map_congr_left fun i _ => by rw [Nat.zero_add]
    rw [hmod, if_pos (by omega), sizeSub_eq hhead.le (by omega), pure_bind,
      copyFrom_eq _ (by omega), pure_bind, sizeSub_eq (by omega) (by omega), pure_bind,
      copyFrom_eq _ (by omega), pure_bind, Ring.window_of_wrap hhead.le (by omega) (by omega),
      hsecond]
    rfl

/-- Advancing the head drops the oldest bytes. -/
lemma advanceHead_eq (h : buf.WF) (hle : bytes ≤ buf.fill) :
    ∃ next, advanceHead buf bytes = pure next ∧ next.WF ∧
      next.contents = buf.contents.drop bytes ∧ next.size = buf.size ∧
      next.sizeMax = buf.sizeMax ∧ next.sizeInitial = buf.sizeInitial := by
  obtain ⟨hdata, hhead, hfill, hpos, hinitial, hsize⟩ := h
  have hsize_pos : 0 < buf.size := hpos.trans_le hinitial
  refine ⟨{ buf with head := (buf.head + bytes) % buf.size, fill := buf.fill - bytes }, ?_, ?_, ?_,
    rfl, rfl, rfl⟩
  · rw [advanceHead, sizeAdd_eq (by omega), pure_bind, sizeMod_eq hsize_pos, pure_bind,
      sizeSub_eq hle (by omega), pure_bind]
  · exact ⟨hdata, Nat.mod_lt _ hsize_pos, (Nat.sub_le _ _).trans hfill, hpos, hinitial, hsize⟩
  · rw [KLRingBuffer.contents, KLRingBuffer.contents, Ring.window_drop hle]
    exact Ring.window_mod

/-- An empty buffer is as small as at first. -/
lemma rbShrinkReset_wf (fresh : ℕ → Byte) (h : buf.WF) :
    (rbShrinkReset fresh buf).WF ∧ (rbShrinkReset fresh buf).contents = [] :=
  ⟨⟨length_reallocTo _ _ _, h.initial_pos, Nat.zero_le _, h.initial_pos, le_rfl,
    h.initial_le.trans_lt h.size_lt⟩, rfl⟩

/-- A read puts out the oldest bytes and drops them if it is to advance; it leaves a larger buffer
at its size or makes it as small as at first. -/
theorem rbReader_eq (fresh : ℕ → Byte) (h : buf.WF) (bytes : ℕ) (advance : Bool) :
    ∃ next, rbReader fresh buf bytes advance = pure (buf.contents.take bytes, next) ∧ next.WF ∧
      next.contents = (if advance then buf.contents.drop bytes else buf.contents) ∧
      (next.size = buf.size ∨ next.size = buf.sizeInitial) ∧
      next.sizeMax = buf.sizeMax ∧ next.sizeInitial = buf.sizeInitial := by
  set count := if rbUsed buf < bytes then rbUsed buf else bytes with hcount
  have hle : count ≤ buf.fill := by
    rw [hcount, rbUsed]
    split_ifs <;> omega
  have htake : buf.contents.take bytes = buf.contents.take count := by
    rw [hcount]
    split_ifs with hmore
    · rw [List.take_of_length_le (by rw [buf.length_contents]; exact hmore.le),
        List.take_of_length_le (by rw [buf.length_contents]; exact le_rfl)]
    · rfl
  have hdrop : buf.contents.drop bytes = buf.contents.drop count := by
    rw [hcount]
    split_ifs with hmore
    · rw [List.drop_of_length_le (by rw [buf.length_contents]; exact hmore.le),
        List.drop_of_length_le (by rw [buf.length_contents]; exact le_rfl)]
    · rfl
  rw [htake, hdrop, rbReader, ← hcount]
  rcases Nat.eq_zero_or_pos count with hzero | hpos
  · refine ⟨buf, ?_, h, ?_, Or.inl rfl, rfl, rfl⟩
    · rw [if_pos hzero, hzero, List.take_zero]
    · rw [hzero, List.drop_zero, ite_self]
  · have hsize_pos : 0 < buf.size := h.initial_pos.trans_le h.initial_le
    have hsum : buf.head + count < 2 ^ 64 := by
      have := h.head_lt
      have := h.fill_le
      have := h.size_lt
      omega
    rw [if_neg hpos.ne', sizeAdd_eq hsum, pure_bind, sizeMod_eq hsize_pos, pure_bind,
      rbCopyOut_eq h hpos hle, pure_bind]
    cases advance with
    | false =>
      have hused : ¬(rbUsed buf = 0 ∧ buf.sizeInitial < buf.size) := fun hand =>
        (hpos.trans_le hle).ne' hand.1
      rw [if_neg Bool.false_ne_true, pure_bind, if_neg hused]
      exact ⟨buf, rfl, h, rfl, Or.inl rfl, rfl, rfl⟩
    | true =>
      obtain ⟨next, hnext, hwf, hcontents, hsize, hmax, hinitial⟩ := advanceHead_eq h hle
      rw [if_pos rfl, if_pos rfl, hnext, pure_bind]
      split_ifs with hempty
      · obtain ⟨hwf', hnil⟩ := rbShrinkReset_wf fresh hwf
        have hlen : next.contents = [] := by
          rw [← List.length_eq_zero_iff, next.length_contents]
          exact hempty.1
        exact ⟨_, rfl, hwf', by rw [hnil, ← hcontents, hlen], Or.inr hinitial, hmax, hinitial⟩
      · exact ⟨next, rfl, hwf, hcontents, Or.inl hsize, hmax, hinitial⟩

end Read

/-! ### Writing -/

/-- A cell of a list into which another one has been copied. -/
lemma getD_splice {l ws : List Byte} {off : ℕ} (h : off + ws.length ≤ l.length) (p : ℕ) :
    (l.take off ++ (ws ++ l.drop (off + ws.length))).getD p 0 =
      if off ≤ p ∧ p < off + ws.length then ws.getD (p - off) 0 else l.getD p 0 := by
  have hlen : (l.take off).length = off := List.length_take_of_le (by omega)
  rw [List.getD_eq_getElem?_getD, List.getElem?_append, hlen]
  by_cases hbefore : p < off
  · rw [if_pos hbefore, List.getElem?_take_of_lt hbefore, if_neg (by omega),
      List.getD_eq_getElem?_getD]
  · rw [if_neg hbefore, List.getElem?_append]
    by_cases hin : p - off < ws.length
    · rw [if_pos hin, if_pos (by omega), List.getD_eq_getElem?_getD]
    · have hrest : off + ws.length + (p - off - ws.length) = p := by omega
      rw [if_neg hin, if_neg (by omega), List.getElem?_drop, hrest, List.getD_eq_getElem?_getD]

lemma length_splice {l ws : List Byte} {off : ℕ} (h : off + ws.length ≤ l.length) :
    (l.take off ++ (ws ++ l.drop (off + ws.length))).length = l.length := by
  rw [List.length_append, List.length_append, List.length_take_of_le (by omega), List.length_drop]
  omega

/-- Two ranges of cells that meet are one. -/
lemma cellsFrom_append (l : List Byte) (start m n : ℕ) :
    cellsFrom l start m ++ cellsFrom l (start + m) n = cellsFrom l start (m + n) := by
  unfold cellsFrom
  rw [List.range_add, List.map_append, List.map_map]
  refine congrArg _ (List.map_congr_left fun i _ => ?_)
  rw [Function.comp_apply, Nat.add_assoc]

/-- The list `new` is `old` with the bytes `ws` in the cells from `t` on, which go on at the
beginning behind the last one. -/
structure PutsFrom (t : ℕ) (ws old new : List Byte) : Prop where
  length_eq : new.length = old.length
  /-- The other cells keep their bytes. -/
  frame : ∀ p < old.length, (∀ j < ws.length, p ≠ (t + j) % old.length) →
    new.getD p 0 = old.getD p 0
  placed : ∀ j < ws.length, new.getD ((t + j) % old.length) 0 = ws.getD j 0

/-- One copy does it when the bytes fit behind `t`. -/
lemma putsFrom_of_fits {t : ℕ} {ws old : List Byte} (h : t + ws.length ≤ old.length) :
    PutsFrom t ws old (old.take t ++ (ws ++ old.drop (t + ws.length))) where
  length_eq := length_splice h
  frame := by
    intro p hp hne
    rw [getD_splice h, if_neg]
    rintro ⟨hle, hlt⟩
    have hmod := hne (p - t) (by omega)
    rw [Nat.add_sub_cancel' hle, Nat.mod_eq_of_lt hp] at hmod
    exact hmod rfl
  placed := by
    intro j hj
    have hmod : (t + j) % old.length = t + j := Nat.mod_eq_of_lt (by omega)
    rw [hmod, getD_splice h, if_pos ⟨Nat.le_add_right _ _, by omega⟩, Nat.add_sub_cancel_left]

/-- Two copies do it when the first one ends at the last cell. -/
lemma putsFrom_of_wrap {t : ℕ} {ws₁ ws₂ old : List Byte} (hend : t + ws₁.length = old.length)
    (hle : ws₂.length ≤ t) :
    PutsFrom t (ws₁ ++ ws₂) old
      ((old.take t ++ (ws₁ ++ old.drop (t + ws₁.length))).take 0 ++
        (ws₂ ++ (old.take t ++ (ws₁ ++ old.drop (t + ws₁.length))).drop (0 + ws₂.length))) := by
  have hlength := length_splice hend.le
  have hfits : 0 + ws₂.length ≤
      (old.take t ++ (ws₁ ++ old.drop (t + ws₁.length))).length := by omega
  refine ⟨(length_splice hfits).trans hlength, ?_, ?_⟩
  · intro p hp hne
    rw [List.length_append] at hne
    have hbehind : ws₂.length ≤ p := by
      by_contra hlt
      have hmod := hne (ws₁.length + p) (by omega)
      rw [← Nat.add_assoc, hend, Nat.add_mod_left, Nat.mod_eq_of_lt hp] at hmod
      exact hmod rfl
    have hbefore : p < t := by
      by_contra hge
      have hmod := hne (p - t) (by omega)
      rw [Nat.add_sub_cancel' (not_lt.mp hge), Nat.mod_eq_of_lt hp] at hmod
      exact hmod rfl
    rw [getD_splice hfits, if_neg (by omega), getD_splice hend.le, if_neg (by omega)]
  · intro j hj
    rw [List.length_append] at hj
    by_cases hfirst : j < ws₁.length
    · have hmod : (t + j) % old.length = t + j := Nat.mod_eq_of_lt (by omega)
      rw [hmod, getD_splice hfits, if_neg (by omega), getD_splice hend.le, if_pos (by omega),
        Nat.add_sub_cancel_left, List.getD_append _ _ _ _ hfirst]
    · have hmod : (t + j) % old.length = j - ws₁.length := by
        rw [Nat.mod_eq_sub_mod (by omega), Nat.mod_eq_of_lt (by omega)]
        omega
      rw [hmod, getD_splice hfits, if_pos (by omega), Nat.sub_zero,
        List.getD_append_right _ _ _ _ (not_lt.mp hfirst)]

section Write

variable {buf : KLRingBuffer} {src : BytePtr} {bytes : ℕ}

/-- A write of a whole buffer, at another place than its beginning. -/
def KLRingBuffer.Overruns (buf : KLRingBuffer) (bytes : ℕ) : Prop :=
  bytes = buf.size ∧ buf.head ≠ 0

/-- The bytes of a write that fit behind the contents are copied as one range. -/
lemma rbCopyIn_one (h : buf.WF) (hsrc : src.pos + bytes ≤ src.cells.length) {t : ℕ}
    (htlt : t < buf.size) (hfits : t + bytes ≤ buf.size)
    (hone : t + bytes < buf.size ∨ bytes = buf.size) :
    ∃ data, rbCopyIn buf src bytes t ((t + bytes) % buf.size) = pure data ∧
      PutsFrom t (cellsFrom src.cells src.pos bytes) buf.data data := by
  have hbranch : t ≤ (t + bytes) % buf.size := by
    rcases hone with hlt | hall
    · rw [Nat.mod_eq_of_lt hlt]
      exact Nat.le_add_right _ _
    · rw [hall, Nat.add_mod_right, Nat.mod_eq_of_lt htlt]
  have hlen : t + (cellsFrom src.cells src.pos bytes).length ≤ buf.data.length := by
    rw [length_cellsFrom, h.length_data]
    exact hfits
  refine ⟨_, ?_, putsFrom_of_fits hlen⟩
  rw [rbCopyIn, if_pos hbranch, BytePtr.copy_eq hsrc, pure_bind, copyTo_of_le _ hlen]

/-- The bytes of a write that reach the end of `data` go on at its beginning. -/
lemma rbCopyIn_two (h : buf.WF) (hsrc : src.pos + bytes ≤ src.cells.length) {t : ℕ}
    (htlt : t < buf.size) (hwrap : buf.size ≤ t + bytes) (hlt : bytes < buf.size) :
    ∃ data, rbCopyIn buf src bytes t ((t + bytes) % buf.size) = pure data ∧
      PutsFrom t (cellsFrom src.cells src.pos bytes) buf.data data := by
  have hdata := h.length_data
  have hsize := h.size_lt
  set first := cellsFrom src.cells src.pos (buf.size - t) with hfirst
  set second := cellsFrom src.cells (src.pos + (buf.size - t)) (bytes - (buf.size - t)) with hsecond
  have hlength₁ : first.length = buf.size - t := length_cellsFrom _ _ _
  have hlength₂ : second.length = bytes - (buf.size - t) := length_cellsFrom _ _ _
  have hbytes : cellsFrom src.cells src.pos bytes = first ++ second := by
    rw [hfirst, hsecond, cellsFrom_append, Nat.add_sub_cancel' (by omega)]
  have hmod : (t + bytes) % buf.size = t + bytes - buf.size := by
    rw [Nat.mod_eq_sub_mod hwrap, Nat.mod_eq_of_lt (by omega)]
  have hfits₁ : t + first.length ≤ buf.data.length := by omega
  have hfits₂ : 0 + second.length ≤
      (buf.data.take t ++ (first ++ buf.data.drop (t + first.length))).length := by
    rw [length_splice hfits₁]
    omega
  refine ⟨_, ?_, hbytes ▸ putsFrom_of_wrap (by omega) (by omega)⟩
  have hcopy₁ : src.copy (buf.size - t) = pure first := BytePtr.copy_eq (by omega)
  have hcopy₂ : (src.add (buf.size - t)).copy (bytes - (buf.size - t)) = pure second :=
    BytePtr.copy_eq (by dsimp only [BytePtr.add]; omega)
  rw [rbCopyIn, hmod, if_neg (by omega), sizeSub_eq htlt.le (by omega), pure_bind, hcopy₁,
    pure_bind, copyTo_of_le _ hfits₁, pure_bind, sizeSub_eq (by omega) (by omega), pure_bind,
    hcopy₂, pure_bind, copyTo_of_le _ hfits₂]

/-- The copies of a write put its bytes behind the contents, and leave the other cells alone. -/
lemma rbCopyIn_eq (h : buf.WF) (hsrc : src.pos + bytes ≤ src.cells.length)
    (hroom : buf.fill + bytes ≤ buf.size) (hover : ¬buf.Overruns bytes) :
    ∃ data, rbCopyIn buf src bytes ((buf.head + buf.fill) % buf.size)
        ((buf.head + buf.fill + bytes) % buf.size) = pure data ∧
      PutsFrom ((buf.head + buf.fill) % buf.size) (cellsFrom src.cells src.pos bytes) buf.data
        data := by
  have htlt : (buf.head + buf.fill) % buf.size < buf.size :=
    Nat.mod_lt _ (h.initial_pos.trans_le h.initial_le)
  rw [← Nat.mod_add_mod (buf.head + buf.fill)]
  by_cases hone : (buf.head + buf.fill) % buf.size + bytes < buf.size
  · exact rbCopyIn_one h hsrc htlt hone.le (Or.inl hone)
  · by_cases hall : bytes = buf.size
    · -- the write fills the whole buffer, which is empty and has its head at 0
      have hhead : buf.head = 0 := by
        by_contra hne
        exact hover ⟨hall, hne⟩
      have hfill : buf.fill = 0 := by omega
      have htail : (buf.head + buf.fill) % buf.size = 0 := by
        rw [hhead, hfill, Nat.zero_mod]
      exact rbCopyIn_one h hsrc htlt (by rw [htail, hall, Nat.zero_add]) (Or.inr hall)
    · exact rbCopyIn_two h hsrc htlt (not_lt.mp hone) (by omega)

/-- With room a write appends its bytes. -/
lemma rbStore_eq (h : buf.WF) (hsrc : src.pos + bytes ≤ src.cells.length)
    (hroom : buf.fill + bytes ≤ buf.size) (hover : ¬buf.Overruns bytes) :
    ∃ next, rbStore buf src bytes = pure (bytes, next) ∧ next.WF ∧
      next.contents = buf.contents ++ cellsFrom src.cells src.pos bytes ∧
      next.size = buf.size ∧ next.sizeMax = buf.sizeMax ∧ next.sizeInitial = buf.sizeInitial := by
  have hsize_pos : 0 < buf.size := h.initial_pos.trans_le h.initial_le
  have hhead := h.head_lt
  have hsize := h.size_lt
  obtain ⟨data, hcopy, hlen, hframe, hnew⟩ := rbCopyIn_eq h hsrc hroom hover
  rw [h.length_data] at hlen hframe hnew
  simp only [length_cellsFrom, Nat.mod_add_mod] at hframe hnew
  refine ⟨{ buf with data, fill := buf.fill + bytes }, ?_, ?_, ?_, rfl, rfl, rfl⟩
  · rw [rbStore, sizeAdd_eq (by omega), pure_bind, sizeMod_eq hsize_pos, pure_bind,
      sizeAdd_eq (by omega), pure_bind, sizeMod_eq hsize_pos, pure_bind, hcopy, pure_bind,
      sizeAdd_eq (by omega), pure_bind]
  · exact ⟨hlen, hhead, hroom, h.initial_pos, h.initial_le, hsize⟩
  · have hbs : (cellsFrom src.cells src.pos bytes).length = bytes := length_cellsFrom _ _ _
    have happend := @Ring.window_append Byte (fun p => buf.data.getD p 0) (fun p => data.getD p 0)
      buf.size buf.head buf.fill (cellsFrom src.cells src.pos bytes) (by rwa [hbs])
      (fun p hp hne => hframe p hp fun j hj => hne j (by rwa [hbs]))
      (fun j hj => by rw [hnew j (hbs ▸ hj), List.getD_eq_getElem])
    rwa [hbs] at happend

/-- A buffer that grows keeps its contents if they do not wrap. -/
lemma rbGrow_eq (fresh : ℕ → Byte) (h : buf.WF) {increment : ℕ}
    (hfits : buf.size + increment < 2 ^ 63) (hmax : buf.size + increment ≤ buf.sizeMax) :
    ∃ grown, rbGrow fresh buf increment = pure (0, grown) ∧ grown.WF ∧
      grown.size = buf.size + increment ∧ grown.head = buf.head ∧ grown.fill = buf.fill ∧
      grown.sizeMax = buf.sizeMax ∧ grown.sizeInitial = buf.sizeInitial ∧
      (buf.Unwrapped → grown.contents = buf.contents) := by
  obtain ⟨hdata, hhead, hfill, hpos, hinitial, hsize⟩ := h
  refine ⟨{ buf with
      data := reallocTo fresh buf.data (buf.size + increment)
      size := buf.size + increment }, ?_, ?_, rfl, rfl, rfl, rfl, rfl, ?_⟩
  · rw [rbGrow, sizeAdd_eq (by omega), pure_bind, if_neg (not_lt.mpr hmax)]
  · exact ⟨length_reallocTo _ _ _, by dsimp only; omega, by dsimp only; omega, hpos,
      by dsimp only; omega, hfits⟩
  · intro hwrap
    refine Ring.window_grow hwrap (Nat.le_add_right _ _) fun p hp => ?_
    rw [reallocTo_of_le _ (by omega), List.getD_append _ _ _ _ (by omega)]

/-- A write that finds room appends its bytes. -/
theorem rbWrite_of_room (fresh : ℕ → Byte) (h : buf.WF)
    (hsrc : src.pos + bytes ≤ src.cells.length) (hroom : buf.fill + bytes ≤ buf.size)
    (hover : ¬buf.Overruns bytes) :
    ∃ next, rbWrite fresh buf src bytes = pure (bytes, next) ∧ next.WF ∧
      next.contents = buf.contents ++ cellsFrom src.cells src.pos bytes ∧
      next.size = buf.size ∧ next.sizeMax = buf.sizeMax ∧ next.sizeInitial = buf.sizeInitial := by
  have hsize := h.size_lt
  have hremain : rbRemain buf = pure (buf.size - buf.fill) := sizeSub_eq h.fill_le (by omega)
  obtain ⟨next, hstore, hnext⟩ := rbStore_eq h hsrc hroom hover
  refine ⟨next, ?_, hnext⟩
  rw [rbWrite, hremain, pure_bind, if_neg (by omega), pure_bind]
  exact (if_neg (lt_irrefl 0)).trans hstore

/-- A write that finds too little room makes the buffer larger and appends its bytes to what has
become of the contents. -/
theorem rbWrite_of_grow (fresh : ℕ → Byte) (h : buf.WF)
    (hsrc : src.pos + bytes ≤ src.cells.length) (hroom : buf.size - buf.fill < bytes)
    (hmax : buf.size + bytes * 128 ≤ buf.sizeMax) (hfits : buf.size + bytes * 128 < 2 ^ 63) :
    ∃ old next, rbWrite fresh buf src bytes = pure (bytes, next) ∧ next.WF ∧
      next.contents = old ++ cellsFrom src.cells src.pos bytes ∧ old.length = buf.fill ∧
      (buf.Unwrapped → old = buf.contents) ∧ next.size = buf.size + bytes * 128 ∧
      next.sizeMax = buf.sizeMax ∧ next.sizeInitial = buf.sizeInitial := by
  have hfill := h.fill_le
  have hremain : rbRemain buf = pure (buf.size - buf.fill) := sizeSub_eq hfill (by omega)
  obtain ⟨grown, hgrow, hwf, hsize, -, hsame, hmax', hinitial, hcontents⟩ :=
    rbGrow_eq fresh h hfits hmax
  have hover : ¬grown.Overruns bytes := by
    rintro ⟨hall, -⟩
    omega
  obtain ⟨next, hstore, hnext, happend, hsize', hmax'', hinitial'⟩ :=
    rbStore_eq hwf hsrc (by omega) hover
  refine ⟨grown.contents, next, ?_, hnext, happend, ?_, hcontents, hsize'.trans hsize,
    hmax''.trans hmax', hinitial'.trans hinitial⟩
  · rw [rbWrite, hremain, pure_bind, if_pos hroom, sizeMul_eq (by omega), pure_bind, hgrow,
      pure_bind]
    exact (if_neg (lt_irrefl 0)).trans hstore
  · rw [grown.length_contents, hsame]

/-- A write that finds too little room and cannot get it changes nothing. -/
theorem rbWrite_of_refuse (fresh : ℕ → Byte) (h : buf.WF) (hroom : buf.size - buf.fill < bytes)
    (hmax : buf.sizeMax < buf.size + bytes * 128) (hfits : buf.size + bytes * 128 < 2 ^ 64) :
    rbWrite fresh buf src bytes = pure (0, buf) := by
  have hsize := h.size_lt
  have hremain : rbRemain buf = pure (buf.size - buf.fill) := sizeSub_eq h.fill_le (by omega)
  rw [rbWrite, hremain, pure_bind, if_pos hroom, sizeMul_eq (by omega), pure_bind, rbGrow,
    sizeAdd_eq hfits, pure_bind, if_pos hmax, pure_bind]
  exact if_pos (by norm_num)

end Write

end Libklvanc
