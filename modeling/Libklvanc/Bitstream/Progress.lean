import Libklvanc.Bitstream.Reader

/-!
# Reading past the end

`KlbsContext.Reads` speaks of readers that stay inside the announced size. What every reader does,
also one that has left it, is to make progress (`KlbsContext.Progress`): the octets loaded and the
faults met only grow, and a load from outside the buffer is a fault. A reader that is asked for more
bits than are left goes past the end (`Reads.readBits_past`) and stays there (`Progress.past`).
-/

namespace Libklvanc

/-- What reading can do to a context. -/
structure KlbsContext.Progress (ctx ctx' : KlbsContext) : Prop where
  buf_eq : ctx'.buf = ctx.buf
  buflen_eq : ctx'.buflen = ctx.buflen
  used_le : ctx.buflenUsed ≤ ctx'.buflenUsed
  faults : ctx.faults <+: ctx'.faults
  /-- If the octets loaded so far from outside the buffer are among the faults, they still are. -/
  unsafe_of_lt : (ctx.buf.length < ctx.buflenUsed → ctx.faults ≠ []) →
    ctx'.buf.length < ctx'.buflenUsed → ctx'.faults ≠ []

/-- The reader has loaded more octets than were announced. -/
def KlbsContext.Past (ctx : KlbsContext) : Prop := ctx.buflen < ctx.buflenUsed

namespace KlbsContext.Progress

variable {ctx ctx₁ ctx₂ : KlbsContext}

/-- Nothing has happened. -/
lemma refl (ctx : KlbsContext) : ctx.Progress ctx :=
  ⟨rfl, rfl, le_rfl, List.prefix_refl _, fun h => h⟩

/-- Two steps. -/
lemma trans (h₁ : ctx.Progress ctx₁) (h₂ : ctx₁.Progress ctx₂) : ctx.Progress ctx₂ where
  buf_eq := h₂.buf_eq.trans h₁.buf_eq
  buflen_eq := h₂.buflen_eq.trans h₁.buflen_eq
  used_le := h₁.used_le.trans h₂.used_le
  faults := h₁.faults.trans h₂.faults
  unsafe_of_lt h := h₂.unsafe_of_lt (h₁.unsafe_of_lt h)

/-- A reader that is past the end stays there. -/
lemma past (h : ctx.Progress ctx₁) (hpast : ctx.Past) : ctx₁.Past := by
  unfold KlbsContext.Past at hpast ⊢
  rw [h.buflen_eq]
  exact hpast.trans_le h.used_le

/-- A fault that has been met is kept. -/
lemma faults_ne_nil (h : ctx.Progress ctx₁) (hne : ctx.faults ≠ []) : ctx₁.faults ≠ [] :=
  h.faults.ne_nil hne

/-- Recording faults. -/
lemma addFaults (ctx : KlbsContext) (faults : List Fault) :
    ctx.Progress { ctx with faults := ctx.faults ++ faults } :=
  ⟨rfl, rfl, le_rfl, List.prefix_append _ _, fun h hlt =>
    List.append_ne_nil_of_left_ne_nil (h hlt) _⟩

/-- Changing the register. -/
lemma register (ctx : KlbsContext) (reg : Byte) (regUsed : ℕ) :
    ctx.Progress { ctx with reg := reg, regUsed := regUsed } :=
  ⟨rfl, rfl, le_rfl, List.prefix_refl _, fun h => h⟩

/-- The assertion only records a fault. -/
lemma assertUsed (ctx : KlbsContext) : ctx.Progress (klbsAssertUsed ctx) := by
  unfold klbsAssertUsed
  split_ifs
  · exact refl ctx
  · exact addFaults ctx _

/-- Loading an octet. -/
lemma load (ctx : KlbsContext) : ctx.Progress (klbsLoad ctx).2 := by
  refine ⟨rfl, rfl, Nat.le_succ _, List.prefix_append _ _, fun _ hlt => ?_⟩
  have hout : ¬ctx.buflenUsed < ctx.buf.length := by
    simp only [klbsLoad] at hlt
    omega
  simp [klbsLoad, readAt, Checked.read_faults, hout]

/-- `klbs_read_bit`. -/
lemma readBit (ctx : KlbsContext) : ctx.Progress (klbsReadBit ctx).2 := by
  unfold klbsReadBit
  refine (assertUsed ctx).trans ?_
  generalize klbsAssertUsed ctx = ctx
  dsimp only
  split_ifs with h₁ h₂ h₂
  · exact (load ctx).trans (register _ _ _)
  · exact (load ctx).trans (register _ _ _)
  · exact register _ _ _
  · exact refl ctx

/-- The loop of `klbs_read_bits`. -/
lemma readBitsLoop (ctx : KlbsContext) (w : ℕ) (acc : BitVec 64) :
    ctx.Progress (klbsReadBitsLoop w ctx acc).2 := by
  induction w generalizing ctx acc with
  | zero => exact refl ctx
  | succ w ih => exact (readBit ctx).trans (ih _ _)

/-- `klbs_read_bits`. -/
lemma readBits (ctx : KlbsContext) (w : ℕ) : ctx.Progress (klbsReadBits ctx w).2 := by
  unfold klbsReadBits
  split_ifs
  · exact load ctx
  · exact readBitsLoop ctx w 0

/-- `klbs_peek_bits` keeps the faults of the copy. -/
lemma peekBits (ctx : KlbsContext) (w : ℕ) : ctx.Progress (klbsPeekBits ctx w).2 := by
  have hprefix := (readBits ctx w).faults
  exact ⟨rfl, rfl, le_rfl, hprefix, fun h hlt => hprefix.ne_nil (h hlt)⟩

/-- `klbs_read_byte_stuff`. -/
lemma readByteStuff (ctx : KlbsContext) : ctx.Progress (klbsReadByteStuff ctx) := by
  suffices hloop : ∀ fuel, ctx.Progress (klbsReadByteStuffLoop fuel ctx) from hloop 8
  intro fuel
  induction fuel generalizing ctx with
  | zero => exact refl ctx
  | succ fuel ih =>
    unfold klbsReadByteStuffLoop
    split_ifs
    · exact (readBit ctx).trans (ih _)
    · exact refl ctx

end KlbsContext.Progress

namespace KlbsContext.Reads

variable {ctx : KlbsContext} {rest : List Bool}

/-- Reading a bit behind the last one goes past the end. -/
lemma readBit_past (h : ctx.Reads []) : (klbsReadBit ctx).2.Past := by
  have hlen := h.length_eq
  have hle := h.used_le
  rw [List.length_nil] at hlen
  have hreg : ctx.regUsed = 0 := by omega
  unfold klbsReadBit KlbsContext.Past
  rw [h.assertUsed]
  simp only [hreg, if_true, le_refl, klbsLoad]
  omega

/-- Reading more bits than are left goes past the end. -/
lemma readBits_past (h : ctx.Reads rest) {w : ℕ} (hw : rest.length < w) :
    (klbsReadBits ctx w).2.Past := by
  unfold klbsReadBits
  split_ifs with hfast
  · have hlen := h.length_eq
    have hle := h.used_le
    simp only [KlbsContext.Past, klbsLoad]
    omega
  · clear hfast
    generalize (0 : BitVec 64) = acc
    induction rest generalizing ctx w acc with
    | nil =>
      obtain ⟨w, rfl⟩ : ∃ n, w = n + 1 := ⟨w - 1, by rw [List.length_nil] at hw; omega⟩
      exact (Progress.readBitsLoop _ w _).past h.readBit_past
    | cons b rest ih =>
      rw [List.length_cons] at hw
      obtain ⟨w, rfl⟩ : ∃ n, w = n + 1 := ⟨w - 1, by omega⟩
      obtain ⟨ctx', hread, h', -, -, -⟩ := KlbsContext.Reads.readBit h
      rw [klbsReadBitsLoop, hread]
      exact ih h' (by omega) _

end KlbsContext.Reads

/-- A reader that has gone past the end of a buffer of the announced size has met a fault. -/
lemma KlbsContext.Progress.faults_ne_nil_of_past {buf : List Byte} {cap : ℕ} {ctx : KlbsContext}
    (h : (klbsReadSetBuffer buf cap).Progress ctx) (hcap : buf.length ≤ cap) (hpast : ctx.Past) :
    ctx.faults ≠ [] := by
  refine h.unsafe_of_lt (fun hlt => absurd hlt (Nat.not_lt_zero _)) ?_
  rw [h.buf_eq]
  have hlen : ctx.buflen = cap := h.buflen_eq
  rw [KlbsContext.Past, hlen] at hpast
  exact lt_of_le_of_lt hcap hpast

end Libklvanc
