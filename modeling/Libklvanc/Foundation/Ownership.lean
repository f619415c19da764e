import Mathlib

/-!
# Blocks of memory and their owners

A program that allocates and frees runs on the set of the blocks that are live. It has no result
when it frees a block that is not live, and so a result says that no block is freed twice.

`Transfers m pre Q` says what `m` does to the blocks that it is given: whatever other blocks are
live, `m` has a result, it frees no block but those in `pre` and those it has allocated itself, and
the result and the blocks that it leaves are related by `Q`. The other blocks are the frame, and
hence the rule for a sequence (`Transfers.bind`) and the one for a loop (`transfers_foldlM`) need no
side condition.
-/

namespace Ownership

/-! ### Programs -/

/-- The blocks that are live, and the next one to be handed out. -/
structure Heap where
  live : Finset ℕ
  next : ℕ
  lt_next : ∀ b ∈ live, b < next

/-- A program that allocates and frees blocks. -/
abbrev Program : Type → Type := StateT Heap Option

/-- No block is live. -/
def Heap.empty : Heap where
  live := ∅
  next := 0
  lt_next := fun b hb => absurd hb (Finset.notMem_empty b)

/-- The block handed out is not live. -/
lemma Heap.next_notMem (h : Heap) : h.next ∉ h.live := fun hmem => lt_irrefl _ (h.lt_next _ hmem)

lemma Heap.lt_next_insert (h : Heap) : ∀ b ∈ insert h.next h.live, b < h.next + 1 := by
  intro b hb
  rcases Finset.mem_insert.mp hb with rfl | hb
  · exact Nat.lt_succ_self _
  · exact Nat.lt_succ_of_lt (h.lt_next b hb)

lemma Heap.lt_next_erase (h : Heap) (b : ℕ) : ∀ b' ∈ h.live.erase b, b' < h.next :=
  fun b' hb' => h.lt_next b' (Finset.mem_of_mem_erase hb')

/-- Allocate a block; the allocation succeeds. -/
def alloc : Program ℕ := fun h =>
  some (h.next, { live := insert h.next h.live, next := h.next + 1, lt_next := h.lt_next_insert })

/-- Free a block. -/
def free (b : ℕ) : Program Unit := fun h =>
  if b ∈ h.live then
    some ((), { live := h.live.erase b, next := h.next, lt_next := h.lt_next_erase b })
  else none

/-- Free what a pointer points to; it may be null. -/
def freePtr : Option ℕ → Program Unit
  | none => pure ()
  | some b => free b

/-- Free some blocks one after the other. -/
def freeAll : List ℕ → Program Unit
  | [] => pure ()
  | b :: bs => do
    free b
    freeAll bs

/-! ### What a program does to its blocks -/

section Rules

variable {α β ι : Type} {m : Program α} {f : α → Program β} {pre : Multiset ℕ}
  {Q R : α → Multiset ℕ → Prop} {S : β → Multiset ℕ → Prop}

/-- Given the blocks `pre` and any others, `m` has a result and leaves the others alone; `Q` relates
the result and the blocks left of the given ones and those allocated. -/
def Transfers (m : Program α) (pre : Multiset ℕ) (Q : α → Multiset ℕ → Prop) : Prop :=
  ∀ (frame : Multiset ℕ) (h : Heap), h.live.val = pre + frame →
    ∃ a post h', m h = some (a, h') ∧ Q a post ∧ h'.live.val = post + frame

/-- A program that does nothing. -/
lemma Transfers.pure {a : α} (h : Q a pre) : Transfers (Pure.pure a) pre Q :=
  fun _ heap hlive => ⟨a, pre, heap, rfl, h, hlive⟩

/-- A program and then another one. -/
lemma Transfers.bind (hm : Transfers m pre R) (hf : ∀ a mid, R a mid → Transfers (f a) mid S) :
    Transfers (m >>= f) pre S := by
  intro frame h hlive
  obtain ⟨a, mid, h', hrun, hR, hmid⟩ := hm frame h hlive
  obtain ⟨b, post, h'', hrun', hS, hpost⟩ := hf a mid hR frame h' hmid
  refine ⟨b, post, h'', ?_, hS, hpost⟩
  change (m h).bind (fun p => f p.1 p.2) = some (b, h'')
  rw [hrun]
  exact hrun'

/-- Less may be said about the result. -/
lemma Transfers.weaken (hm : Transfers m pre Q) (h : ∀ a post, Q a post → R a post) :
    Transfers m pre R := by
  intro frame heap hlive
  obtain ⟨a, post, h', hrun, hQ, hpost⟩ := hm frame heap hlive
  exact ⟨a, post, h', hrun, h a post hQ, hpost⟩

/-- A program leaves blocks alone that it is not given. -/
lemma Transfers.frame (hm : Transfers m pre Q) (others : Multiset ℕ) :
    Transfers m (pre + others) fun a post => ∃ own, Q a own ∧ post = own + others := by
  intro frame h hlive
  rw [add_assoc] at hlive
  obtain ⟨a, post, h', hrun, hQ, hpost⟩ := hm (others + frame) h hlive
  exact ⟨a, post + others, h', hrun, ⟨post, hQ, rfl⟩, by rw [hpost, add_assoc]⟩

/-- A block is allocated and given to the rest of the program. -/
lemma transfers_alloc {f : ℕ → Program β} (hf : ∀ b, Transfers (f b) ({b} + pre) S) :
    Transfers (alloc >>= f) pre S := by
  intro frame h hlive
  have hinsert : (insert h.next h.live).val = {h.next} + pre + frame := by
    rw [Finset.insert_val_of_notMem h.next_notMem, hlive, add_assoc, Multiset.singleton_add]
  obtain ⟨b, post, h', hrun, hS, hpost⟩ :=
    hf h.next frame ⟨insert h.next h.live, h.next + 1, h.lt_next_insert⟩ hinsert
  exact ⟨b, post, h', hrun, hS, hpost⟩

/-- A block that has been given is freed. -/
lemma transfers_free {b : ℕ} {f : Unit → Program β} (hf : Transfers (f ()) pre S) :
    Transfers (free b >>= f) ({b} + pre) S := by
  intro frame h hlive
  have hmem : b ∈ h.live := by
    rw [← Finset.mem_val, hlive, add_assoc, Multiset.singleton_add]
    exact Multiset.mem_cons_self _ _
  have herase : (h.live.erase b).val = pre + frame := by
    rw [Finset.erase_val, hlive, add_assoc, Multiset.singleton_add, Multiset.erase_cons_head]
  obtain ⟨a, post, h', hrun, hS, hpost⟩ :=
    hf frame ⟨h.live.erase b, h.next, h.lt_next_erase b⟩ herase
  refine ⟨a, post, h', ?_, hS, hpost⟩
  change (free b h).bind (fun p => f p.1 p.2) = some (a, h')
  rw [free, if_pos hmem]
  exact hrun

/-- The block that a pointer points to, if there is one. -/
def ofPtr : Option ℕ → Multiset ℕ
  | none => 0
  | some b => {b}

/-- What a pointer points to is freed. -/
lemma transfers_freePtr {p : Option ℕ} {f : Unit → Program β} (hf : Transfers (f ()) pre S) :
    Transfers (freePtr p >>= f) (ofPtr p + pre) S := by
  cases p with
  | none =>
    rw [ofPtr, zero_add]
    exact hf
  | some b => exact transfers_free hf

/-- Blocks that have been given are freed. -/
lemma transfers_freeAll {bs : List ℕ} {f : Unit → Program β} (hf : Transfers (f ()) pre S) :
    Transfers (freeAll bs >>= f) ((bs : Multiset ℕ) + pre) S := by
  induction bs with
  | nil =>
    rw [Multiset.coe_nil, zero_add]
    exact hf
  | cons b bs ih =>
    rw [freeAll, bind_assoc, ← Multiset.cons_coe, ← Multiset.singleton_add, add_assoc]
    exact transfers_free ih

/-- A loop whose rounds each do to the state what `g` does, and leave the blocks of the state. -/
lemma transfers_foldlM {σ : Type} {own : σ → Multiset ℕ} {step : σ → ι → Program σ} {g : σ → ι → σ}
    {is : List ι} (hstep : ∀ s, ∀ i ∈ is, Transfers (step s i) (own s)
      fun s' post => s' = g s i ∧ post = own s') (s : σ) :
    Transfers (is.foldlM step s) (own s) fun s' post => s' = is.foldl g s ∧ post = own s' := by
  induction is generalizing s with
  | nil => exact Transfers.pure ⟨rfl, rfl⟩
  | cons i is ih =>
    rw [List.foldlM_cons, List.foldl_cons]
    refine (hstep s i List.mem_cons_self).bind ?_
    rintro s' mid ⟨rfl, rfl⟩
    exact ih (fun s j hj => hstep s j (List.mem_cons_of_mem i hj)) _

/-- A program that is given no block, run on its own. -/
lemma Transfers.run_empty (hm : Transfers m 0 Q) :
    ∃ a h', m Heap.empty = some (a, h') ∧ Q a h'.live.val := by
  obtain ⟨a, post, h', hrun, hQ, hpost⟩ := hm 0 Heap.empty rfl
  rw [add_zero] at hpost
  exact ⟨a, h', hrun, by rwa [hpost]⟩

end Rules

/-! ### Tables of pointers -/

section Table

variable {κ : Type} {keys : Finset κ} {ptrs : κ → Option ℕ}

/-- The blocks that the pointers of a table point to. -/
def table (keys : Finset κ) (ptrs : κ → Option ℕ) : Multiset ℕ := ∑ k ∈ keys, ofPtr (ptrs k)

/-- A pointer of a table is replaced. -/
lemma table_update [DecidableEq κ] {k : κ} (hk : k ∈ keys) (p : Option ℕ) :
    table keys (Function.update ptrs k p) + ofPtr (ptrs k) = table keys ptrs + ofPtr p := by
  have hrest : ∀ p, table keys (Function.update ptrs k p) =
      ofPtr p + ∑ j ∈ keys \ {k}, ofPtr (ptrs j) := by
    intro p
    have hcomp : (fun j => ofPtr (Function.update ptrs k p j)) =
        Function.update (fun j => ofPtr (ptrs j)) k (ofPtr p) :=
      Function.comp_update ofPtr ptrs k p
    rw [table, hcomp, Finset.sum_update_of_mem hk]
  have hself := hrest (ptrs k)
  rw [Function.update_eq_self] at hself
  rw [hrest, hself]
  abel

/-- A table of null pointers. -/
@[simp] lemma table_none : table keys (fun _ => none) = 0 :=
  Finset.sum_eq_zero fun _ _ => rfl

/-- A table has as many blocks as pointers that are not null. -/
lemma card_table : (table keys ptrs).card = (keys.filter fun k => (ptrs k).isSome).card := by
  rw [table, Multiset.card_sum, Finset.card_filter]
  refine Finset.sum_congr rfl fun k _ => ?_
  cases ptrs k <;> rfl

end Table

end Ownership
