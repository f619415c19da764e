import Mathlib

/-!
# Computations that record their faults

A low-level program may reach a step that its language leaves undefined or that stops it: an access
outside an object, a failed assertion, an abort. `Checked φ α` is a value of type `α` together with
the list of the faults of type `φ` met on the way, oldest first. A computation whose fault list is
empty is `Safe`, and it is exactly then that its value is the value the program computes; after a
fault the value is only a placeholder, so results are always stated together with safety.

Reads of a buffer are the basic partial operation: `read` at one index and `readRange` over a range
record a fault for every index outside the buffer.
-/

/-- A value together with the faults met while computing it, oldest first. -/
@[ext]
structure Checked (φ α : Type) where
  /-- The computed value, a placeholder once a fault is recorded. -/
  val : α
  /-- The faults met on the way, oldest first. -/
  faults : List φ
  deriving DecidableEq

namespace Checked

variable {φ α β : Type}

instance : Monad (Checked φ) where
  pure a := ⟨a, []⟩
  bind x f := ⟨(f x.val).val, x.faults ++ (f x.val).faults⟩

/-- Record the fault `f` and carry on with the placeholder `a`. -/
def fault (f : φ) (a : α) : Checked φ α := ⟨a, [f]⟩

/-- No fault was met: the value is the one the program computes. -/
def Safe (x : Checked φ α) : Prop := x.faults = []

instance (x : Checked φ α) : Decidable x.Safe :=
  decidable_of_iff (x.faults.isEmpty = true) List.isEmpty_iff

/-! ### The two components of the monad operations -/

@[simp] theorem pure_val (a : α) : (pure a : Checked φ α).val = a := rfl

@[simp] theorem pure_faults (a : α) : (pure a : Checked φ α).faults = [] := rfl

@[simp] theorem bind_val (x : Checked φ α) (f : α → Checked φ β) :
    (x >>= f).val = (f x.val).val := rfl

@[simp] theorem bind_faults (x : Checked φ α) (f : α → Checked φ β) :
    (x >>= f).faults = x.faults ++ (f x.val).faults := rfl

@[simp] theorem map_val (x : Checked φ α) (f : α → β) : (f <$> x).val = f x.val := rfl

@[simp] theorem map_faults (x : Checked φ α) (f : α → β) : (f <$> x).faults = x.faults :=
  List.append_nil _

@[simp] theorem fault_val (f : φ) (a : α) : (fault f a).val = a := rfl

@[simp] theorem fault_faults (f : φ) (a : α) : (fault f a).faults = [f] := rfl

instance : LawfulMonad (Checked φ) := LawfulMonad.mk' _
  (fun _ => Checked.ext rfl (List.append_nil _))
  (fun _ _ => Checked.ext rfl (List.nil_append _))
  (fun _ _ _ => Checked.ext rfl (List.append_assoc _ _ _))

/-! ### Safety of a composition -/

/-- A value computed without a step is safe. -/
@[simp] theorem safe_pure (a : α) : (pure a : Checked φ α).Safe := rfl

/-- A recorded fault is not safe. -/
@[simp] theorem not_safe_fault (f : φ) (a : α) : ¬(fault f a).Safe := by
  simp [Safe]

/-- A sequence of two steps is safe exactly when both are, the second on the value of the first. -/
@[simp] theorem safe_bind {x : Checked φ α} {f : α → Checked φ β} :
    (x >>= f).Safe ↔ x.Safe ∧ (f x.val).Safe := by
  simp [Safe]

/-- Applying a function to the value does not change safety. -/
@[simp] theorem safe_map {x : Checked φ α} {f : α → β} : (f <$> x).Safe ↔ x.Safe := by
  simp [Safe]

/-- A loop whose round `k` takes the state `s k` to the state `s (k + 1)`. -/
lemma foldlM_range {σ : Type} {f : σ → ℕ → Checked φ σ} {s : ℕ → σ} {n : ℕ}
    (h : ∀ k < n, f (s k) k = pure (s (k + 1))) : (List.range n).foldlM f (s 0) = pure (s n) := by
  induction n with
  | zero => rfl
  | succ n ih =>
    have hn := ih fun k hk => h k (Nat.lt_succ_of_lt hk)
    rw [List.range_succ, List.foldlM_append, hn, pure_bind, List.foldlM_cons,
      h n (Nat.lt_succ_self n), pure_bind, List.foldlM_nil]

/-! ### Reading a buffer -/

section Read

variable (oob : ℕ → φ) (dflt : α) (l : List α)

/-- Read the buffer `l` at index `i`, recording `oob i` when `i` lies outside it. -/
def read (i : ℕ) : Checked φ α :=
  match l[i]? with
  | some a => pure a
  | none => fault (oob i) dflt

/-- Read `count` cells of the buffer `l` from index `start` on, recording `oob i` for every index
`i` read outside it. -/
def readRange (start : ℕ) : ℕ → Checked φ (List α)
  | 0 => pure []
  | count + 1 => do
    let a ← read oob dflt l start
    let as ← readRange (start + 1) count
    pure (a :: as)

/-- The value of a read. -/
@[simp] theorem read_val (i : ℕ) : (read oob dflt l i).val = l.getD i dflt := by
  unfold read
  cases h : l[i]? <;> simp [List.getD, h]

/-- The faults of a read. -/
theorem read_faults (i : ℕ) :
    (read oob dflt l i).faults = if i < l.length then [] else [oob i] := by
  unfold read
  split_ifs with h
  · simp [List.getElem?_eq_getElem h]
  · simp [List.getElem?_eq_none (not_lt.mp h)]

/-- A read is safe exactly inside the buffer. -/
@[simp] theorem safe_read {i : ℕ} : (read oob dflt l i).Safe ↔ i < l.length := by
  rw [Safe, read_faults]
  split_ifs with h <;> simp [h]

/-- A read inside the buffer. -/
lemma read_of_lt {i : ℕ} (h : i < l.length) : read oob dflt l i = pure (l.getD i dflt) :=
  Checked.ext (read_val oob dflt l i) ((safe_read oob dflt l).mpr h)

/-- A fault of a read is its index, which lies outside the buffer. -/
theorem mem_read_faults {i : ℕ} {f : φ} :
    f ∈ (read oob dflt l i).faults ↔ l.length ≤ i ∧ f = oob i := by
  rw [read_faults]
  split_ifs with h
  · simp [h]
  · simp [not_lt.mp h]

/-- A range read returns as many cells as were asked for. -/
@[simp] theorem readRange_length (start count : ℕ) :
    (readRange oob dflt l start count).val.length = count := by
  induction count generalizing start with
  | zero => rfl
  | succ count ih => simp [readRange, ih]

/-- The faults of a range read are the indices of the range that lie outside the buffer. -/
theorem mem_readRange_faults {start count : ℕ} {f : φ} :
    f ∈ (readRange oob dflt l start count).faults ↔
      ∃ i, start ≤ i ∧ i < start + count ∧ l.length ≤ i ∧ f = oob i := by
  induction count generalizing start with
  | zero =>
    simp only [readRange, pure_faults, List.not_mem_nil, false_iff]
    rintro ⟨i, h₁, h₂, -⟩
    omega
  | succ count ih =>
    simp only [readRange, bind_faults, pure_faults, List.append_nil, List.mem_append,
      mem_read_faults, ih]
    constructor
    · rintro (⟨hl, rfl⟩ | ⟨i, h₁, h₂, hl, rfl⟩)
      · exact ⟨start, le_rfl, by omega, hl, rfl⟩
      · exact ⟨i, by omega, by omega, hl, rfl⟩
    · rintro ⟨i, h₁, h₂, hl, rfl⟩
      rcases h₁.eq_or_lt with rfl | h₁
      · exact Or.inl ⟨hl, rfl⟩
      · exact Or.inr ⟨i, h₁, by omega, hl, rfl⟩

/-- A range read is safe exactly when the whole range lies inside the buffer. -/
theorem safe_readRange {start count : ℕ} :
    (readRange oob dflt l start count).Safe ↔ count = 0 ∨ start + count ≤ l.length := by
  rw [Safe, List.eq_nil_iff_forall_not_mem]
  constructor
  · intro h
    by_contra hc
    refine h (oob (start + count - 1)) ((mem_readRange_faults ..).mpr ?_)
    exact ⟨start + count - 1, by omega, by omega, by omega, rfl⟩
  · intro h f hf
    obtain ⟨i, h₁, h₂, hl, -⟩ := (mem_readRange_faults ..).mp hf
    omega

/-- Inside the buffer a range read returns the cells of the range. -/
theorem readRange_val_of_le {start count : ℕ} (h : start + count ≤ l.length) :
    (readRange oob dflt l start count).val = (l.drop start).take count := by
  induction count generalizing start with
  | zero => simp [readRange]
  | succ count ih =>
    have hs : start < l.length := by omega
    rw [List.drop_eq_getElem_cons hs, List.take_succ_cons]
    simp [readRange, ih (show start + 1 + count ≤ l.length by omega), List.getD, hs]

end Read

/-! ### Faults of one kind -/

section Avoids

variable {P : φ → Prop}

/-- The computation meets no fault of the kind `P`. -/
def Avoids (P : φ → Prop) (x : Checked φ α) : Prop := ∀ f ∈ x.faults, ¬P f

@[simp] lemma avoids_pure (a : α) : (pure a : Checked φ α).Avoids P :=
  fun _ hf => absurd hf List.not_mem_nil

/-- A sequence of two steps avoids a kind of faults exactly when both do. -/
@[simp] lemma avoids_bind {x : Checked φ α} {f : α → Checked φ β} :
    (x >>= f).Avoids P ↔ x.Avoids P ∧ (f x.val).Avoids P := by
  simp only [Avoids, bind_faults, List.mem_append, or_imp, forall_and]

/-- Applying a function to the value meets no fault. -/
@[simp] lemma avoids_map {x : Checked φ α} {f : α → β} : (f <$> x).Avoids P ↔ x.Avoids P := by
  rw [Avoids, map_faults, Avoids]

/-- A read meets its own kind of faults exactly outside the buffer. -/
lemma avoids_read {oob : ℕ → φ} {dflt : α} {l : List α} {i : ℕ} :
    (read oob dflt l i).Avoids P ↔ i < l.length ∨ ¬P (oob i) := by
  simp only [Avoids, mem_read_faults, and_imp, forall_eq_apply_imp_iff]
  rw [← not_lt]
  tauto

/-- A range read meets its own kind of faults exactly outside the buffer. -/
lemma avoids_readRange {oob : ℕ → φ} {dflt : α} {l : List α} {start count : ℕ} :
    (readRange oob dflt l start count).Avoids P ↔
      ∀ i, start ≤ i → i < start + count → i < l.length ∨ ¬P (oob i) := by
  simp only [Avoids, mem_readRange_faults]
  constructor
  · intro h i h₁ h₂
    by_contra hnot
    rw [not_or, not_lt, not_not] at hnot
    exact h _ ⟨i, h₁, h₂, hnot.1, rfl⟩ hnot.2
  · rintro h f ⟨i, h₁, h₂, hl, rfl⟩
    exact (h i h₁ h₂).resolve_left (not_lt.mpr hl)

end Avoids

end Checked
