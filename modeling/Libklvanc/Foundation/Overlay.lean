import Mathlib

/-!
# Buffers written cell by cell

A program that fills a buffer through several pointers writes its cells in an order of its own.
`overlay old new` is the buffer `old` after the cells at which the partial function `new` is defined
have been written: one more write updates `new` at one place (`overlay_set`), whatever the order. A
loop is then followed by the function that says which cells are written so far
(`overlay_prefix` for a loop that writes from the beginning).
-/

section Overlay

variable {α : Type}

/-- The buffer `old` with the cells of `new` written over it. -/
def overlay (old : List α) (new : ℕ → Option α) : List α :=
  old.mapIdx fun i a => (new i).getD a

@[simp] lemma overlay_length (old : List α) (new : ℕ → Option α) :
    (overlay old new).length = old.length :=
  List.length_mapIdx

/-- A cell of the buffer is the one written over it, if any. -/
lemma overlay_getElem? (old : List α) (new : ℕ → Option α) (i : ℕ) :
    (overlay old new)[i]? = old[i]?.map fun a => (new i).getD a :=
  List.getElem?_mapIdx

/-- A cell that is written holds what was written. -/
lemma overlay_getElem?_of_some {old : List α} {new : ℕ → Option α} {i : ℕ} {a : α}
    (hnew : new i = some a) (hi : i < old.length) : (overlay old new)[i]? = some a := by
  rw [overlay_getElem?, hnew, List.getElem?_eq_getElem hi]
  rfl

/-- Nothing is written. -/
lemma overlay_none (old : List α) : overlay old (fun _ => none) = old := by
  apply List.ext_getElem?
  intro i
  rw [overlay_getElem?]
  exact Option.map_id'

/-- One more cell is written. -/
theorem overlay_set (old : List α) (new : ℕ → Option α) (i : ℕ) (a : α) :
    (overlay old new).set i a = overlay old (Function.update new i (some a)) := by
  apply List.ext_getElem?
  intro j
  rw [List.getElem?_set, overlay_getElem?, overlay_getElem?, overlay_length]
  by_cases hij : i = j
  · subst hij
    rw [if_pos rfl, Function.update_self]
    by_cases hlt : i < old.length
    · rw [if_pos hlt, List.getElem?_eq_getElem hlt]
      rfl
    · rw [if_neg hlt, List.getElem?_eq_none (not_lt.mp hlt)]
      rfl
  · rw [if_neg hij, Function.update_of_ne (Ne.symm hij)]

/-- The first `n` cells are `f 0`, ..., `f (n - 1)`. -/
theorem overlay_take {old : List α} {new : ℕ → Option α} {f : ℕ → α} {n : ℕ} (hn : n ≤ old.length)
    (hnew : ∀ i < n, new i = some (f i)) : (overlay old new).take n = (List.range n).map f := by
  apply List.ext_getElem?
  intro i
  by_cases hi : i < n
  · rw [List.getElem?_take_of_lt hi, overlay_getElem?_of_some (hnew i hi) (hi.trans_le hn),
      List.getElem?_map, List.getElem?_range hi]
    rfl
  · have h₁ : ((overlay old new).take n).length ≤ i :=
      (List.length_take_le _ _).trans (not_lt.mp hi)
    have h₂ : ((List.range n).map f).length ≤ i := by simpa using hi
    rw [List.getElem?_eq_none h₁, List.getElem?_eq_none h₂]

/-- The cells written by a loop that has written the first `n` ones. -/
def firstCells (f : ℕ → α) (n : ℕ) : ℕ → Option α := fun i => if i < n then some (f i) else none

/-- The next cell is written. -/
lemma update_firstCells (f : ℕ → α) (n : ℕ) :
    Function.update (firstCells f n) n (some (f n)) = firstCells f (n + 1) := by
  funext i
  by_cases hi : i = n
  · subst hi
    simp [firstCells]
  · rw [Function.update_of_ne hi]
    have hlt : i < n + 1 ↔ i < n := by omega
    simp only [firstCells, hlt]

/-- Before the loop nothing is written. -/
lemma firstCells_zero (f : ℕ → α) : firstCells f 0 = fun _ => none := rfl

end Overlay
