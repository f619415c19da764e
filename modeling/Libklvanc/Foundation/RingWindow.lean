import Libklvanc.Foundation.Overlay

/-!
# A window that wraps around

A ring of `n` cells is read and written modulo `n`. `Ring.window` is the list of the `count` cells
from `head` on. It can be cut and joined like a list (`window_add`), and it is one range of cells or
two (`window_of_le`, `window_of_wrap`), which is how a program copies it. Cells written behind a
window that stays shorter than the ring lengthen it (`window_append`). A ring that is made larger
keeps a window that does not wrap (`window_grow`).
-/

namespace Ring

variable {α : Type} {cell cell' : ℕ → α} {n head count : ℕ}

/-- The `count` cells from `head` on, modulo `n`. -/
def window (cell : ℕ → α) (n head count : ℕ) : List α :=
  (List.range count).map fun i => cell ((head + i) % n)

@[simp] lemma length_window : (window cell n head count).length = count := by
  simp [window]

/-- A window depends only on its cells. -/
lemma window_congr {n' head' : ℕ}
    (h : ∀ i < count, cell ((head + i) % n) = cell' ((head' + i) % n')) :
    window cell n head count = window cell' n' head' count :=
  List.map_congr_left fun i hi => h i (List.mem_range.mp hi)

/-- A window begins anywhere modulo `n`. -/
lemma window_mod : window cell n (head % n) count = window cell n head count :=
  window_congr fun i _ => by rw [Nat.mod_add_mod]

/-- A window is cut in two. -/
lemma window_add (a b : ℕ) :
    window cell n head (a + b) = window cell n head a ++ window cell n (head + a) b := by
  unfold window
  rw [List.range_add, List.map_append, List.map_map]
  refine congrArg _ (List.map_congr_left fun i _ => ?_)
  rw [Function.comp_apply, Nat.add_assoc]

/-- The first cells of a window. -/
lemma window_take {k : ℕ} (hk : k ≤ count) :
    (window cell n head count).take k = window cell n head k := by
  obtain ⟨b, rfl⟩ := Nat.exists_eq_add_of_le hk
  rw [window_add]
  exact List.take_left' length_window

/-- The other cells of a window. -/
lemma window_drop {k : ℕ} (hk : k ≤ count) :
    (window cell n head count).drop k = window cell n (head + k) (count - k) := by
  obtain ⟨b, rfl⟩ := Nat.exists_eq_add_of_le hk
  rw [window_add, Nat.add_sub_cancel_left]
  exact List.drop_left' length_window

/-- A window that does not wrap is one range of cells. -/
lemma window_of_le (h : head + count ≤ n) :
    window cell n head count = (List.range count).map fun i => cell (head + i) := by
  refine List.map_congr_left fun i hi => ?_
  have hi' : i < count := List.mem_range.mp hi
  rw [Nat.mod_eq_of_lt (by omega)]

/-- A window that wraps is the last cells of the ring and then the first ones. -/
lemma window_of_wrap (hhead : head ≤ n) (h : n ≤ head + count) (hcount : count ≤ n) :
    window cell n head count =
      ((List.range (n - head)).map fun i => cell (head + i)) ++
        (List.range (count - (n - head))).map fun i => cell i := by
  have hsplit : count = (n - head) + (count - (n - head)) := by omega
  have hfirst : window cell n head (n - head) = (List.range (n - head)).map fun i =>
      cell (head + i) :=
    window_of_le (by omega)
  have hwrap : window cell n (head + (n - head)) (count - (n - head)) =
      (List.range (count - (n - head))).map fun i => cell i := by
    rw [Nat.add_sub_cancel' hhead, ← window_mod, Nat.mod_self, window_of_le (by omega)]
    exact List.map_congr_left fun i _ => by rw [Nat.zero_add]
  conv_lhs => rw [hsplit, window_add, hfirst, hwrap]

/-- Two places of a window are different cells. -/
lemma mod_ne {i j : ℕ} (hij : i < j) (hj : j - i < n) : (head + i) % n ≠ (head + j) % n := by
  intro heq
  have hdvd : n ∣ (head + j) - (head + i) := (Nat.modEq_iff_dvd' (by omega)).mp heq
  have hzero : (head + j) - (head + i) = 0 := Nat.eq_zero_of_dvd_of_lt hdvd (by omega)
  omega

/-- Cells written behind a window lengthen it, as long as it fits the ring. -/
theorem window_append {fill : ℕ} {new : List α} (hfit : fill + new.length ≤ n)
    (hframe : ∀ p < n, (∀ j < new.length, p ≠ (head + fill + j) % n) → cell' p = cell p)
    (hnew : ∀ (j : ℕ) (hj : j < new.length), cell' ((head + fill + j) % n) = new[j]) :
    window cell' n head (fill + new.length) = window cell n head fill ++ new := by
  rw [window_add]
  congr 1
  · refine window_congr fun i hi => hframe _ (Nat.mod_lt _ (by omega)) fun j hj => ?_
    rw [Nat.add_assoc]
    exact mod_ne (by omega) (by omega)
  · apply List.ext_getElem length_window
    intro j h₁ h₂
    simp only [window, List.getElem_map, List.getElem_range]
    exact hnew j h₂

/-- A window that does not wrap stays the same in a larger ring. -/
theorem window_grow {n' : ℕ} (hwrap : head + count ≤ n) (hle : n ≤ n')
    (hcell : ∀ p < n, cell' p = cell p) :
    window cell' n' head count = window cell n head count := by
  refine window_congr fun i hi => ?_
  rw [Nat.mod_eq_of_lt (by omega), Nat.mod_eq_of_lt (by omega)]
  exact hcell _ (by omega)

end Ring
