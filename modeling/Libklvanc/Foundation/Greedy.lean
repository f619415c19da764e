import Mathlib

/-!
# Taking what fits

A list is scanned once, and an element is taken if it passes a test and its size still fits the
room that the elements taken before it have left (`greedy`). What is taken comes in the order of the
list, fits the room as a whole, and does not depend on the elements that were left out. Where the
elements of some size pass the test and fit together, all of them are taken (`greedy_filter_size`).
-/

section Greedy

variable {α : Type} (ok : α → Prop) [DecidablePred ok] (size : α → ℕ) (room : ℤ)

/-- The elements taken, when `used` of the room is taken already. -/
def greedy : ℕ → List α → List α
  | _, [] => []
  | used, a :: l =>
    if ok a ∧ used + size a ≤ room then a :: greedy (used + size a) l else greedy used l

/-- The room that the elements of a list take. -/
def totalSize (l : List α) : ℕ := (l.map size).sum

variable {ok size room} {used : ℕ}

@[simp] lemma totalSize_nil : totalSize size [] = 0 := rfl

@[simp] lemma totalSize_cons (a : α) (l : List α) :
    totalSize size (a :: l) = size a + totalSize size l := by
  rw [totalSize, List.map_cons, List.sum_cons, totalSize]

/-- The elements taken come in the order of the list, each of them once. -/
theorem greedy_sublist (l : List α) : (greedy ok size room used l).Sublist l := by
  induction l generalizing used with
  | nil => exact List.Sublist.refl _
  | cons a l ih =>
    rw [greedy]
    split_ifs with h
    · exact ih.cons_cons a
    · exact ih.cons a

/-- The elements taken fit the room. -/
theorem greedy_totalSize_le (hused : used ≤ room) (l : List α) :
    used + totalSize size (greedy ok size room used l) ≤ room := by
  induction l generalizing used with
  | nil => simpa [greedy] using hused
  | cons a l ih =>
    rw [greedy]
    split_ifs with h
    · have := @ih (used + size a) (by exact_mod_cast h.2)
      rw [totalSize_cons]
      push_cast at this ⊢
      linarith
    · exact ih hused

/-- Nothing of any size is taken exactly when no element of any size passes the test and fits
alone. -/
theorem greedy_totalSize_eq_zero_iff (l : List α) :
    totalSize size (greedy ok size room used l) = 0 ↔
      ∀ a ∈ l, ok a → used + size a ≤ room → size a = 0 := by
  induction l with
  | nil => simp [greedy]
  | cons a l ih =>
    rw [greedy, List.forall_mem_cons, ← ih]
    split_ifs with h
    · -- an element without a size leaves the room as it is
      rw [totalSize_cons, Nat.add_eq_zero_iff]
      constructor
      · rintro ⟨ha, hl⟩
        rw [ha, Nat.add_zero] at hl
        exact ⟨fun _ _ => ha, hl⟩
      · rintro ⟨ha, hl⟩
        have hzero := ha h.1 h.2
        rw [hzero, Nat.add_zero]
        exact ⟨rfl, hl⟩
    · exact ⟨fun hl => ⟨fun hok hfit => absurd ⟨hok, hfit⟩ h, hl⟩, fun hall => hall.2⟩

/-- Elements without a size do not count. -/
lemma totalSize_filter_size (l : List α) :
    totalSize size (l.filter (size · ≠ 0)) = totalSize size l := by
  induction l with
  | nil => rfl
  | cons a l ih =>
    by_cases ha : size a = 0
    · rw [List.filter_cons_of_neg (by simpa using ha), ih, totalSize_cons, ha, Nat.zero_add]
    · rw [List.filter_cons_of_pos (by simpa using ha), totalSize_cons, totalSize_cons, ih]

/-- The order of the elements makes no difference to the room they take. -/
lemma totalSize_perm {l l' : List α} (h : l.Perm l') : totalSize size l = totalSize size l' :=
  (h.map size).sum_eq

/-- Elements that pass the test if they have a size, and fit together, are all taken. -/
theorem greedy_filter_size (l : List α) (hok : ∀ a ∈ l, size a ≠ 0 → ok a)
    (hfit : used + totalSize size l ≤ room) :
    (greedy ok size room used l).filter (size · ≠ 0) = l.filter (size · ≠ 0) := by
  induction l generalizing used with
  | nil => rfl
  | cons a l ih =>
    obtain ⟨ha, hl⟩ := List.forall_mem_cons.mp hok
    rw [totalSize_cons] at hfit
    push_cast at hfit
    rw [greedy]
    split_ifs with htake
    · rw [List.filter_cons, List.filter_cons, ih hl (by push_cast; linarith)]
    · -- only an element without a size can be left out
      have hzero : size a = 0 := by
        by_contra hne
        exact htake ⟨ha hne, by linarith [Int.natCast_nonneg (totalSize size l)]⟩
      rw [List.filter_cons_of_neg (by simpa using hzero)]
      exact ih hl (by linarith [Int.natCast_nonneg (size a)])

/-- An element that is left out does not change what is taken of the others. -/
theorem greedy_skip {a : α} (l r : List α)
    (h : ¬(ok a ∧ (used + totalSize size (greedy ok size room used l) : ℕ) + size a ≤ room)) :
    greedy ok size room used (l ++ a :: r) = greedy ok size room used (l ++ r) := by
  induction l generalizing used with
  | nil =>
    rw [List.nil_append, List.nil_append, greedy, if_neg]
    simpa [greedy] using h
  | cons b l ih =>
    rw [List.cons_append, List.cons_append, greedy, greedy]
    rw [greedy] at h
    split_ifs at h ⊢ with hb
    · apply congrArg
      apply ih
      rwa [totalSize_cons, ← Nat.add_assoc] at h
    · exact ih h

end Greedy
