import Mathlib

/-!
# Scanning for frames

A frame begins with a marker, and the elements from the marker on tell its size. A scan goes from
left to right: it passes over the elements at which no marker begins, puts out every frame and goes
on behind it, and ends with a frame that is not complete.
-/

namespace FrameScan

variable {α : Type} [DecidableEq α] (marker : List α) (size : List α → ℕ)

/-- The frames that a scan puts out that first passes over `skip` elements. -/
def scanFrom : ℕ → List α → List (List α)
  | _, [] => []
  | skip + 1, _ :: l => scanFrom skip l
  | 0, a :: l =>
    if marker <+: a :: l then
      if size (a :: l) ≤ (a :: l).length then
        (a :: l).take (size (a :: l)) :: scanFrom (size (a :: l) - 1) l
      else []
    else scanFrom 0 l

/-- The frames that a scan puts out. -/
def scan (l : List α) : List (List α) := scanFrom marker size 0 l

variable {marker size} {l : List α}

@[simp] lemma scan_nil : scan marker size [] = [] := by simp [scan, scanFrom]

lemma scanFrom_eq (skip : ℕ) (l : List α) :
    scanFrom marker size skip l = scan marker size (l.drop skip) := by
  induction skip generalizing l with
  | zero => rfl
  | succ skip ih =>
    cases l with
    | nil => simp [scanFrom]
    | cons a l => rw [scanFrom, ih, List.drop_succ_cons]

/-- An element at which no marker begins is passed over. -/
lemma scan_of_not_begins (h : ¬marker <+: l) :
    scan marker size l = scan marker size (l.drop 1) := by
  cases l with
  | nil => rfl
  | cons a l =>
    rw [scan, scanFrom, if_neg h]
    rfl

/-- Elements at which no marker begins are passed over. -/
lemma scan_drop {count : ℕ} (h : ∀ j < count, ¬marker <+: l.drop j) :
    scan marker size l = scan marker size (l.drop count) := by
  induction count with
  | zero => rfl
  | succ count ih =>
    have hrest := ih fun j hj => h j (hj.trans (Nat.lt_succ_self count))
    rw [hrest, scan_of_not_begins (h count (Nat.lt_succ_self count)), List.drop_drop]

/-- Where no marker begins there is no frame. -/
lemma scan_eq_nil (h : ∀ j < l.length, ¬marker <+: l.drop j) : scan marker size l = [] := by
  rw [scan_drop h, List.drop_length, scan_nil]

/-- A frame is put out, and the scan goes on behind it. -/
lemma scan_frame (hmarker : marker <+: l) (hpos : 0 < size l) (hsize : size l ≤ l.length) :
    scan marker size l = l.take (size l) :: scan marker size (l.drop (size l)) := by
  cases l with
  | nil => exact absurd (hpos.trans_le hsize) (Nat.lt_irrefl 0)
  | cons a l =>
    have hsucc : size (a :: l) = size (a :: l) - 1 + 1 := (Nat.sub_add_cancel hpos).symm
    have hrest : (a :: l).drop (size (a :: l)) = l.drop (size (a :: l) - 1) := by
      rw [hsucc, List.drop_succ_cons, Nat.add_sub_cancel]
    rw [scan, scanFrom, if_pos hmarker, if_pos hsize, scanFrom_eq, hrest]

/-- A frame that is not complete ends the scan. -/
lemma scan_incomplete (hmarker : marker <+: l) (hsize : l.length < size l) :
    scan marker size l = [] := by
  cases l with
  | nil => rw [scan_nil]
  | cons a l => rw [scan, scanFrom, if_pos hmarker, if_neg hsize.not_ge]

omit [DecidableEq α] in
/-- Whether a marker begins a list depends on as many of its elements. -/
lemma prefix_append_iff {l' : List α} (h : marker.length ≤ l.length) :
    marker <+: l ++ l' ↔ marker <+: l :=
  ⟨fun hbegins => List.prefix_of_prefix_length_le hbegins (List.prefix_append l l') h,
    fun hbegins => hbegins.trans (List.prefix_append l l')⟩

end FrameScan
