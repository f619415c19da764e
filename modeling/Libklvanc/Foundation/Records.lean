import Mathlib

/-!
# Records laid out one behind the other

A sequence of records of varying size stands in a buffer, each record announcing its own size. A
reader that is told only the number of records walks over them by adding up the announced sizes:
`size pos` is the size of the record that starts at `pos`, `Records.starts` lists the positions the
walk passes and `Records.walk` is the position it ends at. All records lie before a bound exactly
when the end of the walk does (`Records.forall_starts_le_iff`).

`OccursAt l p i` says that the list `l` stands in the buffer `p` at position `i`. Where the
encodings of a list of records stand one behind the other, a walk over as many records passes them
in order (`Records.map_starts_flatMap`) and ends at the end of the last one
(`Records.walk_flatMap`), and a longer walk ends behind it.
-/

/-- The list `l` stands in the buffer `p` at position `i`. -/
def OccursAt {α : Type} (l p : List α) (i : ℕ) : Prop := l <+: p.drop i

namespace OccursAt

variable {α : Type} {l l' p : List α} {a : α} {i : ℕ}

/-- A buffer stands at its own beginning. -/
lemma refl (p : List α) : OccursAt p p 0 := List.prefix_refl p

/-- A list stands at the beginning of a buffer that continues it. -/
lemma append_right (l post : List α) : OccursAt l (l ++ post) 0 := List.prefix_append l post

/-- Two lists stand one behind the other exactly when their concatenation does. -/
lemma append_iff : OccursAt (l ++ l') p i ↔ OccursAt l p i ∧ OccursAt l' p (i + l.length) := by
  unfold OccursAt
  rw [← List.drop_drop]
  constructor
  · rintro ⟨post, h⟩
    rw [← h, List.append_assoc]
    exact ⟨List.prefix_append _ _, by rw [List.drop_left]; exact List.prefix_append _ _⟩
  · rintro ⟨⟨post, h⟩, h'⟩
    rw [← h, List.drop_left] at h'
    rw [← h]
    exact (List.prefix_append_right_inj l).mpr h'

/-- A first element and the list behind it. -/
lemma cons_iff : OccursAt (a :: l) p i ↔ p[i]? = some a ∧ OccursAt l p (i + 1) := by
  rw [show a :: l = [a] ++ l from rfl, append_iff]
  refine and_congr_left fun _ => ?_
  unfold OccursAt
  rw [← List.head?_drop]
  cases p.drop i with
  | nil => simp
  | cons b rest => simp [eq_comm]

/-- The cells of the buffer where the list stands. -/
lemma take_drop (h : OccursAt l p i) : (p.drop i).take l.length = l := by
  obtain ⟨post, h⟩ := h
  rw [← h, List.take_left]

/-- The list lies inside the buffer. -/
lemma add_length_le (h : OccursAt l p i) (hl : 0 < l.length) : i + l.length ≤ p.length := by
  have hle := h.length_le
  rw [List.length_drop] at hle
  omega

end OccursAt

namespace Records

section Walk

variable (size : ℕ → ℕ)

/-- The position behind `count` records, the first of which starts at `pos`. -/
def walk (pos : ℕ) : ℕ → ℕ
  | 0 => pos
  | count + 1 => walk (pos + size pos) count

/-- The positions at which `count` records start, the first of them at `pos`. -/
def starts (pos : ℕ) : ℕ → List ℕ
  | 0 => []
  | count + 1 => pos :: starts (pos + size pos) count

variable {size} {pos count bound : ℕ}

/-- A walk does not move backwards. -/
lemma le_walk : pos ≤ walk size pos count := by
  induction count generalizing pos with
  | zero => exact le_rfl
  | succ count ih => exact (Nat.le_add_right _ _).trans ih

/-- A walk over records of which none is empty moves forwards. -/
lemma lt_walk (hsize : ∀ i, 0 < size i) (hcount : 0 < count) : pos < walk size pos count := by
  obtain ⟨count, rfl⟩ := Nat.exists_eq_succ_of_ne_zero hcount.ne'
  exact lt_of_lt_of_le (Nat.lt_add_of_pos_right (hsize pos)) le_walk

/-- A walk can be interrupted and taken up again. -/
lemma walk_add (m n : ℕ) : walk size pos (m + n) = walk size (walk size pos m) n := by
  induction m generalizing pos with
  | zero => simp [walk]
  | succ m ih => rw [Nat.succ_add, walk, walk, ih]

/-- Every record of a walk ends before a bound exactly when the walk does. -/
theorem forall_starts_le_iff (hcount : 0 < count) :
    (∀ i ∈ starts size pos count, i + size i ≤ bound) ↔ walk size pos count ≤ bound := by
  induction count generalizing pos with
  | zero => exact absurd hcount (lt_irrefl 0)
  | succ count ih =>
    simp only [starts, walk, List.forall_mem_cons]
    rcases Nat.eq_zero_or_pos count with rfl | hpos
    · simp [starts, walk]
    · rw [ih hpos]
      exact ⟨And.right, fun h => ⟨le_walk.trans h, h⟩⟩

end Walk

/-! ### Encoded records -/

section Encode

variable {ρ α τ : Type} {encode : ρ → List α} {size : ℕ → ℕ} {buf : List α} {records : List ρ}
  {pos : ℕ}

/-- When the size of a record can be read off where its encoding stands, a walk over as many records
as stand in the buffer ends at the end of the last one. -/
theorem walk_flatMap
    (hsize : ∀ r ∈ records, ∀ i, OccursAt (encode r) buf i → size i = (encode r).length)
    (h : OccursAt (records.flatMap encode) buf pos) :
    walk size pos records.length = pos + (records.flatMap encode).length := by
  induction records generalizing pos with
  | nil => rfl
  | cons r records ih =>
    rw [List.flatMap_cons, OccursAt.append_iff] at h
    rw [List.length_cons, walk, hsize r List.mem_cons_self pos h.1,
      ih (fun r' hr' => hsize r' (List.mem_cons_of_mem r hr')) h.2, List.flatMap_cons,
      List.length_append, Nat.add_assoc]

/-- What can be read off where the encoding of a record stands, a walk reads off for every record in
order. -/
theorem map_starts_flatMap {read : ℕ → τ} {tag : ρ → τ}
    (hsize : ∀ r ∈ records, ∀ i, OccursAt (encode r) buf i → size i = (encode r).length)
    (hread : ∀ r ∈ records, ∀ i, OccursAt (encode r) buf i → read i = tag r)
    (h : OccursAt (records.flatMap encode) buf pos) :
    (starts size pos records.length).map read = records.map tag := by
  induction records generalizing pos with
  | nil => rfl
  | cons r records ih =>
    rw [List.flatMap_cons, OccursAt.append_iff] at h
    rw [List.length_cons, starts, List.map_cons, List.map_cons,
      hread r List.mem_cons_self pos h.1, hsize r List.mem_cons_self pos h.1,
      ih (fun r' hr' => hsize r' (List.mem_cons_of_mem r hr'))
        (fun r' hr' => hread r' (List.mem_cons_of_mem r hr')) h.2]

/-- A walk over no fewer records than stand in the buffer ends at the end of the last one exactly
when it is over as many. -/
theorem walk_flatMap_eq_iff
    (hsize : ∀ r ∈ records, ∀ i, OccursAt (encode r) buf i → size i = (encode r).length)
    (h : OccursAt (records.flatMap encode) buf pos) (hpos : ∀ i, 0 < size i) {count : ℕ}
    (hcount : records.length ≤ count) :
    walk size pos count = pos + (records.flatMap encode).length ↔ records.length = count := by
  have hwalk := walk_flatMap hsize h
  obtain ⟨n, rfl⟩ := Nat.exists_eq_add_of_le hcount
  rw [walk_add, hwalk]
  constructor
  · intro hend
    rcases Nat.eq_zero_or_pos n with rfl | hn
    · rfl
    · exact absurd hend (lt_walk hpos hn).ne'
  · intro hlen
    rw [show n = 0 by omega, walk]

end Encode

end Records
