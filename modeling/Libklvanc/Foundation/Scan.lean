import Mathlib

/-!
# Left-to-right scans that skip after a hit

A scanner looks at the positions below `bound` from left to right; at a hit it records the position
and jumps `skip` positions on, elsewhere it moves on by one. `Scan.positions` is the list of the
recorded positions and `Scan.Counted` says, without reference to a run, which hits are recorded:
those that are not shadowed by a recorded hit less than `skip` positions before them
(`mem_positions`). When the hits are spaced at least `skip` apart nothing is shadowed and the
scanner finds all of them (`positions_eq_of_spaced`).
-/

namespace Scan

/-- The positions recorded by a scan from `i` on, with `fuel` moves left. -/
def positionsFrom (hit : ℕ → Bool) (skip bound : ℕ) : ℕ → ℕ → List ℕ
  | 0, _ => []
  | fuel + 1, i =>
    if i < bound then
      if hit i then i :: positionsFrom hit skip bound fuel (i + skip)
      else positionsFrom hit skip bound fuel (i + 1)
    else []

/-- The positions recorded by a scan of all positions below `bound`. -/
def positions (hit : ℕ → Bool) (skip bound : ℕ) : List ℕ :=
  positionsFrom hit skip bound bound 0

/-- The hit at `i` is counted when no counted hit lies less than `skip` positions before it. -/
def Counted (hit : ℕ → Bool) (skip : ℕ) (i : ℕ) : Prop :=
  hit i = true ∧ ∀ j, (_ : j < i) → i < j + skip → ¬Counted hit skip j
termination_by i

variable {hit : ℕ → Bool} {skip bound : ℕ}

/-- What a counted position is, in terms of the earlier ones. -/
theorem counted_iff {i : ℕ} :
    Counted hit skip i ↔
      hit i = true ∧ ∀ j, j < i → i < j + skip → ¬Counted hit skip j := by
  conv_lhs => rw [Counted]

/-- A counted position is a hit. -/
theorem Counted.isHit {i : ℕ} (h : Counted hit skip i) : hit i = true :=
  (counted_iff.mp h).1

/-- Two counted positions are at least `skip` apart. -/
theorem Counted.spaced {i j : ℕ} (hi : Counted hit skip i) (hj : Counted hit skip j)
    (hij : i < j) : i + skip ≤ j := by
  by_contra hc
  exact (counted_iff.mp hj).2 i hij (by omega) hi

/-- When no counted position lies less than `skip` before `s`, a scan resumed at `s` records exactly
the counted positions from `s` on. -/
theorem mem_positionsFrom (hskip : 1 ≤ skip) {fuel s i : ℕ} (hfuel : bound ≤ s + fuel)
    (hfree : ∀ j, j < s → Counted hit skip j → j + skip ≤ s) :
    i ∈ positionsFrom hit skip bound fuel s ↔ s ≤ i ∧ i < bound ∧ Counted hit skip i := by
  induction fuel generalizing s with
  | zero =>
    simp only [positionsFrom, List.not_mem_nil, false_iff]
    omega
  | succ fuel ih =>
    unfold positionsFrom
    split_ifs with hs hh
    · have hc : Counted hit skip s :=
        counted_iff.mpr ⟨hh, fun j hj hlt hcj => by have := hfree j hj hcj; omega⟩
      rw [List.mem_cons, ih (by omega) (fun j hj hcj => ?_)]
      · constructor
        · rintro (rfl | ⟨h₁, h₂, h₃⟩)
          · exact ⟨le_rfl, hs, hc⟩
          · exact ⟨by omega, h₂, h₃⟩
        · rintro ⟨h₁, h₂, h₃⟩
          rcases h₁.eq_or_lt with rfl | h₁
          · exact Or.inl rfl
          · exact Or.inr ⟨hc.spaced h₃ h₁, h₂, h₃⟩
      · rcases lt_trichotomy j s with h | rfl | h
        · have := hfree j h hcj
          omega
        · exact le_rfl
        · have := hc.spaced hcj h
          omega
    · have hns : ¬Counted hit skip s := fun hc => hh hc.isHit
      rw [ih (by omega) (fun j hj hcj => ?_)]
      · constructor
        · rintro ⟨h₁, h₂, h₃⟩
          exact ⟨by omega, h₂, h₃⟩
        · rintro ⟨h₁, h₂, h₃⟩
          rcases h₁.eq_or_lt with rfl | h₁
          · exact absurd h₃ hns
          · exact ⟨h₁, h₂, h₃⟩
      · rcases (Nat.lt_succ_iff.mp hj).eq_or_lt with rfl | h
        · exact absurd hcj hns
        · have := hfree j h hcj
          omega
    · simp only [List.not_mem_nil, false_iff]
      omega

/-- A scan records exactly the counted positions below its bound. -/
theorem mem_positions (hskip : 1 ≤ skip) {i : ℕ} :
    i ∈ positions hit skip bound ↔ i < bound ∧ Counted hit skip i := by
  rw [positions, mem_positionsFrom hskip (by omega) (fun j hj => absurd hj (Nat.not_lt_zero j))]
  simp

/-- Everything a scan resumed at `s` records lies at or after `s`. -/
theorem le_of_mem_positionsFrom {fuel s i : ℕ} (h : i ∈ positionsFrom hit skip bound fuel s) :
    s ≤ i := by
  induction fuel generalizing s with
  | zero => simp [positionsFrom] at h
  | succ fuel ih =>
    unfold positionsFrom at h
    split_ifs at h with hs hh
    · rcases List.mem_cons.mp h with rfl | h
      · exact le_rfl
      · have := ih h
        omega
    · have := ih h
      omega
    · simp at h

/-- A scan records positions in increasing order. -/
theorem positionsFrom_sorted (hskip : 1 ≤ skip) {fuel s : ℕ} :
    (positionsFrom hit skip bound fuel s).Pairwise (· < ·) := by
  induction fuel generalizing s with
  | zero => exact List.Pairwise.nil
  | succ fuel ih =>
    unfold positionsFrom
    split_ifs
    · refine List.pairwise_cons.mpr ⟨fun j hj => ?_, ih⟩
      have := le_of_mem_positionsFrom hj
      omega
    · exact ih
    · exact List.Pairwise.nil

/-- The positions recorded by a whole scan increase. -/
theorem positions_sorted (hskip : 1 ≤ skip) : (positions hit skip bound).Pairwise (· < ·) :=
  positionsFrom_sorted hskip

/-- When the hits below the bound are spaced at least `skip` apart, every hit is counted. -/
theorem counted_of_spaced
    (hspaced : ∀ i j, hit i = true → hit j = true → i < j → j < bound → i + skip ≤ j) {i : ℕ}
    (hi : hit i = true) (hb : i < bound) : Counted hit skip i :=
  counted_iff.mpr ⟨hi, fun j hj hlt hc => by
    have := hspaced j i hc.isHit hi hj hb
    omega⟩

/-- When the hits are the members of an increasing list and are spaced at least `skip` apart, the
scan records the members of the list below its bound, in order. -/
theorem positions_eq_of_spaced (hskip : 1 ≤ skip) {starts : List ℕ}
    (hsorted : starts.Pairwise (fun i j => i + skip ≤ j))
    (hhit : ∀ i, i < bound → (hit i = true ↔ i ∈ starts)) :
    positions hit skip bound = starts.filter (· < bound) := by
  have hlt : (starts.filter (· < bound)).Pairwise (· < ·) :=
    (hsorted.imp fun {i j} (h : i + skip ≤ j) => (by omega : i < j)).filter _
  refine List.Perm.eq_of_pairwise (fun a b _ _ hab hba => by omega)
    (positions_sorted hskip) hlt ?_
  refine (List.perm_ext_iff_of_nodup ((positions_sorted hskip).imp ne_of_lt)
    (hlt.imp ne_of_lt)).mpr fun i => ?_
  rw [mem_positions hskip, List.mem_filter, decide_eq_true_eq]
  constructor
  · rintro ⟨hb, hc⟩
    exact ⟨(hhit i hb).mp hc.isHit, hb⟩
  · rintro ⟨hm, hb⟩
    refine ⟨hb, @counted_of_spaced _ _ bound (fun a b ha hb' hab hbb => ?_) _
      ((hhit i hb).mpr hm) hb⟩
    have hma := (hhit a (by omega)).mp ha
    have hmb := (hhit b hbb).mp hb'
    obtain ⟨m, hm', rfl⟩ := List.getElem_of_mem hma
    obtain ⟨n, hn', rfl⟩ := List.getElem_of_mem hmb
    have hmn : m < n := by
      by_contra hc
      rcases (not_lt.mp hc).eq_or_lt with rfl | hnm
      · omega
      · have := List.pairwise_iff_getElem.mp hsorted n m hn' hm' hnm
        omega
    exact List.pairwise_iff_getElem.mp hsorted m n hm' hn' hmn

end Scan
