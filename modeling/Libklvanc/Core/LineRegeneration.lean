import Libklvanc.Core.LineLayout

/-!
# Generating a line twice

`klvanc_generate_vanc_line` sorts the entries of its line in place, rewrites their offsets and takes
the width of those that it leaves out. A second call sorts what the first one has left, and entries
without a width now share the offset of another one, so the sort may move them. It cannot move the
others: their offsets increase strictly (`sort_placeEntries`). Everything that has kept a width is
legal and fits, so the second call puts out what the first one did
(`klvancGenerateVancLine_idempotent`).
-/

namespace Libklvanc

/-- The entries that have a width. -/
def wide (entries : List KlvancEntry) : List KlvancEntry := entries.filter (·.pixelWidth ≠ 0)

/-- An entry without a width has no samples. -/
lemma flatMap_samples_wide (entries : List KlvancEntry) :
    (wide entries).flatMap KlvancEntry.samples = entries.flatMap KlvancEntry.samples := by
  induction entries with
  | nil => rfl
  | cons e entries ih =>
    rw [wide] at ih ⊢
    by_cases he : e.pixelWidth = 0
    · have hnil : e.samples = [] := by rw [KlvancEntry.samples, he, List.take_zero]
      rw [List.filter_cons_of_neg (by simpa using he), ih, List.flatMap_cons, hnil, List.nil_append]
    · rw [List.filter_cons_of_pos (by simpa using he), List.flatMap_cons, List.flatMap_cons, ih]

lemma totalWidth_wide (entries : List KlvancEntry) :
    totalWidth (wide entries) = totalWidth entries :=
  totalSize_filter_size entries

/-! ### What the first call leaves -/

section Left

variable {W : ℤ} {used : ℕ}

/-- The samples left are those of the entries placed. -/
lemma flatMap_samples_placeEntries (l : List KlvancEntry) :
    (placeEntries W l used).1.flatMap KlvancEntry.samples =
      (placed W used l).flatMap KlvancEntry.samples := by
  induction l generalizing used with
  | nil => rfl
  | cons e l ih =>
    rw [placeEntries, placeEntry_eq, placed_cons]
    split_ifs with h
    · rw [List.flatMap_cons, List.flatMap_cons, ih]
      rfl
    · rw [List.flatMap_cons, ih]
      rfl

/-- The widths left are those of the entries placed. -/
lemma totalWidth_placeEntries (l : List KlvancEntry) :
    totalWidth (placeEntries W l used).1 = totalWidth (placed W used l) := by
  induction l generalizing used with
  | nil => rfl
  | cons e l ih =>
    rw [placeEntries, placeEntry_eq, placed_cons]
    split_ifs with h
    · rw [totalWidth_cons, totalWidth_cons, ih]
    · rw [totalWidth_cons, ih, Nat.zero_add]

/-- Every entry left is legal, filled and not in front of the samples taken before it. -/
lemma mem_placeEntries {l : List KlvancEntry} (h : ∀ e ∈ l, e.Filled) :
    ∀ e ∈ (placeEntries W l used).1, e.Legal ∧ e.Filled ∧ (used : ℤ) ≤ e.hOffset := by
  induction l generalizing used with
  | nil => exact fun e he => absurd he List.not_mem_nil
  | cons a l ih =>
    obtain ⟨ha, hl⟩ := List.forall_mem_cons.mp h
    rw [placeEntries, placeEntry_eq]
    split_ifs with hplace
    · intro e he
      rcases List.mem_cons.mp he with rfl | he
      · exact ⟨hplace.1, ha, le_rfl⟩
      · obtain ⟨hlegal, hfilled, hoffset⟩ := ih hl e he
        exact ⟨hlegal, hfilled, by push_cast at hoffset; omega⟩
    · intro e he
      rcases List.mem_cons.mp he with rfl | he
      · have hnil : (⟨used, a.payload, 0⟩ : KlvancEntry).samples = [] := List.take_zero
        refine ⟨?_, Nat.zero_le _, le_rfl⟩
        rw [KlvancEntry.Legal, hnil]
        simp
      · exact ih hl e he

/-- An entry left ends before the next one. -/
lemma pairwise_placeEntries {l : List KlvancEntry} (h : ∀ e ∈ l, e.Filled) :
    (placeEntries W l used).1.Pairwise
      fun a b : KlvancEntry => a.hOffset + (a.pixelWidth : ℤ) ≤ b.hOffset := by
  induction l generalizing used with
  | nil => exact List.Pairwise.nil
  | cons a l ih =>
    obtain ⟨ha, hl⟩ := List.forall_mem_cons.mp h
    rw [placeEntries, placeEntry_eq]
    split_ifs with hplace
    · refine List.pairwise_cons.mpr ⟨fun e he => ?_, ih hl⟩
      simpa using (mem_placeEntries hl e he).2.2
    · refine List.pairwise_cons.mpr ⟨fun e he => ?_, ih hl⟩
      simpa using (mem_placeEntries hl e he).2.2

/-- Some entries of increasing offsets are determined by their offsets. -/
lemma eq_of_hOffset_eq {l : List KlvancEntry} (h : l.Pairwise fun a b => a.hOffset < b.hOffset)
    {a b : KlvancEntry} (ha : a ∈ l) (hb : b ∈ l) (heq : a.hOffset = b.hOffset) : a = b := by
  have hnodup : (l.map KlvancEntry.hOffset).Nodup :=
    List.pairwise_map.mpr (h.imp fun hlt => ne_of_lt hlt)
  exact List.inj_on_of_nodup_map hnodup ha hb heq

/-- Sorting what the first call leaves does not move the entries that have a width. -/
theorem sort_placeEntries (qsort : Qsort) {l : List KlvancEntry} (h : ∀ e ∈ l, e.Filled) :
    wide (qsort.sort (placeEntries W l used).1) = wide (placeEntries W l used).1 := by
  have hstrict : (wide (placeEntries W l used).1).Pairwise fun a b => a.hOffset < b.hOffset := by
    refine List.Pairwise.imp_of_mem ?_ ((pairwise_placeEntries h).sublist List.filter_sublist)
    intro a b ha _ hab
    have hwide : a.pixelWidth ≠ 0 := by simpa using (List.mem_filter.mp ha).2
    have hpos : (0 : ℤ) < a.pixelWidth := Int.natCast_pos.mpr (Nat.pos_of_ne_zero hwide)
    linarith
  have hperm : (wide (qsort.sort (placeEntries W l used).1)).Perm
      (wide (placeEntries W l used).1) :=
    (qsort.perm _).filter _
  have hsorted : (wide (qsort.sort (placeEntries W l used).1)).Pairwise
      fun a b => a.hOffset ≤ b.hOffset :=
    ((qsort.sorted _).imp fun hab => vancEntComp_le_zero.mp hab).sublist List.filter_sublist
  refine List.Perm.eq_of_pairwise ?_ hsorted (hstrict.imp le_of_lt) hperm
  intro a b ha hb hab hba
  exact eq_of_hOffset_eq hstrict (hperm.mem_iff.mp ha) hb (le_antisymm hab hba)

/-- The first pass keeps the number of entries. -/
lemma length_placeEntries (l : List KlvancEntry) :
    (placeEntries W l used).1.length = l.length := by
  induction l generalizing used with
  | nil => rfl
  | cons e l ih =>
    rw [placeEntries, List.length_cons, List.length_cons, ih]

end Left

/-! ### The second call -/

/-- The entries of a line as a call of `klvanc_generate_vanc_line` leaves them are as many as
before. -/
lemma length_generated_le (qsort : Qsort) (fresh : ℕ → Word) (line : KlvancLine) (W : ℤ) :
    (klvancGenerateVancLine qsort fresh line W).val.2.1.length ≤ maxVancEntries := by
  have hlen : (klvancGenerateVancLine qsort fresh line W).val.2.1 =
      (placeEntries W (qsort.sort line.entries) 0).1 := by
    unfold klvancGenerateVancLine
    dsimp only
    split_ifs <;> rfl
  rw [hlen, length_placeEntries, (qsort.perm _).length_eq]
  exact line.entries_le

/-- The line as a call of `klvanc_generate_vanc_line` leaves it. -/
def lineAfter (qsort : Qsort) (fresh : ℕ → Word) (line : KlvancLine) (W : ℤ) : KlvancLine where
  lineNumber := line.lineNumber
  entries := (klvancGenerateVancLine qsort fresh line W).val.2.1
  entries_le := length_generated_le qsort fresh line W

/-- A second call of `klvanc_generate_vanc_line` with the same width, on the line as the first one
leaves it, returns the same, and puts out the same samples if any, whatever order the sorts give to
entries of equal offsets and whatever the new buffers hold. -/
theorem klvancGenerateVancLine_idempotent (qsort₁ qsort₂ : Qsort) (fresh₁ fresh₂ : ℕ → Word)
    {line : KlvancLine} (h : ∀ e ∈ line.entries, e.Filled) {W : ℤ} (hW : 0 ≤ W) :
    let first := klvancGenerateVancLine qsort₁ fresh₁ line W
    let second := klvancGenerateVancLine qsort₂ fresh₂ (lineAfter qsort₁ fresh₁ line W) W
    first.Safe ∧ second.Safe ∧ second.val.1 = first.val.1 ∧ second.val.2.2 = first.val.2.2 := by
  intro first second
  have hsorted : ∀ e ∈ qsort₁.sort line.entries, e.Filled := fun e he =>
    h e ((qsort₁.perm line.entries).mem_iff.mp he)
  have hfirst := klvancGenerateVancLine_eq qsort₁ fresh₁ h W
  have hleft : (lineAfter qsort₁ fresh₁ line W).entries =
      (placeEntries W (qsort₁.sort line.entries) 0).1 :=
    congrArg (fun run => run.val.2.1) hfirst
  have hsecond := @klvancGenerateVancLine_eq qsort₂ fresh₂ (lineAfter qsort₁ fresh₁ line W)
    (by rw [hleft]; exact fun e he => (mem_placeEntries hsorted e he).2.1) W
  rw [hleft] at hsecond
  set l := qsort₁.sort line.entries with hl
  set again := qsort₂.sort (placeEntries W l 0).1 with hagain
  -- everything that has a width is placed again, and it has not been moved
  have hwide : wide (placed W 0 again) = wide (placeEntries W l 0).1 := by
    rw [← sort_placeEntries qsort₂ hsorted]
    refine greedy_filter_size again ?_ ?_
    · intro e he _
      exact (mem_placeEntries hsorted e ((qsort₂.perm _).mem_iff.mp he)).1
    · have htotal := @greedy_totalSize_le _ KlvancEntry.Legal _ KlvancEntry.pixelWidth W 0
        (by simpa using hW) l
      have hsame : totalSize KlvancEntry.pixelWidth again =
          totalSize KlvancEntry.pixelWidth (placed W 0 l) :=
        (totalSize_perm (qsort₂.perm _)).trans (totalWidth_placeEntries l)
      rw [hsame]
      exact htotal
  have hsamples : (placed W 0 again).flatMap KlvancEntry.samples =
      (placed W 0 l).flatMap KlvancEntry.samples := by
    rw [← flatMap_samples_wide, hwide, flatMap_samples_wide, flatMap_samples_placeEntries]
  have hwidths : totalWidth (placed W 0 again) = totalWidth (placed W 0 l) := by
    rw [← totalWidth_wide, hwide, totalWidth_wide, totalWidth_placeEntries]
  rw [hsamples, hwidths] at hsecond
  refine ⟨?_, ?_, ?_, ?_⟩
  · rw [show first = _ from hfirst]
    exact Checked.safe_pure _
  · rw [show second = _ from hsecond]
    exact Checked.safe_pure _
  · rw [show second = _ from hsecond, show first = _ from hfirst]
    rfl
  · rw [show second = _ from hsecond, show first = _ from hfirst]
    rfl

/-- A second call on the crowded line puts out the same six samples. -/
theorem klvancGenerateVancLine_idempotent_crowded :
    (klvancGenerateVancLine Qsort.insertion (fun _ => 1)
      (lineAfter Qsort.insertion (fun _ => 0) crowdedLine 6) 6).val.2.2 =
      (klvancGenerateVancLine Qsort.insertion (fun _ => 0) crowdedLine 6).val.2.2 :=
  (@klvancGenerateVancLine_idempotent Qsort.insertion Qsort.insertion (fun _ => 0) (fun _ => 1)
    crowdedLine (by decide) 6 (by decide)).2.2.2

end Libklvanc
