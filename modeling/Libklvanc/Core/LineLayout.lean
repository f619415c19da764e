import Libklvanc.Foundation.Greedy
import Libklvanc.Core.Lines

/-!
# What stands on a generated line

`klvanc_generate_vanc_line` sorts the entries of a line, rewrites their offsets and widths in one
pass and copies them in another. Together the two passes take greedily the entries that are legal
and fit, and put their samples one behind the other (`klvancGenerateVancLine_layout`). What carries
the proof is that the offset of every entry is rewritten to the number of samples placed before it
(`placeEntry_eq`), so that the copies close up.
-/

namespace Libklvanc

namespace KlvancEntry

/-- The samples of an entry. -/
def samples (e : KlvancEntry) : List Word := e.payload.take e.pixelWidth

/-- Behind the ADF no word of the entry is one of the reserved values. -/
def Legal (e : KlvancEntry) : Prop :=
  ∀ w ∈ e.samples.drop 3, 0x004 ≤ w.toNat ∧ w.toNat ≤ 0x3FB

instance : DecidablePred Legal := fun e =>
  List.decidableBAll (fun w : Word => 0x004 ≤ w.toNat ∧ w.toNat ≤ 0x3FB) (e.samples.drop 3)

/-- The payload buffer of the entry holds `pixel_width` words. -/
def Filled (e : KlvancEntry) : Prop := e.pixelWidth ≤ e.payload.length

instance : DecidablePred Filled := fun e =>
  inferInstanceAs (Decidable (e.pixelWidth ≤ e.payload.length))

/-- A filled entry has as many samples as it is wide. -/
lemma Filled.length_samples {e : KlvancEntry} (h : e.Filled) :
    e.samples.length = e.pixelWidth :=
  List.length_take_of_le h

/-- The search for illegal words finds none exactly in a legal entry. -/
lemma any_isIllegal (e : KlvancEntry) :
    ((e.payload.take e.pixelWidth).drop 3).any isIllegal = true ↔ ¬e.Legal := by
  rw [Legal, List.any_eq_true]
  push Not
  refine exists_congr fun w => and_congr_right fun _ => ?_
  simp only [isIllegal, Bool.or_eq_true, decide_eq_true_eq]
  omega

end KlvancEntry

/-- The entries that are placed, of entries that come in a given order on a line of the width `W`
with `used` samples taken: those that are legal and fit behind the ones placed before. -/
def placed (W : ℤ) (used : ℕ) (entries : List KlvancEntry) : List KlvancEntry :=
  greedy KlvancEntry.Legal KlvancEntry.pixelWidth W used entries

/-- The number of samples of some entries. -/
def totalWidth (entries : List KlvancEntry) : ℕ := totalSize KlvancEntry.pixelWidth entries

lemma totalWidth_cons (e : KlvancEntry) (l : List KlvancEntry) :
    totalWidth (e :: l) = e.pixelWidth + totalWidth l := totalSize_cons e l

/-! ### Placing entries -/

section Place

variable {W : ℤ} {used : ℕ}

/-- An entry is moved behind the samples taken, and keeps its width if it is legal and fits. -/
lemma placeEntry_eq (e : KlvancEntry) :
    placeEntry W e used =
      if e.Legal ∧ used + e.pixelWidth ≤ W then
        (⟨used, e.payload, e.pixelWidth⟩, used + e.pixelWidth)
      else (⟨used, e.payload, 0⟩, used) := by
  have hoffset : (if e.hOffset < used then { e with hOffset := (used : ℤ) }
      else if (used : ℤ) < e.hOffset then { e with hOffset := (used : ℤ) } else e) =
      (⟨used, e.payload, e.pixelWidth⟩ : KlvancEntry) := by
    split_ifs with h₁ h₂
    · rfl
    · rfl
    · have : e.hOffset = used := by omega
      rw [← this]
  unfold placeEntry
  rw [hoffset]
  simp only [KlvancEntry.any_isIllegal ⟨used, e.payload, e.pixelWidth⟩]
  have hlegal : (⟨used, e.payload, e.pixelWidth⟩ : KlvancEntry).Legal ↔ e.Legal := Iff.rfl
  by_cases h : e.Legal
  · -- a legal entry keeps its width for the check against the end of the line
    rw [if_neg (not_not.mpr (hlegal.mpr h))]
    by_cases hfit : used + (e.pixelWidth : ℤ) ≤ W
    · rw [if_neg (not_lt.mpr hfit), if_pos ⟨h, hfit⟩]
    · rw [if_pos (not_le.mp hfit), if_neg fun hand => hfit hand.2]
  · -- an illegal one has lost it, and takes nothing on either branch
    have hnot : ¬(e.Legal ∧ used + (e.pixelWidth : ℤ) ≤ W) := fun hand => h hand.1
    rw [if_pos (mt hlegal.mp h), if_neg hnot]
    split_ifs
    · rfl
    · rfl

/-- The entries placed, one entry at a time. -/
lemma placed_cons (e : KlvancEntry) (l : List KlvancEntry) :
    placed W used (e :: l) =
      if e.Legal ∧ used + e.pixelWidth ≤ W then e :: placed W (used + e.pixelWidth) l
      else placed W used l := rfl

/-- The first pass counts the samples of the entries placed. -/
lemma placeEntries_pixelsUsed (l : List KlvancEntry) :
    (placeEntries W l used).2 = used + totalWidth (placed W used l) := by
  induction l generalizing used with
  | nil => rfl
  | cons e l ih =>
    rw [placeEntries, placeEntry_eq, placed_cons]
    split_ifs with h
    · rw [totalWidth_cons, ← Nat.add_assoc]
      exact ih
    · exact ih

/-- The entries that keep a width are the ones placed, with their payloads. -/
lemma placeEntries_kept (l : List KlvancEntry) :
    ((placeEntries W l used).1.filter (·.pixelWidth ≠ 0)).map (·.payload) =
      ((placed W used l).filter (·.pixelWidth ≠ 0)).map (·.payload) := by
  induction l generalizing used with
  | nil => rfl
  | cons e l ih =>
    rw [placeEntries, placeEntry_eq, placed_cons]
    split_ifs with h
    · rw [List.filter_cons, List.filter_cons]
      by_cases hw : e.pixelWidth = 0
      · simpa [hw] using @ih (used + e.pixelWidth)
      · simpa [hw] using @ih (used + e.pixelWidth)
    · simpa using ih

/-- The samples of filled entries are as many as their widths say. -/
lemma length_flatMap_samples {l : List KlvancEntry} (h : ∀ e ∈ l, e.Filled) :
    (l.flatMap KlvancEntry.samples).length = totalWidth l := by
  rw [List.length_flatMap, totalWidth, totalSize]
  exact congrArg List.sum (List.map_congr_left fun e he => (h e he).length_samples)

/-- The second pass fills the rest of the buffer with the samples of the entries placed, one behind
the other. -/
lemma copyEntries_placeEntries {l : List KlvancEntry} (h : ∀ e ∈ l, e.Filled)
    {pre old : List Word} (hpre : pre.length = used)
    (hold : old.length = totalWidth (placed W used l)) :
    copyEntries (placeEntries W l used).1 (pre ++ old) =
      pure (pre ++ (placed W used l).flatMap KlvancEntry.samples) := by
  induction l generalizing used pre old with
  | nil =>
    rw [List.eq_nil_of_length_eq_zero hold]
    rfl
  | cons e l ih =>
    obtain ⟨he, hl⟩ := List.forall_mem_cons.mp h
    rw [placeEntries, placeEntry_eq, placed_cons]
    rw [placed_cons] at hold
    by_cases hplace : e.Legal ∧ used + e.pixelWidth ≤ W
    · -- the entry is copied behind what stands in the buffer
      rw [if_pos hplace] at hold ⊢
      rw [if_pos hplace]
      rw [totalWidth_cons] at hold
      obtain ⟨old₁, old₂, rfl, h₁, h₂⟩ : ∃ old₁ old₂, old = old₁ ++ old₂ ∧
          old₁.length = e.samples.length ∧
          old₂.length = totalWidth (placed W (used + e.pixelWidth) l) :=
        ⟨old.take e.pixelWidth, old.drop e.pixelWidth, (List.take_append_drop _ _).symm,
          by rw [he.length_samples, List.length_take]; omega, by rw [List.length_drop]; omega⟩
      have hcopy : copyInto (pre ++ (old₁ ++ old₂)) used e.samples =
          pure (pre ++ (e.samples ++ old₂)) := by
        rw [← hpre]
        exact copyTo_append .outLine pre e.samples old₁ old₂ h₁
      rw [copyEntries, Int.toNat_natCast]
      change copyInto (pre ++ (old₁ ++ old₂)) used e.samples >>= _ = _
      rw [hcopy, List.flatMap_cons, ← List.append_assoc, ← List.append_assoc]
      exact ih hl (by rw [List.length_append, he.length_samples, hpre]) h₂
    · -- an entry left out has no width, and nothing is copied for it
      rw [if_neg hplace] at hold ⊢
      rw [if_neg hplace, copyEntries, List.take_zero, copyInto, copyTo_nil]
      exact ih hl hpre hold

end Place

/-- Entries are compared by their offsets. -/
lemma vancEntComp_le_zero {a b : KlvancEntry} : vancEntComp a b ≤ 0 ↔ a.hOffset ≤ b.hOffset := by
  unfold vancEntComp
  split_ifs <;> omega

/-- The two passes on entries that come in the order of the sort. -/
lemma klvancGenerateVancLine_eq (qsort : Qsort) (fresh : ℕ → Word) {line : KlvancLine}
    (h : ∀ e ∈ line.entries, e.Filled) (W : ℤ) :
    klvancGenerateVancLine qsort fresh line W =
      pure (0, (placeEntries W (qsort.sort line.entries) 0).1,
        if totalWidth (placed W 0 (qsort.sort line.entries)) = 0 then none
        else some ((placed W 0 (qsort.sort line.entries)).flatMap KlvancEntry.samples)) := by
  have hsorted : ∀ e ∈ qsort.sort line.entries, e.Filled := fun e he =>
    h e ((qsort.perm line.entries).mem_iff.mp he)
  have hused := @placeEntries_pixelsUsed W 0 (qsort.sort line.entries)
  rw [Nat.zero_add] at hused
  unfold klvancGenerateVancLine
  simp only [hused]
  split_ifs with hz
  · rfl
  · have hcopy := @copyEntries_placeEntries W 0 _ hsorted []
      ((List.range (totalWidth (placed W 0 (qsort.sort line.entries)))).map fresh) rfl (by simp)
    rw [List.nil_append, List.nil_append] at hcopy
    rw [hcopy]
    rfl

/-- There is an order of the entries of a line, nondecreasing in their offsets, in which
`klvanc_generate_vanc_line` takes every entry that is legal and fits behind the ones taken before,
and puts out the samples of the entries taken one after the other, at most `W` of them. It returns
0, and an entry that is left out makes no difference to the others. -/
theorem klvancGenerateVancLine_layout (qsort : Qsort) (fresh : ℕ → Word) {line : KlvancLine}
    (h : ∀ e ∈ line.entries, e.Filled) {W : ℤ} (hW : 0 ≤ W) :
    ∃ order : List KlvancEntry, order.Perm line.entries ∧
      order.Pairwise (fun a b => a.hOffset ≤ b.hOffset) ∧
      (klvancGenerateVancLine qsort fresh line W).Safe ∧
      (klvancGenerateVancLine qsort fresh line W).val.1 = 0 ∧
      (klvancGenerateVancLine qsort fresh line W).val.2.2 =
        (if totalWidth (placed W 0 order) = 0 then none
        else some ((placed W 0 order).flatMap KlvancEntry.samples)) ∧
      (placed W 0 order).Sublist order ∧
      (∀ e ∈ order, e.samples.length = e.pixelWidth) ∧
      ((placed W 0 order).flatMap KlvancEntry.samples).length = totalWidth (placed W 0 order) ∧
      (totalWidth (placed W 0 order) : ℤ) ≤ W ∧
      ∀ before e after, order = before ++ e :: after →
        ¬(e.Legal ∧ (totalWidth (placed W 0 before) : ℤ) + e.pixelWidth ≤ W) →
        placed W 0 order = placed W 0 (before ++ after) := by
  have hfilled : ∀ e ∈ qsort.sort line.entries, e.Filled := fun e he =>
    h e ((qsort.perm line.entries).mem_iff.mp he)
  have hsub : (placed W 0 (qsort.sort line.entries)).Sublist (qsort.sort line.entries) :=
    greedy_sublist _
  have htotal := @greedy_totalSize_le _ KlvancEntry.Legal _ KlvancEntry.pixelWidth W 0
    (by simpa using hW) (qsort.sort line.entries)
  rw [Nat.cast_zero, zero_add] at htotal
  have heq := klvancGenerateVancLine_eq qsort fresh h W
  refine ⟨qsort.sort line.entries, qsort.perm _, ?_, ?_, ?_, ?_, hsub,
    fun e he => (hfilled e he).length_samples,
    length_flatMap_samples fun e he => hfilled e (hsub.subset he), htotal, ?_⟩
  · exact (qsort.sorted line.entries).imp fun hab => vancEntComp_le_zero.mp hab
  · rw [heq]
    exact Checked.safe_pure _
  · rw [heq]
    rfl
  · rw [heq]
    rfl
  · intro before e after horder hskip
    rw [horder]
    apply greedy_skip
    simpa [placed, totalWidth] using hskip

/-- A line with a negative offset, two equal ones, an illegal entry and one that does not fit. -/
def crowdedLine : KlvancLine where
  lineNumber := 9
  entries := [⟨7, [0, 0x3FF, 0x3FF, 0x104], 4⟩, ⟨-2, [0, 0x3FF, 0x3FF, 0x3FC], 4⟩,
    ⟨7, [0, 0x3FF, 0x3FF, 0x105, 0x106], 5⟩, ⟨0, [0, 0x3FF], 2⟩]

/-- On six samples the entry at offset 0 and one of the two at offset 7 are placed. -/
theorem klvancGenerateVancLine_layout_crowded :
    ∃ order : List KlvancEntry, order.Perm crowdedLine.entries ∧
      some [0, 0x3FF, 0, 0x3FF, 0x3FF, 0x104] =
        if totalWidth (placed 6 0 order) = 0 then none
        else some ((placed 6 0 order).flatMap KlvancEntry.samples) := by
  obtain ⟨order, hperm, -, -, -, hout, -⟩ := @klvancGenerateVancLine_layout Qsort.insertion
    (fun _ => 0) crowdedLine (by decide) 6 (by decide)
  exact ⟨order, hperm, hout⟩

end Libklvanc
