import Libklvanc.Core.LineLayout
import Libklvanc.Core.PixelLayout

/-!
# Packing a generated line

`klvanc_generate_vanc_line` returns 0 also for a line on which no entry is placed, and then leaves
its outputs unassigned; `klvanc_generate_vanc_line_v210` packs them without a check. Hence what the
two functions promise holds exactly for the lines of which some entry is legal, not empty and not
wider than the line (`v210Agrees_iff`). Whether such an entry is there does not depend on the order
in which the entries are tried (`placed_totalWidth_eq_zero_iff`), since nothing is placed before the
first one.
-/

namespace Libklvanc

/-- The words of the v210 packing of some samples, of luma samples on lines wider than 720. -/
def v210Cells (linePixelWidth : ℤ) (samples : List Word) : ℕ → Option (BitVec 32) :=
  if 720 < linePixelWidth then
    firstCells (lineWord (y10Component samples)) (y10Words samples.length)
  else firstCells (lineWord (uyvyComponent samples)) (uyvyWords samples.length)

/-- The number of words of the packing of `n` samples. -/
def v210Words (linePixelWidth : ℤ) (n : ℕ) : ℕ :=
  if 720 < linePixelWidth then y10Words n else uyvyWords n

section Pack

variable {qsort : Qsort} {fresh : ℕ → Word} {line : KlvancLine} {W : ℤ}

/-- No sample is placed exactly when every entry that is legal and fits the line alone is empty. -/
lemma placed_totalWidth_eq_zero_iff :
    totalWidth (placed W 0 (qsort.sort line.entries)) = 0 ↔
      ¬∃ e ∈ line.entries, e.Legal ∧ 0 < e.pixelWidth ∧ (e.pixelWidth : ℤ) ≤ W := by
  rw [totalWidth, placed, greedy_totalSize_eq_zero_iff]
  simp only [(qsort.perm line.entries).mem_iff, Nat.cast_zero, zero_add]
  constructor
  · rintro hall ⟨e, he, hlegal, hpos, hfit⟩
    exact hpos.ne' (hall e he hlegal hfit)
  · intro hnone e he hlegal hfit
    by_contra hne
    exact hnone ⟨e, he, hlegal, Nat.pos_of_ne_zero hne, hfit⟩

/-- The packers write the packing of the samples. -/
lemma klvancToV210_eq {samples : List Word} {outBuf : List (BitVec 32)}
    (h : v210Words W samples.length ≤ outBuf.length) :
    (if 720 < W then klvancY10ToV210 samples outBuf samples.length
      else klvancUyvyToV210 samples outBuf samples.length) =
      pure (overlay outBuf (v210Cells W samples)) := by
  unfold v210Words at h
  unfold v210Cells
  split_ifs at h ⊢ with hwide
  · exact klvancY10ToV210_eq h
  · exact klvancUyvyToV210_eq h

/-- More samples take no fewer words. -/
lemma v210Words_mono {m n : ℕ} (h : m ≤ n) : v210Words W m ≤ v210Words W n := by
  unfold v210Words
  split_ifs
  · simp only [y10Words]
    omega
  · simp only [uyvyWords]
    omega

/-- When nothing survives, the outputs are left unassigned. -/
lemma klvancGenerateVancLine_of_none (hfilled : ∀ e ∈ line.entries, e.Filled)
    (hnone : ¬∃ e ∈ line.entries, e.Legal ∧ 0 < e.pixelWidth ∧ (e.pixelWidth : ℤ) ≤ W) :
    klvancGenerateVancLine qsort fresh line W =
      pure (0, (placeEntries W (qsort.sort line.entries) 0).1, none) := by
  have hgen := klvancGenerateVancLine_eq qsort fresh hfilled W
  rwa [if_pos (placed_totalWidth_eq_zero_iff.mpr hnone)] at hgen

/-- When something survives, it is put out, at most as many samples as the line has. -/
lemma klvancGenerateVancLine_of_some (hfilled : ∀ e ∈ line.entries, e.Filled)
    (hsome : ∃ e ∈ line.entries, e.Legal ∧ 0 < e.pixelWidth ∧ (e.pixelWidth : ℤ) ≤ W) :
    ∃ samples : List Word, samples.length ≤ W.toNat ∧ klvancGenerateVancLine qsort fresh line W =
      pure (0, (placeEntries W (qsort.sort line.entries) 0).1, some samples) := by
  have hgen := klvancGenerateVancLine_eq qsort fresh hfilled W
  have hpos : ¬totalWidth (placed W 0 (qsort.sort line.entries)) = 0 := fun hz =>
    placed_totalWidth_eq_zero_iff.mp hz hsome
  have hplaced : ∀ e ∈ placed W 0 (qsort.sort line.entries), e.Filled := fun e he =>
    hfilled e ((qsort.perm line.entries).mem_iff.mp ((greedy_sublist _).subset he))
  have hW : 0 ≤ W := by
    obtain ⟨e, -, -, -, hfit⟩ := hsome
    exact (Int.natCast_nonneg _).trans hfit
  have htotal := @greedy_totalSize_le _ KlvancEntry.Legal _ KlvancEntry.pixelWidth W 0
    (by simpa using hW) (qsort.sort line.entries)
  rw [if_neg hpos] at hgen
  refine ⟨_, ?_, hgen⟩
  rw [length_flatMap_samples hplaced, totalWidth, placed]
  omega

/-- The samples put out are packed. -/
lemma klvancGenerateVancLineV210_of_some {entries : List KlvancEntry} {samples : List Word}
    {outBuf : List (BitVec 32)}
    (hgen : klvancGenerateVancLine qsort fresh line W = pure (0, entries, some samples))
    (hout : v210Words W samples.length ≤ outBuf.length) :
    klvancGenerateVancLineV210 qsort fresh line outBuf W =
      pure (0, entries, overlay outBuf (v210Cells W samples)) := by
  rw [klvancGenerateVancLineV210, hgen, pure_bind]
  dsimp only
  rw [if_neg (not_not.mpr rfl), klvancToV210_eq hout, pure_bind]

/-- `klvanc_generate_vanc_line_v210` uses variables without a value exactly when nothing
survives. -/
theorem klvancGenerateVancLineV210_safe_iff (hfilled : ∀ e ∈ line.entries, e.Filled)
    {outBuf : List (BitVec 32)} (hout : v210Words W W.toNat ≤ outBuf.length) :
    (klvancGenerateVancLineV210 qsort fresh line outBuf W).Safe ↔
      ∃ e ∈ line.entries, e.Legal ∧ 0 < e.pixelWidth ∧ (e.pixelWidth : ℤ) ≤ W := by
  constructor
  · intro hsafe
    by_contra hnone
    rw [klvancGenerateVancLineV210, klvancGenerateVancLine_of_none hfilled hnone,
      pure_bind] at hsafe
    exact Checked.not_safe_fault _ _ hsafe
  · intro hsome
    obtain ⟨samples, hlength, hgen⟩ :=
      @klvancGenerateVancLine_of_some qsort fresh line W hfilled hsome
    rw [klvancGenerateVancLineV210_of_some hgen ((v210Words_mono hlength).trans hout)]
    exact Checked.safe_pure _

end Pack

end Libklvanc
