import Libklvanc.Foundation.Overlay
import Libklvanc.Core.Pixels

/-!
# What the packers write

Both packers lay a line of 10-bit components out in the same way, component `i` in word `i / 3`:
that of interleaved samples has the samples as its components, that of luma samples has blank chroma
components between them. After the last sample come blank components until the word is full. Hence
the words a packer writes are the words of a line of components, from the first one to the one that
holds the last sample (`klvancY10ToV210_eq`, `klvancUyvyToV210_eq`). The step of the proof is one
word: `putPixels` writes the next word of the line when it is given the components of that word
(`putPixels_writing`).
-/

namespace Libklvanc

/-- Component `i` of a v210 line. -/
def v210Component (v210 : List (BitVec 32)) (i : ℕ) : Word :=
  (v210.getD (i / 3) 0 >>> (10 * (i % 3)) &&& 0x3ff).setWidth 16

/-- Word `k` of a line of components. -/
def lineWord (comp : ℕ → Word) (k : ℕ) : BitVec 32 :=
  packPixels (comp (3 * k)) (comp (3 * k + 1)) (comp (3 * k + 2))

/-- Component `i` of a line without samples. -/
def blankComponent (i : ℕ) : Word := if i % 2 = 0 then 0x200 else 0x040

/-- Component `i` of a line of interleaved samples. -/
def uyvyComponent (src : List Word) (i : ℕ) : Word := src.getD i (blankComponent i)

/-- Component `i` of a line of luma samples. -/
def y10Component (src : List Word) (i : ℕ) : Word :=
  if i % 2 = 0 then blankComponent i else src.getD (i / 2) (blankComponent i)

/-- The number of words up to the last one that holds one of `n` interleaved samples. -/
def uyvyWords (n : ℕ) : ℕ := (n + 2) / 3

/-- The number of words up to the last one that holds one of `n` luma samples. -/
def y10Words (n : ℕ) : ℕ := (2 * n + 2) / 3

/-! ### Components of a word -/

/-- Three fields of ten bits, one above the other. -/
lemma lor_shiftLeft_fields {a b : ℕ} (ha : a < 2 ^ 10) (hb : b < 2 ^ 10) (c : ℕ) :
    a ||| b <<< 10 ||| c <<< 20 = a + 2 ^ 10 * b + 2 ^ 20 * c := by
  have hlow : b <<< 10 + a < 2 ^ 20 := by
    rw [Nat.shiftLeft_eq]
    omega
  rw [Nat.or_comm a, ← Nat.shiftLeft_add_eq_or_of_lt ha, Nat.or_comm,
    ← Nat.shiftLeft_add_eq_or_of_lt hlow, Nat.shiftLeft_eq, Nat.shiftLeft_eq]
  ring

/-- The value of a word of three components. -/
lemma packPixels_toNat {a b c : Word} (ha : a.toNat < 1024) (hb : b.toNat < 1024)
    (hc : c.toNat < 1024) :
    (packPixels a b c).toNat = a.toNat + 2 ^ 10 * b.toNat + 2 ^ 20 * c.toNat := by
  have hfit : ∀ {n s : ℕ}, n < 1024 → s ≤ 20 → n <<< s % 2 ^ 32 = n <<< s := by
    intro n s hn hs
    apply Nat.mod_eq_of_lt
    rw [Nat.shiftLeft_eq]
    calc n * 2 ^ s ≤ n * 2 ^ 20 := Nat.mul_le_mul_left n (Nat.pow_le_pow_right (by norm_num) hs)
      _ < 2 ^ 32 := by omega
  have hword : ∀ x : Word, (x.setWidth 32).toNat = x.toNat := fun x => by
    rw [BitVec.toNat_setWidth, Nat.mod_eq_of_lt (x.isLt.trans (by norm_num))]
  rw [packPixels, BitVec.toNat_or, BitVec.toNat_or, BitVec.toNat_shiftLeft,
    BitVec.toNat_shiftLeft, hword, hword, hword, hfit hb (by norm_num), hfit hc le_rfl,
    lor_shiftLeft_fields ha hb]

/-- Ten bits of a word, from bit `s` on. -/
lemma field_toNat (x : BitVec 32) (s : ℕ) :
    ((x >>> s &&& 0x3ff).setWidth 16 : Word).toNat = x.toNat / 2 ^ s % 1024 := by
  have h := Nat.and_two_pow_sub_one_eq_mod (x.toNat / 2 ^ s) 10
  rw [BitVec.toNat_setWidth, BitVec.toNat_and, BitVec.toNat_ushiftRight, Nat.shiftRight_eq_div_pow]
  have hmask : (0x3ff : BitVec 32).toNat = 2 ^ 10 - 1 := rfl
  rw [hmask, h]
  omega

/-- The components of a word. -/
lemma lineWord_component {comp : ℕ → Word} (hcomp : ∀ i, (comp i).toNat < 1024) (k : ℕ) {t : ℕ}
    (ht : t < 3) :
    ((lineWord comp k >>> (10 * t) &&& 0x3ff).setWidth 16 : Word) = comp (3 * k + t) := by
  have h₀ := hcomp (3 * k)
  have h₁ := hcomp (3 * k + 1)
  have h₂ := hcomp (3 * k + 2)
  apply BitVec.eq_of_toNat_eq
  rw [field_toNat, lineWord, packPixels_toNat h₀ h₁ h₂]
  obtain rfl | rfl | rfl : t = 0 ∨ t = 1 ∨ t = 2 := by omega
  · norm_num
    omega
  · norm_num
    omega
  · norm_num
    omega

/-- The components of a line whose first `n` words are those of a line of components. -/
lemma v210Component_overlay {comp : ℕ → Word} (hcomp : ∀ i, (comp i).toNat < 1024)
    {v210 : List (BitVec 32)} {n i : ℕ} (hn : n ≤ v210.length) (hi : i / 3 < n) :
    v210Component (overlay v210 (firstCells (lineWord comp) n)) i = comp i := by
  have hcell : firstCells (lineWord comp) n (i / 3) = some (lineWord comp (i / 3)) := if_pos hi
  have hword := overlay_getElem?_of_some hcell (hi.trans_le hn)
  rw [v210Component, List.getD_eq_getElem?_getD, hword, Option.getD_some,
    lineWord_component hcomp _ (Nat.mod_lt i (by norm_num)), Nat.div_add_mod]

/-- A blank component has 10 bits. -/
lemma blankComponent_lt (i : ℕ) : (blankComponent i).toNat < 1024 := by
  unfold blankComponent
  split_ifs
  · decide
  · decide

/-- The components of a line of 10-bit samples have 10 bits. -/
lemma uyvyComponent_lt {src : List Word} (h : ∀ s ∈ src, s.toNat < 1024) (i : ℕ) :
    (uyvyComponent src i).toNat < 1024 := by
  rw [uyvyComponent]
  by_cases hi : i < src.length
  · rw [List.getD_eq_getElem src _ hi]
    exact h _ (List.getElem_mem hi)
  · rw [List.getD_eq_default src _ (not_lt.mp hi)]
    exact blankComponent_lt i

/-- The components of a line of 10-bit luma samples have 10 bits. -/
lemma y10Component_lt {src : List Word} (h : ∀ s ∈ src, s.toNat < 1024) (i : ℕ) :
    (y10Component src i).toNat < 1024 := by
  rw [y10Component]
  split_ifs
  · exact blankComponent_lt i
  · by_cases hi : i / 2 < src.length
    · rw [List.getD_eq_getElem src _ hi]
      exact h _ (List.getElem_mem hi)
    · rw [List.getD_eq_default src _ (not_lt.mp hi)]
      exact blankComponent_lt i

/-! ### One word -/

section Pack

variable {dst : List (BitVec 32)} {comp : ℕ → Word} {src : List Word}

/-- The packer after it has written the first `m` words of a line. -/
def writing (dst : List (BitVec 32)) (comp : ℕ → Word) (m : ℕ) : V210Writer where
  buf := overlay dst (firstCells (lineWord comp) m)
  dst := m

/-- The components of the next word are written as the next word. -/
lemma putPixels_writing {x y z : Checked Fault Word} {m m' : ℕ} (hx : x = pure (comp (3 * m)))
    (hy : y = pure (comp (3 * m + 1))) (hz : z = pure (comp (3 * m + 2))) (hm : m' = m + 1)
    (hdst : m' ≤ dst.length) :
    putPixels x y z (writing dst comp m) = pure (writing dst comp m') := by
  subst hx hy hz hm
  have hlt : m < dst.length := hdst
  have hlen : (overlay dst (firstCells (lineWord comp) m)).length = dst.length := by simp
  rw [putPixels, pure_bind, pure_bind, pure_bind, putLe32]
  apply Checked.ext
  · change V210Writer.mk ((overlay dst (firstCells (lineWord comp) m)).set m (lineWord comp m))
      (m + 1) = writing dst comp (m + 1)
    rw [overlay_set, update_firstCells, writing]
  · change (if m < (overlay dst (firstCells (lineWord comp) m)).length then [] else _) = _
    rw [hlen, if_pos hlt]
    rfl

/-- Nothing more is written. -/
lemma pure_writing {m m' : ℕ} (h : m = m') :
    (pure (writing dst comp m) : Checked Fault V210Writer) = pure (writing dst comp m') := by
  rw [h]

/-- A sample is a component of a line of interleaved samples. -/
lemma pixel_uyvy {i j : ℕ} (hi : i < src.length) (hj : i = j) :
    pixel src i = pure (uyvyComponent src j) := by
  subst hj
  rw [pixel, readAt, Checked.read_of_lt _ _ _ hi, uyvyComponent, List.getD_eq_getElem src _ hi,
    List.getD_eq_getElem src _ hi]

/-- A blank chroma component after the samples. -/
lemma blankChroma_uyvy {j : ℕ} (hj : src.length ≤ j) (heven : j % 2 = 0) :
    blankChroma = pure (uyvyComponent src j) := by
  rw [uyvyComponent, List.getD_eq_default src _ hj, blankComponent, if_pos heven]

/-- A blank luma component after the samples. -/
lemma blankLuma_uyvy {j : ℕ} (hj : src.length ≤ j) (hodd : j % 2 = 1) :
    blankLuma = pure (uyvyComponent src j) := by
  rw [uyvyComponent, List.getD_eq_default src _ hj, blankComponent, if_neg (by omega)]

/-- A luma sample is an odd component of its line. -/
lemma pixel_y10 {i j : ℕ} (hi : i < src.length) (hj : j = 2 * i + 1) :
    pixel src i = pure (y10Component src j) := by
  have hhalf : j / 2 = i := by omega
  rw [pixel, readAt, Checked.read_of_lt _ _ _ hi, y10Component, if_neg (by omega), hhalf,
    List.getD_eq_getElem src _ hi, List.getD_eq_getElem src _ hi]

/-- The chroma components of a line of luma samples are blank. -/
lemma blankChroma_y10 {j : ℕ} (heven : j % 2 = 0) : blankChroma = pure (y10Component src j) := by
  rw [y10Component, if_pos heven, blankComponent, if_pos heven]

/-- A blank luma component after the samples. -/
lemma blankLuma_y10 {j : ℕ} (hj : src.length ≤ j / 2) (hodd : j % 2 = 1) :
    blankLuma = pure (y10Component src j) := by
  rw [y10Component, if_neg (by omega), List.getD_eq_default src _ hj, blankComponent,
    if_neg (by omega)]

/-! ### Luma samples -/

/-- A group of six luma samples is written as four words. -/
lemma y10Group_writing {w : ℕ} (hsrc : w * 6 + 6 ≤ src.length) (hdst : 4 * w + 4 ≤ dst.length) :
    y10Group src w (writing dst (y10Component src) (4 * w)) =
      pure (writing dst (y10Component src) (4 * (w + 1))) := by
  have hfirst := @putPixels_writing dst (y10Component src) _ _ _ (4 * w) (4 * w + 1)
    (blankChroma_y10 (by omega)) (pixel_y10 (show w * 6 + 0 < src.length by omega) (by omega))
    (blankChroma_y10 (by omega)) rfl (by omega)
  have hsecond := @putPixels_writing dst (y10Component src) _ _ _ (4 * w + 1) (4 * w + 2)
    (pixel_y10 (show w * 6 + 1 < src.length by omega) (by omega)) (blankChroma_y10 (by omega))
    (pixel_y10 (show w * 6 + 2 < src.length by omega) (by omega)) rfl (by omega)
  have hthird := @putPixels_writing dst (y10Component src) _ _ _ (4 * w + 2) (4 * w + 3)
    (blankChroma_y10 (by omega)) (pixel_y10 (show w * 6 + 3 < src.length by omega) (by omega))
    (blankChroma_y10 (by omega)) rfl (by omega)
  have hfourth := @putPixels_writing dst (y10Component src) _ _ _ (4 * w + 3) (4 * (w + 1))
    (pixel_y10 (show w * 6 + 4 < src.length by omega) (by omega)) (blankChroma_y10 (by omega))
    (pixel_y10 (show w * 6 + 5 < src.length by omega) (by omega)) (by omega) (by omega)
  rw [y10Group, hfirst, pure_bind, hsecond, pure_bind, hthird, pure_bind, hfourth]

/-- The last 0 to 5 luma samples are written as the rest of the words. -/
lemma y10Rest_writing {w : ℕ} (hw : w = src.length / 6) (hdst : y10Words src.length ≤ dst.length) :
    y10Rest src src.length w (writing dst (y10Component src) (4 * w)) =
      pure (writing dst (y10Component src) (y10Words src.length)) := by
  obtain ⟨r, hr⟩ : ∃ r, src.length % 6 = r := ⟨_, rfl⟩
  have hlen : src.length = w * 6 + r := by omega
  have hwords : y10Words src.length = 4 * w + y10Words r := by
    simp only [y10Words]
    omega
  rw [hwords] at hdst ⊢
  rw [y10Rest, hr]
  simp only [y10Words] at hdst ⊢
  -- after the block for word `t` of the group, that word is written if it holds a sample
  have hfirst : (if 0 < r then putPixels blankChroma (pixel src (w * 6 + 0)) blankChroma
        (writing dst (y10Component src) (4 * w))
      else pure (writing dst (y10Component src) (4 * w))) =
      pure (writing dst (y10Component src) (4 * w + min 1 ((2 * r + 2) / 3))) := by
    split_ifs with h₀
    · exact putPixels_writing (blankChroma_y10 (by omega)) (pixel_y10 (by omega) (by omega))
        (blankChroma_y10 (by omega)) (by omega) (by omega)
    · exact pure_writing (by omega)
  have hsecond : (if 2 < r then putPixels (pixel src (w * 6 + 1)) blankChroma
        (pixel src (w * 6 + 2)) (writing dst (y10Component src) (4 * w + min 1 ((2 * r + 2) / 3)))
      else if 1 < r then putPixels (pixel src (w * 6 + 1)) blankChroma blankLuma
        (writing dst (y10Component src) (4 * w + min 1 ((2 * r + 2) / 3)))
      else pure (writing dst (y10Component src) (4 * w + min 1 ((2 * r + 2) / 3)))) =
      pure (writing dst (y10Component src) (4 * w + min 2 ((2 * r + 2) / 3))) := by
    split_ifs with h₂ h₁
    · exact putPixels_writing (pixel_y10 (by omega) (by omega)) (blankChroma_y10 (by omega))
        (pixel_y10 (by omega) (by omega)) (by omega) (by omega)
    · exact putPixels_writing (pixel_y10 (by omega) (by omega)) (blankChroma_y10 (by omega))
        (blankLuma_y10 (by omega) (by omega)) (by omega) (by omega)
    · exact pure_writing (by omega)
  have hthird : (if 3 < r then putPixels blankChroma (pixel src (w * 6 + 3)) blankChroma
        (writing dst (y10Component src) (4 * w + min 2 ((2 * r + 2) / 3)))
      else pure (writing dst (y10Component src) (4 * w + min 2 ((2 * r + 2) / 3)))) =
      pure (writing dst (y10Component src) (4 * w + min 3 ((2 * r + 2) / 3))) := by
    split_ifs with h₃
    · exact putPixels_writing (blankChroma_y10 (by omega)) (pixel_y10 (by omega) (by omega))
        (blankChroma_y10 (by omega)) (by omega) (by omega)
    · exact pure_writing (by omega)
  rw [hfirst, pure_bind, hsecond, pure_bind, hthird, pure_bind]
  split_ifs with h₄
  · exact putPixels_writing (pixel_y10 (by omega) (by omega)) (blankChroma_y10 (by omega))
      (blankLuma_y10 (by omega) (by omega)) (by omega) (by omega)
  · exact pure_writing (by omega)

/-- The groups and the rest of the samples make up the line. -/
theorem klvancY10ToV210_eq (hdst : y10Words src.length ≤ dst.length) :
    klvancY10ToV210 src dst src.length =
      pure (overlay dst (firstCells (lineWord (y10Component src)) (y10Words src.length))) := by
  have hgroups := @Checked.foldlM_range Fault _ (fun p w => y10Group src w p)
    (fun w => writing dst (y10Component src) (4 * w)) (src.length / 6) fun w hw =>
      y10Group_writing (by omega) (by simp only [y10Words] at hdst; omega)
  have hstart : writing dst (y10Component src) (4 * 0) = ⟨dst, 0⟩ := by
    rw [writing, firstCells_zero, overlay_none]
  rw [klvancY10ToV210, ← hstart, hgroups, pure_bind, y10Rest_writing rfl hdst, pure_bind]
  rfl

/-! ### Interleaved samples -/

/-- A group of twelve interleaved samples is written as four words. -/
lemma uyvyGroup_writing {w : ℕ} (hsrc : w * 12 + 12 ≤ src.length) (hdst : 4 * w + 4 ≤ dst.length) :
    uyvyGroup src w (writing dst (uyvyComponent src) (4 * w)) =
      pure (writing dst (uyvyComponent src) (4 * (w + 1))) := by
  have hword : ∀ {i m m' : ℕ}, i = 3 * m → i + 2 < src.length → m' = m + 1 → m' ≤ dst.length →
      putPixels (pixel src i) (pixel src (i + 1)) (pixel src (i + 2))
        (writing dst (uyvyComponent src) m) = pure (writing dst (uyvyComponent src) m') := by
    intro i m m' hi hsrc hm hdst
    exact putPixels_writing (pixel_uyvy (by omega) hi) (pixel_uyvy (by omega) (by omega))
      (pixel_uyvy hsrc (by omega)) hm hdst
  have hfirst := @hword (w * 12 + 0) (4 * w) (4 * w + 1) (by omega) (by omega) rfl (by omega)
  have hsecond := @hword (w * 12 + 3) (4 * w + 1) (4 * w + 2) (by omega) (by omega) rfl (by omega)
  have hthird := @hword (w * 12 + 6) (4 * w + 2) (4 * w + 3) (by omega) (by omega) rfl (by omega)
  have hfourth := @hword (w * 12 + 9) (4 * w + 3) (4 * (w + 1)) (by omega) (by omega) (by omega)
    (by omega)
  rw [uyvyGroup, hfirst, pure_bind, hsecond, pure_bind, hthird, pure_bind, hfourth]

/-- The word of the rest whose samples begin at `i`, the `k`-th of `r` samples of the rest. It is
written if it holds a sample, with blank components after the last one. -/
lemma uyvyPart_writing {i k r m m' : ℕ} {z₁ z₂ : Checked Fault Word}
    (hsrc : src.length + k = i + r) (hi : k < r → i = 3 * m)
    (hz₁ : z₁ = pure (blankComponent (i + 1))) (hz₂ : z₂ = pure (blankComponent (i + 2)))
    (hsome : k < r → m' = m + 1) (hnone : r ≤ k → m' = m) (hdst : m' ≤ dst.length) :
    (if k + 2 < r then putPixels (pixel src i) (pixel src (i + 1)) (pixel src (i + 2))
        (writing dst (uyvyComponent src) m)
      else if k + 1 < r then putPixels (pixel src i) (pixel src (i + 1)) z₂
        (writing dst (uyvyComponent src) m)
      else if k < r then putPixels (pixel src i) z₁ z₂ (writing dst (uyvyComponent src) m)
      else pure (writing dst (uyvyComponent src) m)) =
      pure (writing dst (uyvyComponent src) m') := by
  have hblank : ∀ {j : ℕ}, src.length ≤ j → uyvyComponent src j = blankComponent j := fun hj =>
    List.getD_eq_default src _ hj
  split_ifs with h₂ h₁ h₀
  · have hm := hi (by omega)
    exact putPixels_writing (pixel_uyvy (by omega) hm) (pixel_uyvy (by omega) (by omega))
      (pixel_uyvy (by omega) (by omega)) (hsome (by omega)) hdst
  · have hm := hi (by omega)
    rw [← hblank (by omega), hm] at hz₂
    exact putPixels_writing (pixel_uyvy (by omega) hm) (pixel_uyvy (by omega) (by omega)) hz₂
      (hsome (by omega)) hdst
  · have hm := hi h₀
    rw [← hblank (by omega), hm] at hz₁ hz₂
    exact putPixels_writing (pixel_uyvy (by omega) hm) hz₁ hz₂ (hsome h₀) hdst
  · exact pure_writing (hnone (by omega)).symm

/-- The last 0 to 11 interleaved samples are written as the rest of the words. -/
lemma uyvyRest_writing {w : ℕ} (hw : w = src.length / 12)
    (hdst : uyvyWords src.length ≤ dst.length) :
    uyvyRest src src.length w (writing dst (uyvyComponent src) (4 * w)) =
      pure (writing dst (uyvyComponent src) (uyvyWords src.length)) := by
  obtain ⟨r, hr⟩ : ∃ r, src.length % 12 = r := ⟨_, rfl⟩
  have hlen : src.length = w * 12 + r := by omega
  have hwords : uyvyWords src.length = 4 * w + uyvyWords r := by
    simp only [uyvyWords]
    omega
  have hchroma : ∀ {i : ℕ}, i % 2 = 0 → blankChroma = pure (blankComponent i) := fun h => by
    rw [blankComponent, if_pos h]
  have hluma : ∀ {i : ℕ}, i % 2 = 1 → blankLuma = pure (blankComponent i) := fun h => by
    rw [blankComponent, if_neg (by omega)]
  rw [hwords] at hdst ⊢
  rw [uyvyRest, hr]
  simp only [uyvyWords] at hdst ⊢
  have hfirst := @uyvyPart_writing dst src (w * 12 + 0) 0 r (4 * w)
    (4 * w + min 1 ((r + 2) / 3)) _ _ (by omega) (by omega) (hluma (by omega)) (hchroma (by omega))
    (by omega) (by omega) (by omega)
  have hsecond := @uyvyPart_writing dst src (w * 12 + 3) 3 r (4 * w + min 1 ((r + 2) / 3))
    (4 * w + min 2 ((r + 2) / 3)) _ _ (by omega) (by omega) (hchroma (by omega)) (hluma (by omega))
    (by omega) (by omega) (by omega)
  have hthird := @uyvyPart_writing dst src (w * 12 + 6) 6 r (4 * w + min 2 ((r + 2) / 3))
    (4 * w + min 3 ((r + 2) / 3)) _ _ (by omega) (by omega) (hluma (by omega)) (hchroma (by omega))
    (by omega) (by omega) (by omega)
  rw [hfirst, pure_bind, hsecond, pure_bind, hthird, pure_bind]
  -- twelve samples would be a group, so that the fourth word is never full
  split_ifs with h₁₀ h₉
  · exact putPixels_writing (pixel_uyvy (by omega) (by omega)) (pixel_uyvy (by omega) (by omega))
      (blankLuma_uyvy (by omega) (by omega)) (by omega) (by omega)
  · exact putPixels_writing (pixel_uyvy (by omega) (by omega))
      (blankChroma_uyvy (by omega) (by omega)) (blankLuma_uyvy (by omega) (by omega)) (by omega)
      (by omega)
  · exact pure_writing (by omega)

/-- The groups and the rest of the samples make up the line. -/
theorem klvancUyvyToV210_eq (hdst : uyvyWords src.length ≤ dst.length) :
    klvancUyvyToV210 src dst src.length =
      pure (overlay dst (firstCells (lineWord (uyvyComponent src)) (uyvyWords src.length))) := by
  have hgroups := @Checked.foldlM_range Fault _ (fun p w => uyvyGroup src w p)
    (fun w => writing dst (uyvyComponent src) (4 * w)) (src.length / 12) fun w hw =>
      uyvyGroup_writing (by omega) (by simp only [uyvyWords] at hdst; omega)
  have hstart : writing dst (uyvyComponent src) (4 * 0) = ⟨dst, 0⟩ := by
    rw [writing, firstCells_zero, overlay_none]
  rw [klvancUyvyToV210, ← hstart, hgroups, pure_bind, uyvyRest_writing rfl hdst, pure_bind]
  rfl

end Pack

end Libklvanc
