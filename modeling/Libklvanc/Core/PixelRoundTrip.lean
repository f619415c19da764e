import Libklvanc.Core.PixelLayout

/-!
# v210 packing is undone by unpacking

An unpacker writes the components of a v210 line in their order, each through the pointer whose turn
it is: `klvanc_v210_line_to_uyvy_c` all through one, `klvanc_v210_line_to_nv20_c` the even ones
through the pointer into the chroma half of the destination and the odd ones through the pointer
into the luma half. `Follows` says so of the states of an unpacker, and carries both loops. With the
components that the packers lay out (`v210Component_overlay`) the samples come back
(`v210_packing_undone`).
-/

namespace Libklvanc

/-! ### Components in their order -/

/-- `st m p` are the states of an unpacker that has written the first `m` components `comp` and
stands at word `p`, up to `N` components: component `m` is written through `ptr m`. -/
structure Follows {σ π : Type} [PixelPointers σ π] (comp : ℕ → Word) (st : ℕ → ℕ → σ) (ptr : ℕ → π)
    (N : ℕ) : Prop where
  src : ∀ m p, PixelPointers.src (st m p) = p
  skip : ∀ m p, PixelPointers.skip (st m p) = st m (p + 1)
  put : ∀ m p (x : BitVec 32), m < N → x.setWidth 16 = comp m →
    PixelPointers.put (ptr m) x (st m p) = pure (st (m + 1) p)

/-- The components of word `p`. -/
lemma v210Component_word (v210 : List (BitVec 32)) (p : ℕ) {t : ℕ} (ht : t < 3) :
    ((v210.getD p 0 >>> (10 * t) &&& 0x3ff).setWidth 16 : Word) =
      v210Component v210 (3 * p + t) := by
  have hdiv : (3 * p + t) / 3 = p := by omega
  have hmod : (3 * p + t) % 3 = t := by omega
  rw [v210Component, hdiv, hmod]

namespace Follows

variable {σ π : Type} [PixelPointers σ π] {v210 : List (BitVec 32)} {st : ℕ → ℕ → σ} {ptr : ℕ → π}
  {N : ℕ}

/-- Component `t` of word `p` is written through the pointer whose turn it is. -/
lemma put_eq (h : Follows (v210Component v210) st ptr N) {p t : ℕ} (ht : t < 3)
    (hN : 3 * p + t < N) {a : π} (ha : a = ptr (3 * p + t)) (q : ℕ) :
    PixelPointers.put a (v210.getD p 0 >>> (10 * t) &&& 0x3ff) (st (3 * p + t) q) =
      pure (st (3 * p + t + 1) q) := by
  subst ha
  exact h.put _ q _ hN (v210Component_word v210 p ht)

/-- `READ_PIXELS` writes the three components of a word. -/
lemma readPixels_eq (h : Follows (v210Component v210) st ptr N) {p : ℕ} (hN : 3 * p + 3 ≤ N)
    (hp : p < v210.length) {a b c : π} (ha : a = ptr (3 * p)) (hb : b = ptr (3 * p + 1))
    (hc : c = ptr (3 * p + 2)) :
    readPixels v210 a b c (st (3 * p) p) = pure (st (3 * (p + 1)) (p + 1)) := by
  have h₀ := h.put_eq (t := 0) (by norm_num) (by omega) ha (p + 1)
  have h₁ := h.put_eq (t := 1) (by norm_num) (by omega) hb (p + 1)
  have h₂ := h.put_eq (t := 2) (by norm_num) (by omega) hc (p + 1)
  rw [readPixels, h.src, readAt, Checked.read_of_lt _ _ _ hp, pure_bind]
  dsimp only
  rw [h.skip]
  exact (congrArg (· >>= _) h₀).trans (by rw [pure_bind, h₁, pure_bind, h₂]; rfl)

end Follows

section Unpack

variable {v210 : List (BitVec 32)} {dst : List Word} {W : ℕ}

/-! ### Luma and chroma apart -/

/-- The cells written when `m` components have been put, the odd ones from the beginning and the
even ones from cell `W` on. -/
def nv20Cells (comp : ℕ → Word) (W m : ℕ) : ℕ → Option Word := fun j =>
  if j < m / 2 then some (comp (2 * j + 1))
  else if W ≤ j ∧ j < W + (m + 1) / 2 then some (comp (2 * (j - W)))
  else none

/-- An even component is written in the chroma half. -/
lemma update_nv20Cells_even {comp : ℕ → Word} {m : ℕ} (hm : m % 2 = 0) :
    Function.update (nv20Cells comp W m) (W + (m + 1) / 2) (some (comp m)) =
      nv20Cells comp W (m + 1) := by
  funext j
  have hluma : (m + 1) / 2 = m / 2 := by omega
  by_cases hj : j = W + (m + 1) / 2
  · have hnot : ¬j < (m + 1) / 2 := by omega
    have hcomp : 2 * (j - W) = m := by omega
    rw [hj, Function.update_self, ← hj, nv20Cells, if_neg hnot, if_pos (by omega), hcomp]
  · have hiff : W ≤ j ∧ j < W + m / 2 ↔ W ≤ j ∧ j < W + (m + 1 + 1) / 2 := by omega
    rw [Function.update_of_ne hj]
    simp only [nv20Cells, hiff, hluma]

/-- An odd component is written in the luma half. -/
lemma update_nv20Cells_odd {comp : ℕ → Word} {m : ℕ} (hm : m % 2 = 1) :
    Function.update (nv20Cells comp W m) (m / 2) (some (comp m)) = nv20Cells comp W (m + 1) := by
  funext j
  have hchroma : (m + 1 + 1) / 2 = (m + 1) / 2 := by omega
  by_cases hj : j = m / 2
  · have hcomp : 2 * j + 1 = m := by omega
    rw [hj, Function.update_self, ← hj, nv20Cells, if_pos (by omega), hcomp]
  · have hiff : j < m / 2 ↔ j < (m + 1) / 2 := by omega
    rw [Function.update_of_ne hj]
    simp only [nv20Cells, hiff, hchroma]

/-- The state when `m` components have been put, at word `p`. -/
def nv20State (comp : ℕ → Word) (dst : List Word) (W m p : ℕ) : V210Reader where
  src := p
  buf := overlay dst (nv20Cells comp W m)
  dst := m / 2
  uv := W + (m + 1) / 2

/-- The pointer through which component `m` is written. -/
def nv20Ptr (m : ℕ) : PixelPtr := if m % 2 = 0 then .uv else .dst

/-- Both halves of the destination are filled in turn. -/
lemma nv20_follows (comp : ℕ → Word) (hdst : 2 * W ≤ dst.length) :
    Follows comp (nv20State comp dst W) nv20Ptr (2 * W) where
  src _ _ := rfl
  skip _ _ := rfl
  put m p x hm hx := by
    change V210Reader.put (nv20Ptr m) x (nv20State comp dst W m p) = _
    have hlen : (overlay dst (nv20Cells comp W m)).length = dst.length := by simp
    rcases Nat.mod_two_eq_zero_or_one m with heven | hodd
    · have hstep : W + (m + 1) / 2 + 1 = W + (m + 1 + 1) / 2 := by omega
      have hluma : m / 2 = (m + 1) / 2 := by omega
      rw [nv20Ptr, if_pos heven, V210Reader.put]
      apply Checked.ext
      · simp only [nv20State, Checked.pure_val]
        rw [hx, overlay_set, update_nv20Cells_even heven, hstep, hluma]
      · simp only [nv20State, hlen, Checked.pure_faults]
        exact if_pos (by omega)
    · have hstep : m / 2 + 1 = (m + 1) / 2 := by omega
      have hchroma : (m + 1) / 2 = (m + 1 + 1) / 2 := by omega
      rw [nv20Ptr, if_neg (by omega), V210Reader.put]
      apply Checked.ext
      · simp only [nv20State, Checked.pure_val]
        rw [hx, overlay_set, update_nv20Cells_odd hodd, hstep, ← hchroma]
      · simp only [nv20State, hlen, Checked.pure_faults]
        exact if_pos (by omega)

/-- The pointer into the chroma half has its turn at the even components. -/
lemma uv_eq_nv20Ptr {m : ℕ} (h : m % 2 = 0) : PixelPtr.uv = nv20Ptr m := (if_pos h).symm

/-- The pointer into the luma half has its turn at the odd components. -/
lemma dst_eq_nv20Ptr {m : ℕ} (h : m % 2 = 1) : PixelPtr.dst = nv20Ptr m :=
  (if_neg (by omega)).symm

/-- A round of the loop writes twelve components, and the loop ends with the last whole group of six
pixels. -/
lemma nv20Loop_eq (hdst : 2 * W ≤ dst.length) (hv210 : 4 * (W / 6) ≤ v210.length) {k : ℕ}
    (hk : k ≤ W / 6) :
    nv20Loop v210 (W : ℕ) (6 * k : ℕ)
        (nv20State (v210Component v210) dst W (3 * (4 * k)) (4 * k)) =
      pure (((6 * (W / 6) : ℕ) : ℤ),
        nv20State (v210Component v210) dst W (3 * (4 * (W / 6))) (4 * (W / 6))) := by
  have hfollows := nv20_follows (v210Component v210) hdst
  induction hk using Nat.decreasingInduction with
  | self =>
    rw [nv20Loop, if_neg (by omega)]
  | of_succ k hk ih =>
    have h₀ := hfollows.readPixels_eq (p := 4 * k) (by omega) (by omega) (uv_eq_nv20Ptr (by omega))
      (dst_eq_nv20Ptr (by omega)) (uv_eq_nv20Ptr (by omega))
    have h₁ := hfollows.readPixels_eq (p := 4 * k + 1) (by omega) (by omega)
      (dst_eq_nv20Ptr (by omega)) (uv_eq_nv20Ptr (by omega)) (dst_eq_nv20Ptr (by omega))
    have h₂ := hfollows.readPixels_eq (p := 4 * k + 2) (by omega) (by omega)
      (uv_eq_nv20Ptr (by omega)) (dst_eq_nv20Ptr (by omega)) (uv_eq_nv20Ptr (by omega))
    have h₃ := hfollows.readPixels_eq (p := 4 * k + 3) (by omega) (by omega)
      (dst_eq_nv20Ptr (by omega)) (uv_eq_nv20Ptr (by omega)) (dst_eq_nv20Ptr (by omega))
    have hnext : ((6 * k : ℕ) : ℤ) + 6 = ((6 * (k + 1) : ℕ) : ℤ) := by
      push_cast
      ring
    rw [nv20Loop, if_pos (by omega), h₀, pure_bind, h₁, pure_bind, h₂, pure_bind, h₃, pure_bind,
      hnext]
    exact ih

/-- Before anything is put the destination is as it was. -/
lemma nv20State_zero (comp : ℕ → Word) (dst : List Word) (W : ℕ) :
    nv20State comp dst W (3 * (4 * 0)) (4 * 0) =
      { src := 0, buf := dst, dst := 0, uv := (W : ℤ).toNat } := by
  have hnone : nv20Cells comp W (3 * (4 * 0)) = fun _ => none := by
    funext j
    simp [nv20Cells]
  rw [nv20State, hnone, overlay_none]
  rfl

/-- The components of a word are written one by one through the pointers whose turn it is. -/
lemma nv20_put (hdst : 2 * W ≤ dst.length) {p t : ℕ} (ht : t < 3) (hN : 3 * p + t < 2 * W)
    {a : PixelPtr} (ha : a = nv20Ptr (3 * p + t)) (q : ℕ) :
    (nv20State (v210Component v210) dst W (3 * p + t) q).put a
        (v210.getD p 0 >>> (10 * t) &&& 0x3ff) =
      pure (nv20State (v210Component v210) dst W (3 * p + t + 1) q) :=
  (nv20_follows (v210Component v210) hdst).put_eq ht hN ha q

/-- The first two pixels behind the whole groups of six: a word, and one component of the next. -/
lemma nv20_first_pixels (hdst : 2 * W ≤ dst.length) {p : ℕ} (heven : p % 2 = 0)
    (hN : 3 * p + 4 ≤ 2 * W) (hp : p + 1 < v210.length) :
    (do
      let s : V210Reader ← readPixels v210 PixelPtr.uv .dst .uv
        (nv20State (v210Component v210) dst W (3 * p) p)
      let val ← readAt .v210 v210 s.src
      let s ← { s with src := s.src + 1 }.put .dst (val &&& 0x3ff)
      pure (s, val)) =
      pure (nv20State (v210Component v210) dst W (3 * (p + 1) + 1) (p + 2),
        v210.getD (p + 1) 0) := by
  have hread := (nv20_follows (v210Component v210) hdst).readPixels_eq (p := p) (by omega)
    (by omega) (uv_eq_nv20Ptr (by omega)) (dst_eq_nv20Ptr (by omega)) (uv_eq_nv20Ptr (by omega))
  have hsrc : (nv20State (v210Component v210) dst W (3 * (p + 1)) (p + 1)).src = p + 1 := rfl
  have hput : { nv20State (v210Component v210) dst W (3 * (p + 1)) (p + 1) with
      src := p + 1 + 1 }.put .dst (v210.getD (p + 1) 0 &&& 0x3ff) =
      pure (nv20State (v210Component v210) dst W (3 * (p + 1) + 1) (p + 2)) :=
    nv20_put hdst (t := 0) (by norm_num) (by omega) (dst_eq_nv20Ptr (by omega)) (p + 2)
  rw [hread, pure_bind, hsrc, readAt, Checked.read_of_lt _ _ _ hp, pure_bind, hput, pure_bind]

/-- Two more pixels: the rest of that word, and two components of the next. -/
lemma nv20_more_pixels (hdst : 2 * W ≤ dst.length) {p : ℕ} (hodd : p % 2 = 1)
    (hN : 3 * p + 5 ≤ 2 * W) (hp : p + 1 < v210.length) :
    (do
      let s ← (nv20State (v210Component v210) dst W (3 * p + 1) (p + 1)).put .uv
        (v210.getD p 0 >>> 10 &&& 0x3ff)
      let s ← s.put .dst (v210.getD p 0 >>> 20 &&& 0x3ff)
      let val ← readAt .v210 v210 s.src
      let s ← { s with src := s.src + 1 }.put .uv (val &&& 0x3ff)
      s.put .dst (val >>> 10 &&& 0x3ff)) =
      pure (nv20State (v210Component v210) dst W (3 * (p + 1) + 2) (p + 2)) := by
  have hput₁ := @nv20_put v210 dst W hdst p 1 (by norm_num) (by omega) _
    (uv_eq_nv20Ptr (by omega)) (p + 1)
  have hput₂ := @nv20_put v210 dst W hdst p 2 (by norm_num) (by omega) _
    (dst_eq_nv20Ptr (by omega)) (p + 1)
  have hsrc : (nv20State (v210Component v210) dst W (3 * p + 2 + 1) (p + 1)).src = p + 1 := rfl
  have hput₃ : { nv20State (v210Component v210) dst W (3 * p + 2 + 1) (p + 1) with
      src := p + 1 + 1 }.put .uv (v210.getD (p + 1) 0 &&& 0x3ff) =
      pure (nv20State (v210Component v210) dst W (3 * (p + 1) + 1) (p + 2)) :=
    nv20_put hdst (t := 0) (by norm_num) (by omega) (uv_eq_nv20Ptr (by omega)) (p + 2)
  have hput₄ := @nv20_put v210 dst W hdst (p + 1) 1 (by norm_num) (by omega) _
    (dst_eq_nv20Ptr (by omega)) (p + 2)
  rw [hput₁, pure_bind, hput₂, pure_bind, hsrc, readAt, Checked.read_of_lt _ _ _ hp, pure_bind,
    hput₃, pure_bind, hput₄]

/-- For an even width `klvanc_v210_line_to_nv20_c` writes the odd components of the line and then,
from cell `width` on, the even ones. -/
theorem klvancV210LineToNv20C_eq (hW : 0 < W) (heven : W % 2 = 0) {dstSizeBytes : ℤ}
    (hsize : (W : ℤ) * 6 ≤ dstSizeBytes) (hdst : 2 * W ≤ dst.length)
    (hv210 : (2 * W + 2) / 3 ≤ v210.length) :
    klvancV210LineToNv20C v210 dst dstSizeBytes W =
      pure (0, overlay dst (nv20Cells (v210Component v210) W (2 * W))) := by
  have hloop := @nv20Loop_eq v210 dst W hdst (by omega) 0 (Nat.zero_le _)
  rw [nv20State_zero, Nat.mul_zero, Nat.cast_zero] at hloop
  rw [klvancV210LineToNv20C, if_neg (by omega), if_neg (by omega), hloop, pure_bind]
  dsimp only
  -- the widths that leave no pixel, two pixels and four pixels behind the groups of six
  obtain hrest | hrest | hrest : W % 6 = 0 ∨ W % 6 = 2 ∨ W % 6 = 4 := by omega
  · have hend : 3 * (4 * (W / 6)) = 2 * W := by omega
    rw [if_neg (by omega), pure_bind]
    dsimp only
    rw [if_neg (by omega), pure_bind, hend]
    rfl
  · have hfirst := @nv20_first_pixels v210 dst W hdst (4 * (W / 6)) (by omega) (by omega) (by omega)
    have hend : 3 * (4 * (W / 6) + 1) + 1 = 2 * W := by omega
    rw [if_pos (by omega), hfirst, pure_bind]
    dsimp only
    rw [if_neg (by omega), pure_bind, hend]
    rfl
  · have hfirst := @nv20_first_pixels v210 dst W hdst (4 * (W / 6)) (by omega) (by omega) (by omega)
    have hmore := @nv20_more_pixels v210 dst W hdst (4 * (W / 6) + 1) (by omega) (by omega)
      (by omega)
    have hend : 3 * (4 * (W / 6) + 1 + 1) + 2 = 2 * W := by omega
    rw [if_pos (by omega), hfirst, pure_bind]
    dsimp only
    rw [if_pos (by omega), hmore, pure_bind, hend]
    rfl

/-! ### Interleaved components -/

/-- The number of groups of six pixels that cover a width. -/
def pixelGroups (width : ℤ) : ℕ := ((width + 5) / 6).toNat

/-- The state when `m` components have been written one behind the other, at word `p`. -/
def uyvyState (comp : ℕ → Word) (dst : List Word) (m p : ℕ) : V210Reader where
  src := p
  buf := overlay dst (firstCells comp m)
  dst := m
  uv := 0

/-- The destination is filled from its beginning. -/
lemma uyvy_follows (comp : ℕ → Word) (dst : List Word) :
    Follows comp (uyvyState comp dst) (fun _ => .dst) dst.length where
  src _ _ := rfl
  skip _ _ := rfl
  put m p x hm hx := by
    change V210Reader.put .dst x (uyvyState comp dst m p) = _
    have hlen : (overlay dst (firstCells comp m)).length = dst.length := by simp
    rw [V210Reader.put]
    apply Checked.ext
    · simp only [uyvyState, Checked.pure_val]
      rw [hx, overlay_set, update_firstCells]
    · simp only [uyvyState, hlen, Checked.pure_faults]
      exact if_pos hm

/-- The loop makes `r` rounds of twelve components when `r` groups of six pixels cover the width. -/
lemma uyvyLoop_eq {r : ℕ} {width : ℤ} (hlow : ∀ k : ℕ, k < r → ((6 * k : ℕ) : ℤ) < width)
    (hhigh : width ≤ (6 * r : ℕ)) (hdst : 12 * r ≤ dst.length) (hv210 : 4 * r ≤ v210.length) {k : ℕ}
    (hk : k ≤ r) :
    uyvyLoop v210 width (6 * k : ℕ) (uyvyState (v210Component v210) dst (3 * (4 * k)) (4 * k)) =
      pure (uyvyState (v210Component v210) dst (3 * (4 * r)) (4 * r)) := by
  have hfollows := uyvy_follows (v210Component v210) dst
  induction hk using Nat.decreasingInduction with
  | self =>
    rw [uyvyLoop, if_neg (not_lt.mpr hhigh)]
  | of_succ k hk ih =>
    have hword : ∀ p, p < 4 * r → readPixels v210 .dst .dst .dst
        (uyvyState (v210Component v210) dst (3 * p) p) =
        pure (uyvyState (v210Component v210) dst (3 * (p + 1)) (p + 1)) := fun p hp =>
      hfollows.readPixels_eq (by omega) (by omega) rfl rfl rfl
    have hnext : ((6 * k : ℕ) : ℤ) + 6 = ((6 * (k + 1) : ℕ) : ℤ) := by
      push_cast
      ring
    rw [uyvyLoop, if_pos (hlow k hk), hword _ (by omega), pure_bind, hword _ (by omega), pure_bind,
      hword _ (by omega), pure_bind, hword _ (by omega), pure_bind, hnext]
    exact ih

/-- `klvanc_v210_line_to_uyvy_c` writes the components of the groups of six pixels that cover the
width. -/
theorem klvancV210LineToUyvyC_eq {width : ℤ} (hdst : 12 * pixelGroups width ≤ dst.length)
    (hv210 : 4 * pixelGroups width ≤ v210.length) :
    klvancV210LineToUyvyC v210 dst width =
      pure (overlay dst (firstCells (v210Component v210) (12 * pixelGroups width))) := by
  have hloop := @uyvyLoop_eq v210 dst (pixelGroups width) width
    (fun k hk => by rw [pixelGroups] at hk; omega) (by rw [pixelGroups]; omega) hdst hv210 0
    (Nat.zero_le _)
  have hstart : uyvyState (v210Component v210) dst (3 * (4 * 0)) (4 * 0) =
      { src := 0, buf := dst, dst := 0, uv := 0 } := by
    rw [uyvyState, firstCells_zero, overlay_none]
  have htwelve : 3 * (4 * pixelGroups width) = 12 * pixelGroups width := by omega
  rw [hstart, Nat.mul_zero, Nat.cast_zero] at hloop
  rw [klvancV210LineToUyvyC, hloop, pure_bind, htwelve]
  rfl

end Unpack

/-! ### Packing and unpacking -/

/-- The packer writes exactly the words that hold one of the samples, sample `i` being component
`place i` of the line: over any buffer that has these words it meets no fault, leaves every other
word as it is, and puts every sample in its place. -/
def PacksExactly (pack : List Word → List (BitVec 32) → ℕ → Checked Fault (List (BitVec 32)))
    (place : ℕ → ℕ) (samples : List Word) : Prop :=
  ∃ new : ℕ → Option (BitVec 32),
    (∀ k, (new k).isSome = true ↔ ∃ i < samples.length, place i / 3 = k) ∧
    ∀ buf : List (BitVec 32), (∀ k, (new k).isSome = true → k < buf.length) →
      pack samples buf samples.length = pure (overlay buf new) ∧
      ∀ (i : ℕ) (hi : i < samples.length), v210Component (overlay buf new) (place i) = samples[i]

section RoundTrip

variable {samples : List Word}

/-- Samples are determined by the components of their places. -/
lemma map_range_eq_samples {f : ℕ → Word} (h : ∀ (i : ℕ) (hi : i < samples.length),
    f i = samples[i]) : (List.range samples.length).map f = samples := by
  apply List.ext_getElem
  · simp
  · intro i h₁ h₂
    rw [List.getElem_map, List.getElem_range]
    exact h i h₂

/-- A packer that writes the words of a line of components up to the one of the last sample writes
exactly the words that hold a sample. -/
lemma packsExactly_of_eq
    {pack : List Word → List (BitVec 32) → ℕ → Checked Fault (List (BitVec 32))} {place : ℕ → ℕ}
    {comp : ℕ → Word} {count : ℕ} (hcomp : ∀ i, (comp i).toNat < 1024)
    (hplace : ∀ (i : ℕ) (hi : i < samples.length), comp (place i) = samples[i])
    (hcount : ∀ k, k < count ↔ ∃ i < samples.length, place i / 3 = k)
    (hpack : ∀ buf : List (BitVec 32), count ≤ buf.length →
      pack samples buf samples.length = pure (overlay buf (firstCells (lineWord comp) count))) :
    PacksExactly pack place samples := by
  have hsome : ∀ k, (firstCells (lineWord comp) count k).isSome = true ↔ k < count := by
    intro k
    by_cases hk : k < count <;> simp [firstCells, hk]
  refine ⟨firstCells (lineWord comp) count, fun k => (hsome k).trans (hcount k), ?_⟩
  intro buf hbuf
  have hle : count ≤ buf.length := by
    by_contra hlt
    have hfits := hbuf buf.length ((hsome _).mpr (not_le.mp hlt))
    exact lt_irrefl _ hfits
  refine ⟨hpack buf hle, fun i hi => ?_⟩
  rw [v210Component_overlay hcomp hle ((hcount _).mpr ⟨i, hi, rfl⟩), hplace i hi]

/-- Luma sample `i` is component `2 * i + 1`. -/
lemma y10Component_place (i : ℕ) (hi : i < samples.length) :
    y10Component samples (2 * i + 1) = samples[i] := by
  have hhalf : (2 * i + 1) / 2 = i := by omega
  rw [y10Component, if_neg (by omega), hhalf, List.getD_eq_getElem samples _ hi]

/-- The luma packer writes exactly the words that hold a sample. -/
lemma packsExactly_y10 (h : ∀ s ∈ samples, s.toNat < 1024) :
    PacksExactly klvancY10ToV210 (2 * · + 1) samples := by
  refine packsExactly_of_eq (y10Component_lt h) y10Component_place (fun k => ?_)
    fun buf hbuf => klvancY10ToV210_eq hbuf
  rw [y10Words]
  constructor
  · intro hk
    exact ⟨min ((3 * k + 1) / 2) (samples.length - 1), by omega, by omega⟩
  · rintro ⟨i, hi, rfl⟩
    omega

/-- The packer of interleaved samples writes exactly the words that hold a sample. -/
lemma packsExactly_uyvy (h : ∀ s ∈ samples, s.toNat < 1024) :
    PacksExactly klvancUyvyToV210 id samples := by
  refine packsExactly_of_eq (uyvyComponent_lt h) (fun i hi => List.getD_eq_getElem samples _ hi)
    (fun k => ?_) fun buf hbuf => klvancUyvyToV210_eq hbuf
  rw [uyvyWords]
  constructor
  · intro hk
    exact ⟨3 * k, by omega, by simp⟩
  · rintro ⟨i, hi, rfl⟩
    rw [id_eq]
    omega

/-- Luma samples come back from a line of whole groups of six pixels. -/
lemma klvancV210LineToNv20C_y10 (h : ∀ s ∈ samples, s.toNat < 1024) {v210 : List (BitVec 32)}
    {dst : List Word} {r : ℕ} {dstSizeBytes : ℤ} (hr : 0 < r) (hW : samples.length ≤ 6 * r)
    (hv210 : 4 * r ≤ v210.length) (hsize : 6 * (6 * r : ℕ) ≤ dstSizeBytes)
    (hdst : dstSizeBytes ≤ 2 * dst.length) :
    ∃ packed out, klvancY10ToV210 samples v210 samples.length = pure packed ∧
      klvancV210LineToNv20C packed dst dstSizeBytes (6 * r : ℕ) = pure (0, out) ∧
      out.take samples.length = samples := by
  have hwords : y10Words samples.length ≤ v210.length := by
    rw [y10Words]
    omega
  have hunpack := @klvancV210LineToNv20C_eq
    (overlay v210 (firstCells (lineWord (y10Component samples)) (y10Words samples.length))) dst
    (6 * r) (by omega) (by omega) dstSizeBytes (by omega) (by omega)
    (by rw [overlay_length]; omega)
  refine ⟨_, _, klvancY10ToV210_eq hwords, hunpack, ?_⟩
  have hcells : ∀ comp, ∀ i < samples.length,
      nv20Cells comp (6 * r) (2 * (6 * r)) i = some (comp (2 * i + 1)) := fun comp i hi =>
    if_pos (by omega)
  rw [overlay_take (by omega) (hcells _)]
  apply map_range_eq_samples
  intro i hi
  rw [v210Component_overlay (y10Component_lt h) hwords (by rw [y10Words]; omega),
    y10Component_place i hi]

/-- Interleaved samples come back from a line of a width that covers them. -/
lemma klvancV210LineToUyvyC_uyvy (h : ∀ s ∈ samples, s.toNat < 1024) {v210 : List (BitVec 32)}
    {dst : List Word} {width : ℤ} (hwidth : samples.length ≤ 12 * pixelGroups width)
    (hv210 : 4 * pixelGroups width ≤ v210.length) (hdst : 12 * pixelGroups width ≤ dst.length) :
    ∃ packed out, klvancUyvyToV210 samples v210 samples.length = pure packed ∧
      klvancV210LineToUyvyC packed dst width = pure out ∧
      out.take samples.length = samples := by
  have hwords : uyvyWords samples.length ≤ v210.length := by
    rw [uyvyWords]
    omega
  have hunpack := @klvancV210LineToUyvyC_eq
    (overlay v210 (firstCells (lineWord (uyvyComponent samples)) (uyvyWords samples.length))) dst
    width hdst (by rw [overlay_length]; exact hv210)
  refine ⟨_, _, klvancUyvyToV210_eq hwords, hunpack, ?_⟩
  have hcells : ∀ comp, ∀ i < samples.length,
      firstCells comp (12 * pixelGroups width) i = some (comp i : Word) := fun comp i hi =>
    if_pos (by omega)
  rw [overlay_take (by omega) (hcells _)]
  apply map_range_eq_samples
  intro i hi
  rw [v210Component_overlay (uyvyComponent_lt h) hwords (by rw [uyvyWords]; omega),
    uyvyComponent, List.getD_eq_getElem samples _ hi]

/-- Samples below 1024 come back from a v210 line. Packed by `klvanc_y10_to_v210` they are the first
luma samples that `klvanc_v210_line_to_nv20_c` writes with any positive multiple of six as its width
that is not less than their number; packed by `klvanc_uyvy_to_v210` they are the first samples that
`klvanc_v210_line_to_uyvy_c` writes with any width whose groups of six pixels, twelve samples each,
cover them. What else the buffers hold does not matter, and each packer writes exactly the words
that hold one of the samples. -/
theorem v210_packing_undone (h : ∀ s ∈ samples, s.toNat < 1024) :
    (∀ (v210 : List (BitVec 32)) (dst : List Word) (dstSizeBytes W : ℤ), 0 < W → 6 ∣ W →
      samples.length ≤ W → 4 * (W / 6) ≤ v210.length → W * 6 ≤ dstSizeBytes →
      dstSizeBytes ≤ 2 * dst.length →
      ∃ packed out, klvancY10ToV210 samples v210 samples.length = pure packed ∧
        klvancV210LineToNv20C packed dst dstSizeBytes W = pure (0, out) ∧
        out.take samples.length = samples) ∧
    (∀ (v210 : List (BitVec 32)) (dst : List Word) (width : ℤ),
      samples.length ≤ 12 * pixelGroups width → 4 * pixelGroups width ≤ v210.length →
      12 * pixelGroups width ≤ dst.length →
      ∃ packed out, klvancUyvyToV210 samples v210 samples.length = pure packed ∧
        klvancV210LineToUyvyC packed dst width = pure out ∧
        out.take samples.length = samples) ∧
    PacksExactly klvancY10ToV210 (2 * · + 1) samples ∧
    PacksExactly klvancUyvyToV210 id samples := by
  refine ⟨?_, ?_, packsExactly_y10 h, packsExactly_uyvy h⟩
  · intro v210 dst dstSizeBytes W hpos hdvd hW hv210 hsize hdst
    obtain ⟨r, rfl⟩ : ∃ r : ℕ, W = (6 * r : ℕ) := ⟨(W / 6).toNat, by omega⟩
    exact klvancV210LineToNv20C_y10 h (by omega) (by omega) (by omega) (by omega) hdst
  · intro v210 dst width hwidth hv210 hdst
    exact klvancV210LineToUyvyC_uyvy h hwidth hv210 hdst

end RoundTrip

/-- Samples that fill no whole group of either packer. -/
def eightSamples : List Word := [0, 1, 0x3ff, 0x3ff, 0x161, 0x102, 0x200, 0x040]

/-- They come back from a line of 12 luma samples and from one of 4 pixels. -/
theorem v210_packing_undone_eight :
    (∃ packed out,
      klvancY10ToV210 eightSamples (List.replicate 8 0xffffffff) eightSamples.length = pure packed ∧
        klvancV210LineToNv20C packed (List.replicate 36 0) 72 12 = pure (0, out) ∧
        out.take eightSamples.length = eightSamples) ∧
    ∃ packed out,
      klvancUyvyToV210 eightSamples (List.replicate 4 0xffffffff) eightSamples.length =
          pure packed ∧
        klvancV210LineToUyvyC packed (List.replicate 12 0) 4 = pure out ∧
        out.take eightSamples.length = eightSamples := by
  obtain ⟨hy10, huyvy, -⟩ := @v210_packing_undone eightSamples (by simp [eightSamples])
  exact ⟨hy10 (List.replicate 8 0xffffffff) (List.replicate 36 0) 72 12 (by decide) (by decide)
      (by decide) (by decide) (by decide) (by decide),
    huyvy (List.replicate 4 0xffffffff) (List.replicate 12 0) 4 (by decide) (by decide) (by decide)⟩

end Libklvanc
