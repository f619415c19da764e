import Libklvanc.Core.PixelRoundTrip

/-!
# The v210 unpackers agree

`klvanc_v210_line_to_nv20_c`, `klvanc_v210_line_to_uyvy_c` and `klvanc_v210_planar_unpack_c` put the
components of a line in different places, but each of them puts the same component where its format
has it: the first two by `klvancV210LineToNv20C_eq` and `klvancV210LineToUyvyC_eq`, the third
because its states follow the components as theirs do (`planar_follows`). So what one unpacker
writes can be read off what another one writes (`v210_unpackers_agree`).
-/

namespace Libklvanc

/-! ### Planes -/

/-- A plane whose first `n` samples are `f 0`, ..., `f (n - 1)`. -/
def planeState (buf : List Word) (f : ℕ → Word) (n : ℕ) : PlaneWriter where
  buf := overlay buf (firstCells f n)
  pos := n

/-- The next sample of a plane is written. -/
lemma planeState_put {buf : List Word} {f : ℕ → Word} {n : ℕ} {x : BitVec 32} (hn : n < buf.length)
    (hx : x.setWidth 16 = f n) :
    (planeState buf f n).put x = pure (planeState buf f (n + 1)) := by
  have hlen : (overlay buf (firstCells f n)).length = buf.length := overlay_length _ _
  apply Checked.ext
  · simp only [PlaneWriter.put, planeState, Checked.pure_val]
    rw [hx, overlay_set, update_firstCells]
  · simp only [PlaneWriter.put, planeState, hlen, Checked.pure_faults]
    exact if_pos hn

/-- The plane of component `m`. -/
def componentPlane (m : ℕ) : PixelPlane :=
  if m % 2 = 1 then .y else if m % 4 = 0 then .u else .v

lemma componentPlane_y {m : ℕ} (h : m % 2 = 1) : .y = componentPlane m := (if_pos h).symm

lemma componentPlane_u {m : ℕ} (h : m % 4 = 0) : .u = componentPlane m := by
  rw [componentPlane, if_neg (by omega), if_pos h]

lemma componentPlane_v {m : ℕ} (h : m % 4 = 2) : .v = componentPlane m := by
  rw [componentPlane, if_neg (by omega), if_neg (by omega)]

/-- The state when `m` components have been put in their planes, at word `p`. -/
def planarState (comp : ℕ → Word) (y u v : List Word) (m p : ℕ) : PlanarReader where
  src := p
  y := planeState y (fun j => comp (2 * j + 1)) (m / 2)
  u := planeState u (fun j => comp (4 * j)) ((m + 3) / 4)
  v := planeState v (fun j => comp (4 * j + 2)) ((m + 1) / 4)

section Planar

variable {v210 : List (BitVec 32)} {y u v : List Word} {r : ℕ}

/-- The planes are filled in turn. -/
lemma planar_follows (comp : ℕ → Word) (hy : 6 * r ≤ y.length) (hu : 3 * r ≤ u.length)
    (hv : 3 * r ≤ v.length) :
    Follows comp (planarState comp y u v) componentPlane (12 * r) where
  src _ _ := rfl
  skip _ _ := rfl
  put m p x hm hx := by
    obtain hodd | hfour | hfour : m % 2 = 1 ∨ m % 4 = 0 ∨ m % 4 = 2 := by omega
    · have hcomp : 2 * (m / 2) + 1 = m := by omega
      have hput := @planeState_put y (fun j => comp (2 * j + 1)) (m / 2) x (by omega)
        (hx.trans (congrArg comp hcomp.symm))
      have h₁ : m / 2 + 1 = (m + 1) / 2 := by omega
      have h₂ : (m + 3) / 4 = (m + 1 + 3) / 4 := by omega
      have h₃ : (m + 1) / 4 = (m + 1 + 1) / 4 := by omega
      rw [← componentPlane_y hodd]
      change (fun y' => { planarState comp y u v m p with y := y' }) <$> PlaneWriter.put x _ = _
      rw [planarState, hput, map_pure, planarState, h₁, h₂, h₃]
    · have hcomp : 4 * ((m + 3) / 4) = m := by omega
      have hput := @planeState_put u (fun j => comp (4 * j)) ((m + 3) / 4) x (by omega)
        (hx.trans (congrArg comp hcomp.symm))
      have h₁ : m / 2 = (m + 1) / 2 := by omega
      have h₂ : (m + 3) / 4 + 1 = (m + 1 + 3) / 4 := by omega
      have h₃ : (m + 1) / 4 = (m + 1 + 1) / 4 := by omega
      rw [← componentPlane_u hfour]
      change (fun u' => { planarState comp y u v m p with u := u' }) <$> PlaneWriter.put x _ = _
      rw [planarState, hput, map_pure, planarState, ← h₁, h₂, ← h₃]
    · have hcomp : 4 * ((m + 1) / 4) + 2 = m := by omega
      have hput := @planeState_put v (fun j => comp (4 * j + 2)) ((m + 1) / 4) x (by omega)
        (hx.trans (congrArg comp hcomp.symm))
      have h₁ : m / 2 = (m + 1) / 2 := by omega
      have h₂ : (m + 3) / 4 = (m + 1 + 3) / 4 := by omega
      have h₃ : (m + 1) / 4 + 1 = (m + 1 + 1) / 4 := by omega
      rw [← componentPlane_v hfour]
      change (fun v' => { planarState comp y u v m p with v := v' }) <$> PlaneWriter.put x _ = _
      rw [planarState, hput, map_pure, planarState, ← h₁, ← h₂, h₃]

/-- A round of the loop writes twelve components. -/
lemma planarLoop_eq (hy : 6 * r ≤ y.length) (hu : 3 * r ≤ u.length) (hv : 3 * r ≤ v.length)
    (hv210 : 4 * r ≤ v210.length) {k : ℕ} (hk : k ≤ r) :
    planarLoop v210 (6 * r : ℕ) (6 * k : ℕ)
        (planarState (v210Component v210) y u v (3 * (4 * k)) (4 * k)) =
      pure (planarState (v210Component v210) y u v (3 * (4 * r)) (4 * r)) := by
  have hfollows := planar_follows (v210Component v210) hy hu hv
  induction hk using Nat.decreasingInduction with
  | self =>
    rw [planarLoop, if_neg (by omega)]
  | of_succ k hk ih =>
    have h₀ := hfollows.readPixels_eq (p := 4 * k) (by omega) (by omega)
      (componentPlane_u (by omega)) (componentPlane_y (by omega)) (componentPlane_v (by omega))
    have h₁ := hfollows.readPixels_eq (p := 4 * k + 1) (by omega) (by omega)
      (componentPlane_y (by omega)) (componentPlane_u (by omega)) (componentPlane_y (by omega))
    have h₂ := hfollows.readPixels_eq (p := 4 * k + 2) (by omega) (by omega)
      (componentPlane_v (by omega)) (componentPlane_y (by omega)) (componentPlane_u (by omega))
    have h₃ := hfollows.readPixels_eq (p := 4 * k + 3) (by omega) (by omega)
      (componentPlane_y (by omega)) (componentPlane_v (by omega)) (componentPlane_y (by omega))
    have hnext : ((6 * k : ℕ) : ℤ) + 6 = ((6 * (k + 1) : ℕ) : ℤ) := by
      push_cast
      ring
    rw [planarLoop, if_pos (by omega), h₀, pure_bind, h₁, pure_bind, h₂, pure_bind, h₃, pure_bind,
      hnext]
    exact ih

/-- On whole groups of six pixels `klvanc_v210_planar_unpack_c` writes the odd components of the
line to `y` and the even ones in turn to `u` and `v`. -/
theorem klvancV210PlanarUnpackC_eq (hy : 6 * r ≤ y.length) (hu : 3 * r ≤ u.length)
    (hv : 3 * r ≤ v.length) (hv210 : 4 * r ≤ v210.length) :
    klvancV210PlanarUnpackC v210 y u v (6 * r : ℕ) =
      pure (overlay y (firstCells (fun j => v210Component v210 (2 * j + 1)) (6 * r)),
        overlay u (firstCells (fun j => v210Component v210 (4 * j)) (3 * r)),
        overlay v (firstCells (fun j => v210Component v210 (4 * j + 2)) (3 * r))) := by
  have hloop := @planarLoop_eq v210 y u v r hy hu hv hv210 0 (Nat.zero_le _)
  have hstart : planarState (v210Component v210) y u v (3 * (4 * 0)) (4 * 0) =
      { src := 0, y := ⟨y, 0⟩, u := ⟨u, 0⟩, v := ⟨v, 0⟩ } := by
    simp only [planarState, planeState, Nat.mul_zero, Nat.zero_add, Nat.reduceDiv, firstCells_zero,
      overlay_none]
  have hluma : 3 * (4 * r) / 2 = 6 * r := by omega
  have hu' : (3 * (4 * r) + 3) / 4 = 3 * r := by omega
  have hv' : (3 * (4 * r) + 1) / 4 = 3 * r := by omega
  rw [hstart, Nat.mul_zero, Nat.cast_zero] at hloop
  rw [klvancV210PlanarUnpackC, hloop, pure_bind, planarState, hluma, hu', hv']
  rfl

end Planar

/-! ### Agreement -/

section Agreement

variable {comp : ℕ → Word} {W i : ℕ}

/-- Luma sample `i` of the format NV20 is component `2 * i + 1`. -/
lemma nv20_luma {dst : List Word} (hdst : 2 * W ≤ dst.length) (hi : i < W) :
    (overlay dst (nv20Cells comp W (2 * W)))[i]? = some (comp (2 * i + 1)) :=
  overlay_getElem?_of_some (if_pos (by omega)) (by omega)

/-- Chroma sample `i` of the format NV20 is component `2 * i`. -/
lemma nv20_chroma {dst : List Word} (hdst : 2 * W ≤ dst.length) (hi : i < W) :
    (overlay dst (nv20Cells comp W (2 * W)))[W + i]? = some (comp (2 * i)) := by
  have hcell : nv20Cells comp W (2 * W) (W + i) = some (comp (2 * i)) := by
    rw [nv20Cells, if_neg (by omega), if_pos (by omega), Nat.add_sub_cancel_left]
  exact overlay_getElem?_of_some hcell (by omega)

/-- A sample written one behind the other is its component. -/
lemma firstCells_sample {dst : List Word} {n : ℕ} (hi : i < n) (hdst : n ≤ dst.length) :
    (overlay dst (firstCells comp n))[i]? = some (comp i) :=
  overlay_getElem?_of_some (if_pos hi) (hi.trans_le hdst)

end Agreement

/-- The unpackers agree. For an even width, the luma samples of `klvanc_v210_line_to_nv20_c` are
every second sample of `klvanc_v210_line_to_uyvy_c` from the second one on, and the chroma samples
every second one from the first one on. For a multiple of six `klvanc_v210_planar_unpack_c` puts
this luma in `y`, and the chroma samples in turn in `u` and `v`. The buffers hold what the calls
read and write, and what they hold before makes no difference. -/
theorem v210_unpackers_agree (v210 : List (BitVec 32)) {W : ℕ} (hW : 0 < W) (heven : W % 2 = 0)
    (hv210 : 4 * pixelGroups W ≤ v210.length) {dstSizeBytes : ℤ}
    (hsize : (W : ℤ) * 6 ≤ dstSizeBytes)
    {nv20 uyvy : List Word} (hnv20 : dstSizeBytes ≤ 2 * nv20.length)
    (huyvy : 12 * pixelGroups W ≤ uyvy.length) :
    ∃ out₁ out₂, klvancV210LineToNv20C v210 nv20 dstSizeBytes W = pure (0, out₁) ∧
      klvancV210LineToUyvyC v210 uyvy W = pure out₂ ∧
      out₁.length = nv20.length ∧ out₂.length = uyvy.length ∧
      (∀ i < W, out₁[i]? = out₂[2 * i + 1]? ∧ out₁[W + i]? = out₂[2 * i]?) ∧
      (6 ∣ W → ∀ y u v : List Word, W ≤ y.length → W / 2 ≤ u.length → W / 2 ≤ v.length →
        ∃ y' u' v', klvancV210PlanarUnpackC v210 y u v W = pure (y', u', v') ∧
          (∀ i < W, y'[i]? = out₁[i]?) ∧
          ∀ i < W / 2, u'[i]? = out₁[W + 2 * i]? ∧ v'[i]? = out₁[W + (2 * i + 1)]?) := by
  have hgroups : W ≤ 6 * pixelGroups W := by
    rw [pixelGroups]
    omega
  have hdst : 2 * W ≤ nv20.length := by omega
  refine ⟨_, _, klvancV210LineToNv20C_eq hW heven hsize hdst (by omega),
    klvancV210LineToUyvyC_eq huyvy hv210, overlay_length _ _, overlay_length _ _, ?_, ?_⟩
  · intro i hi
    rw [nv20_luma hdst hi, nv20_chroma hdst hi, firstCells_sample (by omega) huyvy,
      firstCells_sample (by omega) huyvy]
    exact ⟨rfl, rfl⟩
  · rintro ⟨r, rfl⟩ y u v hy hu hv
    refine ⟨_, _, _, klvancV210PlanarUnpackC_eq hy (by omega) (by omega) (by omega), ?_, ?_⟩
    · intro i hi
      rw [nv20_luma hdst hi, firstCells_sample hi hy]
    · intro i hi
      rw [nv20_chroma hdst (by omega), nv20_chroma hdst (by omega),
        firstCells_sample (by omega) (by omega), firstCells_sample (by omega) (by omega)]
      have hu' : 2 * (2 * i) = 4 * i := by ring
      have hv' : 2 * (2 * i + 1) = 4 * i + 2 := by ring
      rw [hu', hv']
      exact ⟨rfl, rfl⟩

/-- The unpackers agree on a group of six pixels. -/
theorem v210_unpackers_agree_six :
    ∃ out₁ out₂ y u v,
      klvancV210LineToNv20C (List.replicate 4 0x3ffabcde) (List.replicate 18 0) 36 6 =
          pure (0, out₁) ∧
        klvancV210LineToUyvyC (List.replicate 4 0x3ffabcde) (List.replicate 12 0) 6 = pure out₂ ∧
        klvancV210PlanarUnpackC (List.replicate 4 0x3ffabcde) (List.replicate 6 0)
          (List.replicate 3 0) (List.replicate 3 0) 6 = pure (y, u, v) ∧
        out₁[5]? = out₂[11]? ∧ y[5]? = out₁[5]? ∧ v[2]? = out₁[11]? := by
  obtain ⟨out₁, out₂, hnv20, huyvy, -, -, hagree, hplanar⟩ :=
    @v210_unpackers_agree (List.replicate 4 0x3ffabcde) 6 (by decide) (by decide) (by decide) 36
      (by decide) (List.replicate 18 0) (List.replicate 12 0) (by decide) (by decide)
  obtain ⟨y, u, v, hrun, hy, huv⟩ := hplanar (by decide) (List.replicate 6 0) (List.replicate 3 0)
    (List.replicate 3 0) (by decide) (by decide) (by decide)
  exact ⟨out₁, out₂, y, u, v, hnv20, huyvy, hrun, (hagree 5 (by decide)).1, hy 5 (by decide),
    (huv 2 (by decide)).2⟩

end Libklvanc
