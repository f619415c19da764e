import Libklvanc.Core.Basic

/-!
# v210 lines

`core-pixels.c`: a v210 line holds three 10-bit components in each of its 32-bit words. The packers
`klvanc_y10_to_v210` and `klvanc_uyvy_to_v210` make such a line of luma samples and of interleaved
samples, the unpackers `klvanc_v210_line_to_nv20_c`, `klvanc_v210_line_to_uyvy_c` and
`klvanc_v210_planar_unpack_c` take one apart.
A v210 buffer is a list of words and a pointer into it a position. The packers are modelled for
widths that are not negative.
-/

namespace Libklvanc

/-! ### Packers -/

/-- A v210 buffer and the pointer `dst` of a packer. -/
structure V210Writer where
  buf : List (BitVec 32)
  dst : ℕ

/-- `put_le32`. -/
def putLe32 (d : BitVec 32) (p : V210Writer) : Checked Fault V210Writer :=
  ⟨{ buf := p.buf.set p.dst d, dst := p.dst + 1 },
    if p.dst < p.buf.length then [] else [.write .v210 p.dst]⟩

/-- `a | (b << 10) | (c << 20)`. -/
def packPixels (a b c : Word) : BitVec 32 :=
  a.setWidth 32 ||| b.setWidth 32 <<< 10 ||| c.setWidth 32 <<< 20

/-- `put_le32` of three components. -/
def putPixels (x y z : Checked Fault Word) (p : V210Writer) : Checked Fault V210Writer := do
  let a ← x
  let b ← y
  let c ← z
  putLe32 (packPixels a b c) p

/-- The chroma component of a blank pixel. -/
abbrev blankChroma : Checked Fault Word := pure 0x200

/-- The luma component of a blank pixel. -/
abbrev blankLuma : Checked Fault Word := pure 0x040

/-- `src[i]`. -/
abbrev pixel (src : List Word) (i : ℕ) : Checked Fault Word := readAt .pixels src i

/-- The body of the loop of `klvanc_y10_to_v210`. -/
def y10Group (src : List Word) (w : ℕ) (p : V210Writer) : Checked Fault V210Writer := do
  let p ← putPixels blankChroma (pixel src (w * 6 + 0)) blankChroma p
  let p ← putPixels (pixel src (w * 6 + 1)) blankChroma (pixel src (w * 6 + 2)) p
  let p ← putPixels blankChroma (pixel src (w * 6 + 3)) blankChroma p
  putPixels (pixel src (w * 6 + 4)) blankChroma (pixel src (w * 6 + 5)) p

/-- What `klvanc_y10_to_v210` does with the last 0 to 5 samples. -/
def y10Rest (src : List Word) (width w : ℕ) (p : V210Writer) : Checked Fault V210Writer := do
  let p ←
    (if 0 < width % 6 then putPixels blankChroma (pixel src (w * 6 + 0)) blankChroma p
     else pure p)
  let p ←
    (if 2 < width % 6 then putPixels (pixel src (w * 6 + 1)) blankChroma (pixel src (w * 6 + 2)) p
     else if 1 < width % 6 then putPixels (pixel src (w * 6 + 1)) blankChroma blankLuma p
     else pure p)
  let p ←
    (if 3 < width % 6 then putPixels blankChroma (pixel src (w * 6 + 3)) blankChroma p
     else pure p)
  if 4 < width % 6 then putPixels (pixel src (w * 6 + 4)) blankChroma blankLuma p
  else pure p

/-- `klvanc_y10_to_v210`: the buffer `dst` after the call. -/
def klvancY10ToV210 (src : List Word) (dst : List (BitVec 32)) (width : ℕ) :
    Checked Fault (List (BitVec 32)) := do
  let len := width / 6
  let p ← (List.range len).foldlM (fun p w => y10Group src w p) ⟨dst, 0⟩
  let p ← y10Rest src width len p
  pure p.buf

/-- The body of the loop of `klvanc_uyvy_to_v210`. -/
def uyvyGroup (src : List Word) (w : ℕ) (p : V210Writer) : Checked Fault V210Writer := do
  let p ← putPixels (pixel src (w * 12 + 0)) (pixel src (w * 12 + 1)) (pixel src (w * 12 + 2)) p
  let p ← putPixels (pixel src (w * 12 + 3)) (pixel src (w * 12 + 4)) (pixel src (w * 12 + 5)) p
  let p ← putPixels (pixel src (w * 12 + 6)) (pixel src (w * 12 + 7)) (pixel src (w * 12 + 8)) p
  putPixels (pixel src (w * 12 + 9)) (pixel src (w * 12 + 10)) (pixel src (w * 12 + 11)) p

/-- What `klvanc_uyvy_to_v210` does with the last 0 to 11 samples. -/
def uyvyRest (src : List Word) (width w : ℕ) (p : V210Writer) : Checked Fault V210Writer := do
  let p ←
    (if 2 < width % 12 then
       putPixels (pixel src (w * 12 + 0)) (pixel src (w * 12 + 1)) (pixel src (w * 12 + 2)) p
     else if 1 < width % 12 then
       putPixels (pixel src (w * 12 + 0)) (pixel src (w * 12 + 1)) blankChroma p
     else if 0 < width % 12 then putPixels (pixel src (w * 12 + 0)) blankLuma blankChroma p
     else pure p)
  let p ←
    (if 5 < width % 12 then
       putPixels (pixel src (w * 12 + 3)) (pixel src (w * 12 + 4)) (pixel src (w * 12 + 5)) p
     else if 4 < width % 12 then
       putPixels (pixel src (w * 12 + 3)) (pixel src (w * 12 + 4)) blankLuma p
     else if 3 < width % 12 then putPixels (pixel src (w * 12 + 3)) blankChroma blankLuma p
     else pure p)
  let p ←
    (if 8 < width % 12 then
       putPixels (pixel src (w * 12 + 6)) (pixel src (w * 12 + 7)) (pixel src (w * 12 + 8)) p
     else if 7 < width % 12 then
       putPixels (pixel src (w * 12 + 6)) (pixel src (w * 12 + 7)) blankChroma p
     else if 6 < width % 12 then putPixels (pixel src (w * 12 + 6)) blankLuma blankChroma p
     else pure p)
  if 10 < width % 12 then
    putPixels (pixel src (w * 12 + 9)) (pixel src (w * 12 + 10)) blankLuma p
  else if 9 < width % 12 then putPixels (pixel src (w * 12 + 9)) blankChroma blankLuma p
  else pure p

/-- `klvanc_uyvy_to_v210`: the buffer `dst` after the call. -/
def klvancUyvyToV210 (src : List Word) (dst : List (BitVec 32)) (width : ℕ) :
    Checked Fault (List (BitVec 32)) := do
  let len := width / 12
  let p ← (List.range len).foldlM (fun p w => uyvyGroup src w p) ⟨dst, 0⟩
  let p ← uyvyRest src width len p
  pure p.buf

/-! ### Unpackers -/

/-- The pointers of an unpacker and the buffers behind them: what `READ_PIXELS` works on. -/
class PixelPointers (σ : Type) (π : outParam Type) where
  /-- The pointer `src`. -/
  src : σ → ℕ
  /-- `src++`. -/
  skip : σ → σ
  /-- `*ptr++ = x`. -/
  put : π → BitVec 32 → σ → Checked Fault σ

/-- `READ_PIXELS`. -/
def readPixels {σ π : Type} [PixelPointers σ π] (v210 : List (BitVec 32)) (a b c : π) (s : σ) :
    Checked Fault σ := do
  let val ← readAt .v210 v210 (PixelPointers.src s)
  let s := PixelPointers.skip s
  let s ← PixelPointers.put a (val &&& 0x3ff) s
  let s ← PixelPointers.put b (val >>> 10 &&& 0x3ff) s
  PixelPointers.put c (val >>> 20 &&& 0x3ff) s

/-- The pointers an unpacker into one buffer writes through. -/
inductive PixelPtr
  | dst
  | uv

/-- The samples written by an unpacker and its pointers: `src` into the line, `dst` and `uv` into
the samples. -/
structure V210Reader where
  src : ℕ
  buf : List Word
  dst : ℕ
  uv : ℕ
  deriving DecidableEq

/-- `*ptr++ = x`. -/
def V210Reader.put (ptr : PixelPtr) (x : BitVec 32) (s : V210Reader) : Checked Fault V210Reader :=
  match ptr with
  | .dst => ⟨{ s with buf := s.buf.set s.dst (x.setWidth 16), dst := s.dst + 1 },
      if s.dst < s.buf.length then [] else [.write .pixels s.dst]⟩
  | .uv => ⟨{ s with buf := s.buf.set s.uv (x.setWidth 16), uv := s.uv + 1 },
      if s.uv < s.buf.length then [] else [.write .pixels s.uv]⟩

instance : PixelPointers V210Reader PixelPtr where
  src := V210Reader.src
  skip s := { s with src := s.src + 1 }
  put := V210Reader.put

/-- The loop of `klvanc_v210_line_to_nv20_c` from `w` on: the value of `w` after it, and the
pointers. -/
def nv20Loop (v210 : List (BitVec 32)) (width w : ℤ) (s : V210Reader) :
    Checked Fault (ℤ × V210Reader) :=
  if w < width - 5 then do
    let s ← readPixels v210 .uv .dst .uv s
    let s ← readPixels v210 .dst .uv .dst s
    let s ← readPixels v210 .uv .dst .uv s
    let s ← readPixels v210 .dst .uv .dst s
    nv20Loop v210 width (w + 6) s
  else pure (w, s)
termination_by (width - w).toNat

/-- `klvanc_v210_line_to_nv20_c`: what it returns, and the buffer `dst` after the call. -/
def klvancV210LineToNv20C (src : List (BitVec 32)) (dst : List Word) (dstSizeBytes width : ℤ) :
    Checked Fault (ℤ × List Word) :=
  if width = 0 then pure (-1, dst)
  else if dstSizeBytes < width * 6 then pure (-1, dst)
  else do
    -- nothing is written through `uv` when the width is negative
    let (w, s) ← nv20Loop src width 0 { src := 0, buf := dst, dst := 0, uv := width.toNat }
    let (s, val) ←
      (if w < width - 1 then do
        let s ← readPixels src .uv .dst .uv s
        let val ← readAt .v210 src s.src
        let s ← { s with src := s.src + 1 }.put .dst (val &&& 0x3ff)
        pure (s, val)
      else pure (s, 0))
    let s ←
      (if w < width - 3 then do
        let s ← s.put .uv (val >>> 10 &&& 0x3ff)
        let s ← s.put .dst (val >>> 20 &&& 0x3ff)
        let val ← readAt .v210 src s.src
        let s ← { s with src := s.src + 1 }.put .uv (val &&& 0x3ff)
        s.put .dst (val >>> 10 &&& 0x3ff)
      else pure s)
    pure (0, s.buf)

/-- The loop of `klvanc_v210_line_to_uyvy_c` from `i` on. -/
def uyvyLoop (v210 : List (BitVec 32)) (width i : ℤ) (s : V210Reader) :
    Checked Fault V210Reader :=
  if i < width then do
    let s ← readPixels v210 .dst .dst .dst s
    let s ← readPixels v210 .dst .dst .dst s
    let s ← readPixels v210 .dst .dst .dst s
    let s ← readPixels v210 .dst .dst .dst s
    uyvyLoop v210 width (i + 6) s
  else pure s
termination_by (width - i).toNat

/-- `klvanc_v210_line_to_uyvy_c`: the buffer `dst` after the call. -/
def klvancV210LineToUyvyC (src : List (BitVec 32)) (dst : List Word) (width : ℤ) :
    Checked Fault (List Word) := do
  let s ← uyvyLoop src width 0 { src := 0, buf := dst, dst := 0, uv := 0 }
  pure s.buf

/-- The planes that `klvanc_v210_planar_unpack_c` writes. -/
inductive PixelPlane
  | y
  | u
  | v

/-- The samples of one plane and the pointer into it. -/
structure PlaneWriter where
  buf : List Word
  pos : ℕ

/-- `*ptr++ = x`. -/
def PlaneWriter.put (x : BitVec 32) (p : PlaneWriter) : Checked Fault PlaneWriter :=
  ⟨{ buf := p.buf.set p.pos (x.setWidth 16), pos := p.pos + 1 },
    if p.pos < p.buf.length then [] else [.write .pixels p.pos]⟩

/-- The planes, and the pointer `src` into the line. -/
structure PlanarReader where
  src : ℕ
  y : PlaneWriter
  u : PlaneWriter
  v : PlaneWriter

instance : PixelPointers PlanarReader PixelPlane where
  src := PlanarReader.src
  skip s := { s with src := s.src + 1 }
  put
    | .y, x, s => (fun y => { s with y }) <$> s.y.put x
    | .u, x, s => (fun u => { s with u }) <$> s.u.put x
    | .v, x, s => (fun v => { s with v }) <$> s.v.put x

/-- The loop of `klvanc_v210_planar_unpack_c` from `i` on. -/
def planarLoop (v210 : List (BitVec 32)) (width i : ℤ) (s : PlanarReader) :
    Checked Fault PlanarReader :=
  if i < width - 5 then do
    let s ← readPixels v210 .u .y .v s
    let s ← readPixels v210 .y .u .y s
    let s ← readPixels v210 .v .y .u s
    let s ← readPixels v210 .y .v .y s
    planarLoop v210 width (i + 6) s
  else pure s
termination_by (width - i).toNat

/-- `klvanc_v210_planar_unpack_c`: the buffers `y`, `u` and `v` after the call. -/
def klvancV210PlanarUnpackC (src : List (BitVec 32)) (y u v : List Word) (width : ℤ) :
    Checked Fault (List Word × List Word × List Word) := do
  let s ← planarLoop src width 0 { src := 0, y := ⟨y, 0⟩, u := ⟨u, 0⟩, v := ⟨v, 0⟩ }
  pure (s.y.buf, s.u.buf, s.v.buf)

end Libklvanc
