import Libklvanc.Core.Pixels

/-!
# Laying out a line

`core-lines.c`: packets are collected on the lines of a line set, and `klvanc_generate_vanc_line`
lays the packets of one line out without gaps and overlaps;
`klvanc_generate_vanc_line_v210` packs the samples it puts out. The library sorts them with the C
library's `qsort`, which may put entries of equal offset in either order: a `Qsort` is any function
that sorts.
-/

namespace Libklvanc

/-- `KLVANC_MAX_VANC_LINES`. -/
def maxVancLines : ℕ := 64

/-- `KLVANC_MAX_VANC_ENTRIES`. -/
def maxVancEntries : ℕ := 16

/-- `struct klvanc_entry_s`. -/
structure KlvancEntry where
  hOffset : ℤ
  payload : List Word
  pixelWidth : ℕ
  deriving DecidableEq

/-- `struct klvanc_line_s`; `num_entries` is the number of `entries`. -/
structure KlvancLine where
  lineNumber : ℤ
  entries : List KlvancEntry := []
  /-- The entries fit the array `p_entries`. -/
  entries_le : entries.length ≤ maxVancEntries := by decide
  deriving DecidableEq

/-- `struct klvanc_line_set_s`. -/
structure KlvancLineSet where
  numLines : ℕ := 0
  lines : Vector (Option KlvancLine) maxVancLines := Vector.replicate maxVancLines none
  deriving DecidableEq

/-- The slot found by the loop of `klvanc_line_insert`: the first one that is free or holds the line
`lineNumber`. -/
def KlvancLineSet.findSlot (set : KlvancLineSet) (lineNumber : ℤ) : Option (Fin maxVancLines) :=
  (List.finRange maxVancLines).find? fun i =>
    match set.lines[i] with
    | none => true
    | some line => line.lineNumber == lineNumber

/-- The line in a slot, if there is one. -/
def KlvancLineSet.slot (set : KlvancLineSet) (i : Fin maxVancLines) : Option KlvancLine :=
  set.lines[i]

lemma KlvancLineSet.getElem_lines (set : KlvancLineSet) (i : Fin maxVancLines) :
    set.lines[i] = set.slot i := rfl

/-- The set with `line` in a slot. -/
def KlvancLineSet.withSlot (set : KlvancLineSet) (i : Fin maxVancLines) (numLines : ℕ)
    (line : KlvancLine) : KlvancLineSet :=
  { numLines, lines := set.lines.set i (some line) }

lemma KlvancLineSet.slot_withSlot (set : KlvancLineSet) (i : Fin maxVancLines) (numLines : ℕ)
    (line : KlvancLine) : (set.withSlot i numLines line).slot i = some line :=
  Vector.getElem_set_self i.isLt

lemma KlvancLineSet.slot_withSlot_ne (set : KlvancLineSet) {i j : Fin maxVancLines}
    (h : (i : ℕ) ≠ j) (numLines : ℕ) (line : KlvancLine) :
    (set.withSlot i numLines line).slot j = set.slot j :=
  Vector.getElem_set_ne i.isLt j.isLt h

/-- `klvanc_line_create`. -/
def klvancLineCreate (lineNumber : ℤ) : KlvancLine := { lineNumber := lineNumber }

/-- `klvanc_line_insert` of the `pixel_width` samples `pixels`. -/
def klvancLineInsert (set : KlvancLineSet) (pixels : List Word) (lineNumber horizontalOffset : ℤ) :
    ℤ × KlvancLineSet :=
  let newEntry : KlvancEntry :=
    { hOffset := horizontalOffset, payload := pixels, pixelWidth := pixels.length }
  match set.findSlot lineNumber with
  | none => (-enomem, set)
  | some i =>
    -- a line is created in a free slot, before the entries are counted
    let (line, set) : KlvancLine × KlvancLineSet :=
      match set.lines[i] with
      | none =>
        let line := klvancLineCreate lineNumber
        (line, { numLines := set.numLines + 1, lines := set.lines.set i (some line) })
      | some line => (line, set)
    if h : line.entries.length < maxVancEntries then
      let line : KlvancLine :=
        { line with
          entries := line.entries ++ [newEntry]
          entries_le := by simpa using h }
      (0, { set with lines := set.lines.set i (some line) })
    else (-enomem, set)

/-- `vanc_ent_comp`. -/
def vancEntComp (a b : KlvancEntry) : ℤ :=
  if a.hOffset < b.hOffset then -1 else if a.hOffset = b.hOffset then 0 else 1

/-- `qsort` with `vanc_ent_comp`. -/
structure Qsort where
  /-- The array after the call. -/
  sort : List KlvancEntry → List KlvancEntry
  /-- The entries are the same. -/
  perm : ∀ l, (sort l).Perm l
  /-- No entry is behind a greater one. -/
  sorted : ∀ l, (sort l).Pairwise fun a b => vancEntComp a b ≤ 0

/-- Insertion sort is one such function. -/
def Qsort.insertion : Qsort where
  sort := List.insertionSort fun a b => a.hOffset ≤ b.hOffset
  perm := List.perm_insertionSort _
  sorted l := (List.pairwise_insertionSort (fun a b : KlvancEntry => a.hOffset ≤ b.hOffset) l).imp
    fun {a b} (h : a.hOffset ≤ b.hOffset) => by
      unfold vancEntComp
      split_ifs <;> omega

/-- A word that no VANC packet carries behind its ADF. -/
def isIllegal (w : Word) : Bool := decide (w.toNat ≤ 0x0003) || decide (0x03FC ≤ w.toNat)

/-- One round of the first loop of `klvanc_generate_vanc_line`, with `pixelsUsed` samples taken:
close up with the previous entry, and drop an entry that is illegal or does not fit. -/
def placeEntry (linePixelWidth : ℤ) (entry : KlvancEntry) (pixelsUsed : ℕ) : KlvancEntry × ℕ :=
  let entry :=
    if entry.hOffset < pixelsUsed then { entry with hOffset := pixelsUsed }
    else if (pixelsUsed : ℤ) < entry.hOffset then { entry with hOffset := pixelsUsed }
    else entry
  let entry :=
    if ((entry.payload.take entry.pixelWidth).drop 3).any isIllegal then
      { entry with pixelWidth := 0 }
    else entry
  if linePixelWidth < entry.hOffset + entry.pixelWidth then
    ({ entry with pixelWidth := 0 }, pixelsUsed)
  else (entry, pixelsUsed + entry.pixelWidth)

/-- The first loop of `klvanc_generate_vanc_line`: the entries as it leaves them and the number of
samples they take. -/
def placeEntries (linePixelWidth : ℤ) : List KlvancEntry → ℕ → List KlvancEntry × ℕ
  | [], pixelsUsed => ([], pixelsUsed)
  | entry :: entries, pixelsUsed =>
    let (entry, pixelsUsed) := placeEntry linePixelWidth entry pixelsUsed
    let (entries, pixelsUsed) := placeEntries linePixelWidth entries pixelsUsed
    (entry :: entries, pixelsUsed)

/-- `memcpy` of `ws` into the buffer at `off`. -/
def copyInto (buf : List Word) (off : ℕ) (ws : List Word) : Checked Fault (List Word) :=
  copyTo .outLine buf off ws

/-- The second loop of `klvanc_generate_vanc_line`. The first one has made the offsets
nonnegative. -/
def copyEntries : List KlvancEntry → List Word → Checked Fault (List Word)
  | [], buf => pure buf
  | entry :: entries, buf => do
    let buf ← copyInto buf entry.hOffset.toNat (entry.payload.take entry.pixelWidth)
    copyEntries entries buf

/-- `klvanc_generate_vanc_line`: what it returns, the entries of the line as it leaves them, and the
samples put out, if any entry is placed; `fresh` is what the new buffer holds. -/
def klvancGenerateVancLine (qsort : Qsort) (fresh : ℕ → Word) (line : KlvancLine)
    (linePixelWidth : ℤ) : Checked Fault (ℤ × List KlvancEntry × Option (List Word)) :=
  let (entries, pixelsUsed) := placeEntries linePixelWidth (qsort.sort line.entries) 0
  if pixelsUsed = 0 then pure (0, entries, none)
  else do
    let buf ← copyEntries entries ((List.range pixelsUsed).map fresh)
    pure (0, entries, some buf)

/-- `klvanc_generate_vanc_line_v210`: what it returns, the entries of the line as it leaves them,
and the buffer `outBuf` after the call. -/
def klvancGenerateVancLineV210 (qsort : Qsort) (fresh : ℕ → Word) (line : KlvancLine)
    (outBuf : List (BitVec 32)) (linePixelWidth : ℤ) :
    Checked Fault (ℤ × List KlvancEntry × List (BitVec 32)) := do
  let (result, entries, out) ← klvancGenerateVancLine qsort fresh line linePixelWidth
  if result ≠ 0 then pure (-enomem, entries, outBuf)
  else
    match out with
    -- `out_line` and `out_len` are packed all the same
    | none => Checked.fault .unassigned (0, entries, outBuf)
    | some outLine => do
      let outBuf ←
        (if 720 < linePixelWidth then klvancY10ToV210 outLine outBuf outLine.length
         else klvancUyvyToV210 outLine outBuf outLine.length)
      pure (0, entries, outBuf)

end Libklvanc
