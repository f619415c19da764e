import Libklvanc.Core.PacketParse
import Libklvanc.Foundation.WhileLoop

/-!
# The summing loop of the checksum

`klvanc_checksum_calculate` counts the words that it sums with a `uint16_t` and compares this
counter with `wordCount`, an `int`. As long as `wordCount` is at most 65535 the loop sums the words
and returns, and the checksum is that of ST 291 (`isSt291Checksum_iff`). From 65536 on the counter
wraps around to 0 before it reaches `wordCount`, and the loop never returns
(`klvancChecksumCalculateIn_eq_none`).
-/

namespace Libklvanc

/-! ### The code -/

/-- The variables of `klvanc_checksum_calculate`. -/
structure ChecksumLoop where
  i : Word
  s : Word
  deriving DecidableEq

/-- `i < wordCount`. -/
def ChecksumLoop.goesOn (wordCount : ℤ) (loop : ChecksumLoop) : Bool :=
  decide ((loop.i.toNat : ℤ) < wordCount)

/-- `s += *(words + i); s &= 0x01ff;` and then `i++`. -/
def ChecksumLoop.round (words : List Word) (loop : ChecksumLoop) : Checked Fault ChecksumLoop := do
  let w ← readAt .pixels words loop.i.toNat
  pure { i := loop.i + 1, s := checksumAdd loop.s w }

/-- `klvanc_checksum_calculate`, if it evaluates the condition of its loop at most `fuel` times. -/
def klvancChecksumCalculateIn (words : List Word) (wordCount : ℤ) (fuel : ℕ) :
    Option (Checked Fault Word) :=
  (WhileLoop.run (ChecksumLoop.goesOn wordCount) (ChecksumLoop.round words) fuel
    { i := 0, s := 0 }).map fun loop => (fun last => checksumClose last.s) <$> loop

/-- `*(words + i)`, where `i` may be negative. -/
def wordAt (words : List Word) (i : ℤ) : Checked Fault Word :=
  if i < 0 then Checked.fault (.before .pixels) 0 else readAt .pixels words i.toNat

/-- `klvanc_checksum_is_valid`, within the same bound. -/
def klvancChecksumIsValidIn (words : List Word) (wordCount : ℤ) (fuel : ℕ) :
    Option (Checked Fault Bool) :=
  (klvancChecksumCalculateIn words (wordCount - 1) fuel).map fun sum => do
    let sum ← sum
    let last ← wordAt words (wordCount - 1)
    pure (sum == last)

/-! ### Up to 65535 words -/

variable {words : List Word} {n : ℕ}

/-- Having summed the first words. -/
structure ChecksumLoop.Summed (words : List Word) (n : ℕ) (loop : ChecksumLoop) : Prop where
  i_le : loop.i.toNat ≤ n
  s_eq : loop.s = (words.take loop.i.toNat).foldl checksumAdd 0

/-- A round sums the next word. -/
lemma ChecksumLoop.Summed.round {loop : ChecksumLoop} (h : loop.Summed words n)
    (hcount : n ≤ words.length) (hn : n ≤ 65535) (hlt : loop.i.toNat < n) :
    (loop.round words).Safe ∧ (loop.round words).val.Summed words n ∧
      (loop.round words).val.i.toNat = loop.i.toNat + 1 := by
  have hinside : loop.i.toNat < words.length := hlt.trans_le hcount
  have hnext : (loop.i + 1).toNat = loop.i.toNat + 1 :=
    BitVec.toNat_add_of_lt (by simp; omega)
  have hround : loop.round words = pure ⟨loop.i + 1, checksumAdd loop.s words[loop.i.toNat]⟩ := by
    rw [ChecksumLoop.round, readAt, Checked.read_of_lt _ _ _ hinside,
      List.getD_eq_getElem _ _ hinside, pure_bind]
  rw [hround]
  refine ⟨Checked.safe_pure _, ⟨?_, ?_⟩, hnext⟩
  · exact hnext.trans_le hlt
  · rw [Checked.pure_val]
    dsimp only
    rw [hnext, List.take_succ_eq_append_getElem hinside, List.foldl_append, List.foldl_cons,
      List.foldl_nil, h.s_eq]

/-- The sum of up to 65535 words is returned, closed. -/
theorem klvancChecksumCalculateIn_returns (hcount : n ≤ words.length) (hn : n ≤ 65535) :
    Returns (klvancChecksumCalculateIn words n)
      (pure (klvancChecksumCalculate (words.take n))) := by
  have hstart : ChecksumLoop.Summed words n { i := 0, s := 0 } := ⟨Nat.zero_le n, rfl⟩
  obtain ⟨last, hrun, hlast, hend⟩ := @WhileLoop.run_of_variant Fault ChecksumLoop
    (ChecksumLoop.goesOn n) (ChecksumLoop.round words) (ChecksumLoop.Summed words n)
    (fun loop => n - loop.i.toNat) (fun loop h hgoes => by
      have hlt : loop.i.toNat < n := by simpa [ChecksumLoop.goesOn] using hgoes
      obtain ⟨hsafe, hsummed, hi⟩ := h.round hcount hn hlt
      exact ⟨hsafe, hsummed, by omega⟩) _ hstart
  have hi : last.i.toNat = n := by
    refine le_antisymm hlast.i_le ?_
    simpa [ChecksumLoop.goesOn] using hend
  have hreturns : Returns (fun fuel => WhileLoop.run (ChecksumLoop.goesOn n)
      (ChecksumLoop.round words) fuel { i := 0, s := 0 }) (pure last) :=
    ⟨n + 1, fun fuel hfuel => hrun fuel (lt_of_le_of_lt (Nat.sub_le _ _) hfuel)⟩
  have hclose := hreturns.map fun loop => (fun last => checksumClose last.s) <$> loop
  rw [map_pure, hlast.s_eq, hi] at hclose
  exact hclose

/-- The last word is read. -/
lemma wordAt_last (words : List Word) (last : Word) :
    wordAt (words ++ [last]) (words.length : ℤ) = pure last := by
  have hinside : words.length < (words ++ [last]).length := by
    rw [List.length_append, List.length_singleton]
    exact Nat.lt_succ_self _
  rw [wordAt, if_neg (not_lt.mpr (Int.natCast_nonneg _)), Int.toNat_natCast, readAt,
    Checked.read_of_lt _ _ _ hinside, List.getD_eq_getElem _ _ hinside,
    List.getElem_concat_length rfl]

/-- Whether the last of up to 65536 words is the checksum of the words before it is returned. -/
theorem klvancChecksumIsValidIn_returns (last : Word) (hn : words.length ≤ 65535) :
    Returns (klvancChecksumIsValidIn (words ++ [last]) ((words ++ [last]).length : ℤ))
      (pure (klvancChecksumIsValid (words ++ [last]))) := by
  have hbefore : ((words ++ [last]).length : ℤ) - 1 = (words.length : ℤ) := by
    rw [List.length_append, List.length_singleton]
    omega
  have hsum : Returns (klvancChecksumCalculateIn (words ++ [last]) (words.length : ℤ))
      (pure (klvancChecksumCalculate words)) := by
    have htake := @klvancChecksumCalculateIn_returns (words ++ [last]) words.length
      (by rw [List.length_append]; exact Nat.le_add_right _ _) hn
    rwa [List.take_left] at htake
  have hcompare := hsum.map fun sum => do
    let sum ← sum
    let last ← wordAt (words ++ [last]) (words.length : ℤ)
    pure (sum == last)
  rw [klvancChecksumIsValid, List.dropLast_concat, List.getLastD_concat]
  unfold klvancChecksumIsValidIn
  simp only [hbefore, wordAt_last, pure_bind] at hcompare ⊢
  exact hcompare

/-- The parser passes at most 259 words, and has the answer in the header. -/
theorem parseHeader_checksumValid_returns (arr : List Word) (off len : ℕ) :
    let hdr := (parseHeader arr off len).val
    let checked := (copyWords arr (off + 3) (hdr.payloadLengthWords + 4)).val
    Returns (klvancChecksumIsValidIn checked checked.length) (pure hdr.checksumValid) := by
  intro hdr checked
  have hcount : hdr.payloadLengthWords = (sanitizeWord (readWord arr (off + 5)).val).toNat :=
    Checked.readRange_length _ _ _ _ _
  have hvalid : hdr.checksumValid = klvancChecksumIsValid checked := by
    change klvancChecksumIsValid (copyWords arr (off + 3)
      ((sanitizeWord (readWord arr (off + 5)).val).toNat + 4)).val = _
    rw [← hcount]
  have hlength : checked.length = hdr.payloadLengthWords + 4 := Checked.readRange_length _ _ _ _ _
  have hle : hdr.payloadLengthWords ≤ 255 := by
    rw [hcount, sanitizeWord_toNat]
    exact Nat.le_of_lt_succ (BitVec.isLt _)
  have hne : checked ≠ [] := List.ne_nil_of_length_pos (by omega)
  have hreturns := @klvancChecksumIsValidIn_returns checked.dropLast (checked.getLast hne)
    (by rw [List.length_dropLast]; omega)
  rw [List.dropLast_append_getLast] at hreturns
  rwa [hvalid]

/-! ### From 65536 words on -/

/-- The counter is below any `wordCount` that it cannot hold, and the loop never returns. -/
theorem klvancChecksumCalculateIn_eq_none (words : List Word) {wordCount : ℤ}
    (h : 65536 ≤ wordCount) (fuel : ℕ) : klvancChecksumCalculateIn words wordCount fuel = none := by
  have hgoes : ∀ loop : ChecksumLoop, loop.goesOn wordCount = true := by
    intro loop
    have hlt : loop.i.toNat < 2 ^ 16 := loop.i.isLt
    rw [ChecksumLoop.goesOn, decide_eq_true_eq]
    omega
  have hrun := @WhileLoop.run_eq_none Fault ChecksumLoop (ChecksumLoop.goesOn wordCount)
    (ChecksumLoop.round words) (fun _ => True) (fun loop _ => hgoes loop) (fun _ _ => trivial)
    { i := 0, s := 0 } trivial fuel
  rw [klvancChecksumCalculateIn, hrun, Option.map_none]

/-- What is returned for a list, with its length as `wordCount`. -/
theorem klvancChecksumCalculateIn_returns_iff {r : Checked Fault Word} :
    Returns (klvancChecksumCalculateIn words words.length) r ↔
      words.length ≤ 65535 ∧ r = pure (klvancChecksumCalculate words) := by
  constructor
  · intro h
    by_cases hn : words.length ≤ 65535
    · have hreturns := klvancChecksumCalculateIn_returns (le_refl words.length) hn
      rw [List.take_length] at hreturns
      exact ⟨hn, h.unique hreturns⟩
    · have hmany : (65536 : ℤ) ≤ (words.length : ℤ) := by omega
      exact absurd h (not_returns (klvancChecksumCalculateIn_eq_none words hmany))
  · rintro ⟨hn, rfl⟩
    have hreturns := klvancChecksumCalculateIn_returns (le_refl words.length) hn
    rwa [List.take_length] at hreturns

/-- What is returned for a list with a last word, with its length as `wordCount`. -/
theorem klvancChecksumIsValidIn_returns_iff {last : Word} {r : Checked Fault Bool} :
    Returns (klvancChecksumIsValidIn (words ++ [last]) ((words ++ [last]).length : ℤ)) r ↔
      words.length ≤ 65535 ∧ r = pure (klvancChecksumIsValid (words ++ [last])) := by
  constructor
  · intro h
    by_cases hn : words.length ≤ 65535
    · exact ⟨hn, h.unique (klvancChecksumIsValidIn_returns last hn)⟩
    · have hbefore : (65536 : ℤ) ≤ ((words ++ [last]).length : ℤ) - 1 := by
        rw [List.length_append, List.length_singleton]
        omega
      refine absurd h (not_returns fun fuel => ?_)
      rw [klvancChecksumIsValidIn, klvancChecksumCalculateIn_eq_none _ hbefore, Option.map_none]
  · rintro ⟨hn, rfl⟩
    exact klvancChecksumIsValidIn_returns last hn

/-! ### The checksum of ST 291 -/

/-- The checksum of ST 291: the low nine bits are the sum of the words modulo 512, bit 9 is the
inverse of bit 8, and the higher bits are 0. -/
structure IsSt291Checksum (words : List Word) (c : Word) : Prop where
  sum : c.toNat % 512 = (words.map BitVec.toNat).sum % 512
  bit9 : c.getLsbD 9 = !c.getLsbD 8
  high : ∀ i, 10 ≤ i → c.getLsbD i = false

/-- Bit 9 is the inverse of bit 8 and the higher ones are 0 for the values from 256 to 767. -/
lemma closed_iff {c : Word} :
    ((c.getLsbD 9 = !c.getLsbD 8) ∧ ∀ i, 10 ≤ i → c.getLsbD i = false) ↔
      256 ≤ c.toNat ∧ c.toNat < 768 := by
  have hbit : ∀ i, c.getLsbD i = decide (c.toNat / 2 ^ i % 2 = 1) := fun i =>
    Nat.testBit_eq_decide_div_mod_eq
  have hhigh : (∀ i, 10 ≤ i → c.getLsbD i = false) ↔ c.toNat < 2 ^ 10 := by
    constructor
    · intro h
      exact Nat.lt_pow_two_of_testBit _ h
    · intro h i hi
      exact Nat.testBit_lt_two_pow (h.trans_le (Nat.pow_le_pow_right (by norm_num) hi))
  rw [hhigh, hbit, hbit, ← decide_not, decide_eq_decide]
  constructor
  · rintro ⟨h, hlt⟩
    omega
  · rintro ⟨hle, hlt⟩
    omega

/-- The checksum that is calculated is the only one. -/
theorem isSt291Checksum_iff {c : Word} :
    IsSt291Checksum words c ↔ c = klvancChecksumCalculate words := by
  have hmod := klvancChecksumCalculate_mod words
  have hbounds := klvancChecksumCalculate_bounds words
  constructor
  · rintro ⟨hsum, hbit9, hhigh⟩
    have hc := closed_iff.mp ⟨hbit9, hhigh⟩
    exact BitVec.eq_of_toNat_eq (by omega)
  · rintro rfl
    obtain ⟨hbit9, hhigh⟩ := closed_iff.mpr hbounds
    exact ⟨hmod, hbit9, hhigh⟩

/-- `klvanc_checksum_calculate` returns, without a fault, the checksum of all the words of an
array. -/
def CalculatesChecksum (words : List Word) : Prop :=
  ∃ c, Returns (klvancChecksumCalculateIn words words.length) (pure c) ∧ IsSt291Checksum words c

/-- `klvanc_checksum_is_valid` returns, without a fault, whether the last word of an array is the
checksum of the words before it. -/
def ValidatesChecksum (words : List Word) (last : Word) : Prop :=
  ∃ valid, Returns (klvancChecksumIsValidIn (words ++ [last]) ((words ++ [last]).length : ℤ))
      (pure valid) ∧ (valid = true ↔ IsSt291Checksum words last)

/-- The checksum of an array is calculated exactly when it has at most 65535 words, and it is
verified exactly when so many words are in front of it. -/
theorem calculatesChecksum_iff (words : List Word) :
    (CalculatesChecksum words ↔ words.length ≤ 65535) ∧
      ∀ last, (ValidatesChecksum words last ↔ words.length ≤ 65535) := by
  refine ⟨⟨?_, ?_⟩, fun last => ⟨?_, ?_⟩⟩
  · rintro ⟨c, hreturns, -⟩
    exact (klvancChecksumCalculateIn_returns_iff.mp hreturns).1
  · intro hn
    exact ⟨_, klvancChecksumCalculateIn_returns_iff.mpr ⟨hn, rfl⟩, isSt291Checksum_iff.mpr rfl⟩
  · rintro ⟨valid, hreturns, -⟩
    exact (klvancChecksumIsValidIn_returns_iff.mp hreturns).1
  · intro hn
    refine ⟨_, klvancChecksumIsValidIn_returns_iff.mpr ⟨hn, rfl⟩, ?_⟩
    rw [klvancChecksumIsValid, List.dropLast_concat, List.getLastD_concat, beq_iff_eq,
      isSt291Checksum_iff]
    exact eq_comm

/-- For 65536 words nothing is calculated. -/
theorem not_calculatesChecksum_zeros : ¬CalculatesChecksum (List.replicate 65536 0) := by
  rintro ⟨c, hreturns, -⟩
  have hn := (klvancChecksumCalculateIn_returns_iff.mp hreturns).1
  rw [List.length_replicate] at hn
  omega

/-- The packet that the checksum is tested with. -/
example :
    klvancChecksumCalculateIn
      [0x0241, 0x0107, 0x011c, 0x0108, 0x0200, 0x0101, 0x0200, 0x021b, 0x02ff, 0x02ff, 0x02ff,
        0x02ff, 0x0200, 0x0200, 0x0200, 0x0200, 0x0200, 0x0104, 0x0200, 0x0200, 0x0200, 0x0102,
        0x0200, 0x0101, 0x0200, 0x0200, 0x0200, 0x0200, 0x0200, 0x0200, 0x0101] 31 32 =
      some (pure 0x28c) := by decide +kernel

end Libklvanc
