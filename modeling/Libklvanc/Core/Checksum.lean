import Libklvanc.Core.Basic

/-!
# The checksum of an ancillary data packet

The last word of a packet is the sum modulo 512 of the words between the ADF and itself, with bit 9
the inverse of bit 8.
-/

namespace Libklvanc

/-- One round of the summing loops: `s += w; s &= 0x01ff`. -/
def checksumAdd (s w : Word) : Word := (s + w) &&& 0x1ff

/-- `s | ((~s & 0x0100) << 1)`. -/
def checksumClose (s : Word) : Word := s ||| (~~~s &&& 0x100) <<< 1

/-- What `klvanc_checksum_calculate` returns for at most 65535 words. The parser passes at most 258
of them; with more than 65535 the 16-bit loop counter never reaches `wordCount`. -/
def klvancChecksumCalculate (words : List Word) : Word :=
  checksumClose (words.foldl checksumAdd 0)

/-- What `klvanc_checksum_is_valid` returns for at most 65536 words: whether the last word is the
checksum of the words before it. -/
def klvancChecksumIsValid (words : List Word) : Bool :=
  klvancChecksumCalculate words.dropLast == words.getLastD 0

/-- A list closed by its checksum is valid. -/
@[simp] lemma klvancChecksumIsValid_append (words : List Word) :
    klvancChecksumIsValid (words ++ [klvancChecksumCalculate words]) = true := by
  simp [klvancChecksumIsValid]

/-- The running sum keeps to nine bits. -/
lemma foldl_checksumAdd_lt (words : List Word) :
    (words.foldl checksumAdd 0).toNat < 512 := by
  induction words using List.reverseRecOn with
  | nil => decide
  | append_singleton words w ih =>
    rw [List.foldl_append, List.foldl_cons, List.foldl_nil, checksumAdd, BitVec.toNat_and]
    exact lt_of_le_of_lt Nat.and_le_right (by decide)

/-- A sum of nine bits is closed with the inverse of its bit 8. -/
lemma checksumClose_toNat {s : Word} (h : s.toNat < 512) :
    (checksumClose s).toNat = if s.toNat < 256 then 512 + s.toNat else s.toNat := by
  have hand : (~~~s &&& 0x100).toNat = ((2 ^ 16 - 1 - s.toNat).testBit 8).toNat * 2 ^ 8 := by
    rw [BitVec.toNat_and, BitVec.toNat_not]
    exact Nat.and_two_pow _ 8
  rw [checksumClose, BitVec.toNat_or, BitVec.toNat_shiftLeft, hand,
    Nat.testBit_eq_decide_div_mod_eq]
  split_ifs with hlt
  · have hbit : (2 ^ 16 - 1 - s.toNat) / 2 ^ 8 % 2 = 1 := by omega
    have hor := Nat.two_pow_add_eq_or_of_lt (show s.toNat < 2 ^ 9 from h) 1
    rw [hbit, Nat.or_comm]
    exact hor.symm
  · have hbit : ¬(2 ^ 16 - 1 - s.toNat) / 2 ^ 8 % 2 = 1 := by omega
    rw [decide_eq_false hbit]
    exact Nat.or_zero _

/-- Bits 8 and 9 of a checksum word differ: its value lies between 256 and 767. -/
lemma klvancChecksumCalculate_bounds (words : List Word) :
    256 ≤ (klvancChecksumCalculate words).toNat ∧
      (klvancChecksumCalculate words).toNat < 768 := by
  have hlt := foldl_checksumAdd_lt words
  rw [klvancChecksumCalculate, checksumClose_toNat hlt]
  split_ifs
  · omega
  · omega

/-- The running sum is the sum of the words modulo 512. -/
lemma foldl_checksumAdd_toNat (words : List Word) :
    (words.foldl checksumAdd 0).toNat = (words.map BitVec.toNat).sum % 512 := by
  induction words using List.reverseRecOn with
  | nil => rfl
  | append_singleton words w ih =>
    have hand : ∀ n : ℕ, n &&& 511 = n % 512 := fun n => Nat.and_two_pow_sub_one_eq_mod n 9
    rw [List.foldl_append, List.foldl_cons, List.foldl_nil, checksumAdd, BitVec.toNat_and,
      BitVec.toNat_add, ih, List.map_append, List.sum_append]
    simp only [List.map_cons, List.map_nil, List.sum_cons, List.sum_nil, Nat.add_zero]
    exact (hand _).trans (by omega)

/-- A checksum word keeps the running sum in its low nine bits. -/
lemma klvancChecksumCalculate_mod (words : List Word) :
    (klvancChecksumCalculate words).toNat % 512 = (words.map BitVec.toNat).sum % 512 := by
  have hlt := foldl_checksumAdd_lt words
  rw [klvancChecksumCalculate, checksumClose_toNat hlt, ← foldl_checksumAdd_toNat]
  split_ifs
  · omega
  · omega

/-- A word that is another one modulo 512 changes the checksum. -/
lemma klvancChecksumCalculate_set_ne {words : List Word} {j : ℕ} (hj : j < words.length) {w : Word}
    (hw : w.toNat % 512 ≠ words[j].toNat % 512) :
    klvancChecksumCalculate (words.set j w) ≠ klvancChecksumCalculate words := by
  intro heq
  have hmod := klvancChecksumCalculate_mod (words.set j w)
  rw [heq, klvancChecksumCalculate_mod] at hmod
  have hsplit : words = words.take j ++ words[j] :: words.drop (j + 1) := by simp
  rw [List.set_eq_take_append_cons_drop, if_pos hj] at hmod
  conv_lhs at hmod => rw [hsplit]
  simp only [List.map_append, List.map_cons, List.sum_append, List.sum_cons] at hmod
  omega

end Libklvanc
