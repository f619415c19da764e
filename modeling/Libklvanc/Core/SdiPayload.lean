import Libklvanc.Core.Checksum
import Libklvanc.Core.Packet

/-!
# Building ancillary data packets

`klvanc_sdi_create_payload` of `core-packets.c` wraps octets into the words of an ancillary data
packet: the ADF, the identifiers, the data count, the payload and the checksum. An `SdiPacket`
collects arguments for which this makes a well-formed packet; behind its ADF every word of such a
packet lies between `0x100` and `0x2ff` (`SdiPacket.word_bounds`), so that no flag can start inside
it, and its last word is a valid checksum.
-/

namespace Libklvanc

/-- The parity bits of a word: bit 8 makes the parity even, bit 9 is its inverse. -/
def addParity (w : Word) : Word := if builtinParity w then w ||| 0x100 else w ||| 0x200

/-- The words behind the ADF and before the checksum. -/
def sdiBody (sdid did : Byte) (src : List Byte) : List Word :=
  (did.setWidth 16 :: sdid.setWidth 16 :: BitVec.ofNat 16 src.length ::
    src.map fun b => b.setWidth 16).map addParity

/-- `klvanc_sdi_create_payload` on the `srcByteCount` octets `src`, fewer than 65536 of them, or
`none` for its error code. The words behind the ADF get parity bits, and the checksum is summed over
them. -/
def klvancSdiCreatePayload (sdid did : Byte) (src : List Byte) (bitDepth : BitVec 32) :
    Option (List Word) :=
  if bitDepth ≠ 10 ∨ sdid = 0 ∨ did = 0 ∨ BitVec.ofNat 16 src.length = 0 then none
  else
    let body := sdiBody sdid did src
    some ([0x000, 0x3ff, 0x3ff] ++ body ++ [checksumClose (body.foldl checksumAdd 0)])

/-! ### Parity -/

/-- Parity bits do not change the low octet. -/
lemma lowByte_addParity (w : Word) : lowByte (addParity w) = lowByte w := by
  unfold addParity
  split_ifs
  · ext i hi
    simp only [lowByte, BitVec.getElem_setWidth, BitVec.getLsbD_or]
    interval_cases i <;> simp
  · ext i hi
    simp only [lowByte, BitVec.getElem_setWidth, BitVec.getLsbD_or]
    interval_cases i <;> simp

/-- The parity bits of an octet take it between `0x100` and `0x2ff`, and leave it as the low
octet. -/
lemma addParity_octet (b : Byte) :
    256 ≤ (addParity (b.setWidth 16)).toNat ∧ (addParity (b.setWidth 16)).toNat < 768 ∧
      lowByte (addParity (b.setWidth 16)) = b := by
  have hlow : lowByte (b.setWidth 16) = b := by
    rw [lowByte, BitVec.setWidth_setWidth_of_le _ (by norm_num), BitVec.setWidth_eq]
  have hlt : (b.setWidth 16).toNat < 2 ^ 8 := by
    rw [BitVec.toNat_setWidth]
    exact (Nat.mod_le _ _).trans_lt b.isLt
  -- the parity bit is added above the octet
  have hadd : ∀ k : ℕ, k ∈ [1, 2] → (b.setWidth 16 ||| BitVec.ofNat 16 (2 ^ 8 * k)).toNat =
      2 ^ 8 * k + (b.setWidth 16).toNat := by
    intro k hk
    have hk' : 2 ^ 8 * k < 2 ^ 16 := by
      simp only [List.mem_cons, List.not_mem_nil, or_false] at hk
      omega
    rw [BitVec.toNat_or, BitVec.toNat_ofNat, Nat.mod_eq_of_lt hk', Nat.or_comm]
    exact (Nat.two_pow_add_eq_or_of_lt hlt k).symm
  have h₁ : (b.setWidth 16 ||| 0x100).toNat = 256 + (b.setWidth 16).toNat := hadd 1 (by simp)
  have h₂ : (b.setWidth 16 ||| 0x200).toNat = 512 + (b.setWidth 16).toNat := hadd 2 (by simp)
  rw [lowByte_addParity, hlow, addParity]
  split_ifs
  · exact ⟨by omega, by omega, rfl⟩
  · exact ⟨by omega, by omega, rfl⟩

/-! ### Well-formed packets -/

/-- Arguments of `klvanc_sdi_create_payload` that make a well-formed packet. -/
structure SdiPacket where
  did : Byte
  sdid : Byte
  bytes : List Byte
  did_ne : did ≠ 0
  sdid_ne : sdid ≠ 0
  /-- There is a payload. -/
  bytes_pos : 1 ≤ bytes.length
  /-- The payload fits the data count. -/
  bytes_le : bytes.length ≤ 255
  deriving DecidableEq

namespace SdiPacket

/-- The test of the arguments. -/
def isWellFormed (did sdid : Byte) (bytes : List Byte) : Bool :=
  did != 0 && sdid != 0 && Nat.ble 1 bytes.length && Nat.ble bytes.length 255

/-- A packet of arguments that pass the test. -/
def ofBytes (did sdid : Byte) (bytes : List Byte) (h : isWellFormed did sdid bytes = true) :
    SdiPacket where
  did := did
  sdid := sdid
  bytes := bytes
  did_ne := by
    simp only [isWellFormed, Bool.and_eq_true, bne_iff_ne] at h
    exact h.1.1.1
  sdid_ne := by
    simp only [isWellFormed, Bool.and_eq_true, bne_iff_ne] at h
    exact h.1.1.2
  bytes_pos := by
    simp only [isWellFormed, Bool.and_eq_true, Nat.ble_eq] at h
    exact h.1.2
  bytes_le := by
    simp only [isWellFormed, Bool.and_eq_true, Nat.ble_eq] at h
    exact h.2

variable (p : SdiPacket)

/-- The words behind the ADF and before the checksum. -/
def body : List Word := sdiBody p.sdid p.did p.bytes

/-- The words of the packet. -/
def words : List Word :=
  [0x000, 0x3ff, 0x3ff] ++ p.body ++ [klvancChecksumCalculate p.body]

/-- `klvanc_sdi_create_payload` makes the packet. -/
lemma create_eq : klvancSdiCreatePayload p.sdid p.did p.bytes 10 = some p.words := by
  have hcount : BitVec.ofNat 16 p.bytes.length ≠ 0 := by
    intro h
    have h₁ := p.bytes_pos
    have h₂ := p.bytes_le
    have h' : (BitVec.ofNat 16 p.bytes.length).toNat = 0 := by rw [h]; rfl
    rw [BitVec.toNat_ofNat, Nat.mod_eq_of_lt (by omega)] at h'
    omega
  unfold klvancSdiCreatePayload
  rw [if_neg]
  · rfl
  · rintro (h | h | h | h)
    · exact h rfl
    · exact p.sdid_ne h
    · exact p.did_ne h
    · exact hcount h

/-- The body has three words and the payload. -/
lemma body_length : p.body.length = p.bytes.length + 3 := by
  simp [body, sdiBody]

/-- The packet has seven words and the payload. -/
@[simp] lemma words_length : p.words.length = p.bytes.length + 7 := by
  simp [words, body_length]

/-- The data count as an octet. -/
lemma count_eq : BitVec.ofNat 16 p.bytes.length = (BitVec.ofNat 8 p.bytes.length).setWidth 16 := by
  have h := p.bytes_le
  apply BitVec.eq_of_toNat_eq
  simp only [BitVec.toNat_ofNat, BitVec.toNat_setWidth]
  omega

/-- The octets that the words of the body carry. -/
def octets : List Byte := p.did :: p.sdid :: BitVec.ofNat 8 p.bytes.length :: p.bytes

/-- The body is the octets with parity bits. -/
lemma body_eq : p.body = p.octets.map fun b => addParity (b.setWidth 16) := by
  rw [body, sdiBody, count_eq]
  simp [octets]

/-- Behind the ADF every word lies between `0x100` and `0x2ff`. -/
lemma word_bounds {w : Word} (hw : w ∈ p.body ++ [klvancChecksumCalculate p.body]) :
    256 ≤ w.toNat ∧ w.toNat < 768 := by
  rcases List.mem_append.mp hw with h | h
  · rw [body_eq] at h
    obtain ⟨b, -, rfl⟩ := List.mem_map.mp h
    exact ⟨(addParity_octet b).1, (addParity_octet b).2.1⟩
  · rw [List.mem_singleton.mp h]
    exact klvancChecksumCalculate_bounds _

/-- The words from the identifiers to the checksum. -/
lemma words_drop : p.words.drop 3 = p.body ++ [klvancChecksumCalculate p.body] := by
  simp [words]

/-- The words from the identifiers to the checksum close with a valid checksum. -/
lemma checksum_valid : klvancChecksumIsValid (p.words.drop 3) = true := by
  rw [words_drop, klvancChecksumIsValid_append]

end SdiPacket

end Libklvanc
