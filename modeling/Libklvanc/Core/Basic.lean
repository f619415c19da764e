import Libklvanc.Foundation.Checked

/-!
# Words, octets and faults

The machine types of the library (`uint8_t`, `uint16_t`, `unsigned int`), the error codes it
returns, the objects its pointers point into, and the faults a run can meet: an access outside an
object, a failed `assert`, a call of `abort`, the use of a variable without a value.

Allocations are taken to succeed throughout, also those of zero bytes. The model agrees with the
program on every run without a fault; a run with a fault is one on which the program's behaviour is
undefined or which it does not survive.
-/

namespace Libklvanc

/-- An octet, `uint8_t` or `unsigned char`. -/
abbrev Byte := BitVec 8

/-- A 16-bit word, `uint16_t` or `unsigned short`: one 10-bit SDI sample. -/
abbrev Word := BitVec 16

/-- `KLAPI_OK`. -/
def klapiOk : ℤ := 0

/-- `EINVAL`. -/
def einval : ℤ := 22

/-- `ENOMEM`. -/
def enomem : ℤ := 12

/-- The objects that the modelled code reaches through a pointer or an index. -/
inductive MemObject
  /-- The buffer of a bitstream context. -/
  | bitstream
  /-- `scte104_fragments` of the context. -/
  | fragments
  /-- `payload` of `klvanc_packet_scte_104_s`. -/
  | messagePayload
  /-- `ops` of `klvanc_multiple_operation_message`. -/
  | ops
  /-- `data` of one SCTE-104 operation. -/
  | opData
  /-- The output buffer of one `gen_*` function. -/
  | outBuf
  /-- The output buffer of `klvanc_convert_SCTE_104_to_packetBytes`. -/
  | packetBytes
  | descriptorBytes
  | providerAvailId
  | dtmfChar
  | upid
  | proprietaryData
  /-- `payload` of a packet header, of `LIBKLVANC_PACKET_MAX_PAYLOAD` words. -/
  | headerPayload
  /-- `payload` of a service packet. -/
  | servicePayload
  /-- `cc` of the EIA-708B caption section. -/
  | ccEntries
  /-- `svc` of the EIA-708B service section. -/
  | svcEntries
  /-- The buffer put out by `klvanc_generate_vanc_line`. -/
  | outLine
  /-- `frames` of `klvanc_packet_smpte_2108_1_s`. -/
  | frames
  /-- `buf` of `klvanc_smpte2038_packetizer_s`. -/
  | packetizerBuf
  /-- A line of 16-bit samples. -/
  | pixels
  /-- A line of 32-bit words in the v210 format. -/
  | v210
  /-- `data` of `KLRingBuffer`. -/
  | ringData
  /-- A transport packet of 188 bytes. -/
  | tsPacket
  deriving DecidableEq, Repr

/-- What a run does when it leaves the defined behaviour of the program. -/
inductive Fault
  /-- Cell `i` of `obj` is read and lies outside it. -/
  | read (obj : MemObject) (i : ℕ)
  /-- Cell `i` of `obj` is written and lies outside it. -/
  | write (obj : MemObject) (i : ℕ)
  /-- An `assert` fails. -/
  | assertion
  /-- `abort` is called. -/
  | abort
  /-- A local variable is used that nothing has been assigned to. -/
  | unassigned
  /-- A cell in front of the first one of `obj` is accessed. -/
  | before (obj : MemObject)
  /-- An integer is divided by zero. -/
  | divisionByZero
  /-- The value of a size does not fit `size_t` and wraps around. This is defined, but recorded. -/
  | wrap
  deriving DecidableEq, Repr

/-- A cell outside the object `obj` is read. -/
def Fault.Reads (obj : MemObject) (f : Fault) : Prop := ∃ i, f = .read obj i

/-- The difference of two `unsigned int`. -/
def uintSub (a b : ℕ) : ℕ := (BitVec.ofNat 32 a - BitVec.ofNat 32 b).toNat

/-- Read cell `i` of the object `obj`, whose cells are `l`. -/
abbrev readAt {α : Type} [Zero α] (obj : MemObject) (l : List α) (i : ℕ) : Checked Fault α :=
  Checked.read (Fault.read obj) 0 l i

/-- Copy `count` cells of the object `obj`, whose cells are `l`, from cell `start` on. -/
abbrev copyFrom {α : Type} [Zero α] (obj : MemObject) (l : List α) (start count : ℕ) :
    Checked Fault (List α) :=
  Checked.readRange (Fault.read obj) 0 l start count

/-- The array of `n` cells that holds `l` at its beginning and zeros after it. -/
def zeroPad {α : Type} [Zero α] (n : ℕ) (l : List α) : Vector α n :=
  Vector.ofFn fun i : Fin n => l.getD i 0

/-- Write `l` to the beginning of the zeroed array `obj` of `n` cells. -/
def storeInto {α : Type} [Zero α] (obj : MemObject) (n : ℕ) (l : List α) :
    Checked Fault (Vector α n) :=
  ⟨zeroPad n l, (List.range' n (l.length - n)).map (Fault.write obj)⟩

/-- `realloc` of an array to `n` cells, of which the new ones hold `fresh`. -/
def reallocTo {α : Type} (fresh : ℕ → α) (l : List α) (n : ℕ) : List α :=
  l.take n ++ (List.range' l.length (n - l.length)).map fresh

/-- `memcpy` of `l` into the object `obj`, whose cells are `buf`, from cell `off` on. -/
def copyTo {α : Type} (obj : MemObject) (buf : List α) (off : ℕ) (l : List α) :
    Checked Fault (List α) :=
  ⟨buf.take off ++ (l.take (buf.length - off) ++ buf.drop (off + l.length)),
    (List.range' (max off buf.length) (off + l.length - max off buf.length)).map
      (Fault.write obj)⟩

/-- `sanitizeWord`: the low eight bits of a word. -/
def sanitizeWord (w : Word) : Word := w &&& 0xff

/-- The octet stored when a word is assigned to an `unsigned char`. -/
abbrev lowByte (w : Word) : Byte := w.setWidth 8

/-- `__builtin_parity`: whether the number of set bits is odd. -/
def builtinParity (w : Word) : Bool :=
  (List.range 16).foldl (fun p i => p ^^ w.getLsbD i) false

/-- The 16-bit value of two octets, the more significant one first. -/
def be16 (b₀ b₁ : Byte) : Word :=
  b₀.setWidth 16 <<< 8 ||| b₁.setWidth 16

/-- The 32-bit value of four octets, the most significant one first. -/
def be32 (b₀ b₁ b₂ b₃ : Byte) : BitVec 32 :=
  b₀.setWidth 32 <<< 24 ||| b₁.setWidth 32 <<< 16 ||| b₂.setWidth 32 <<< 8 ||| b₃.setWidth 32

/-! ### Copies into an object -/

section Copies

variable {α : Type} (obj : MemObject)

/-- An array that is reallocated has the new number of cells. -/
@[simp] lemma length_reallocTo (fresh : ℕ → α) (l : List α) (n : ℕ) :
    (reallocTo fresh l n).length = n := by
  rw [reallocTo, List.length_append, List.length_take, List.length_map, List.length_range']
  omega

/-- An array that grows keeps its cells. -/
lemma reallocTo_of_le (fresh : ℕ → α) {l : List α} {n : ℕ} (h : l.length ≤ n) :
    reallocTo fresh l n = l ++ (List.range' l.length (n - l.length)).map fresh := by
  rw [reallocTo, List.take_of_length_le h]

/-- Copying nothing changes nothing. -/
lemma copyTo_nil (buf : List α) (off : ℕ) : copyTo obj buf off [] = pure buf := by
  have h : off - max off buf.length = 0 := by omega
  simp [copyTo, h]
  rfl

/-- Copying behind a prefix of the buffer. -/
lemma copyTo_append (pre l old rest : List α) (h : old.length = l.length) :
    copyTo obj (pre ++ (old ++ rest)) pre.length l = pure (pre ++ (l ++ rest)) := by
  have hlen : (pre ++ (old ++ rest)).length = pre.length + (l.length + rest.length) := by
    rw [List.length_append, List.length_append, h]
  have hfault : pre.length + l.length - max pre.length (pre ++ (old ++ rest)).length = 0 := by
    rw [hlen]
    omega
  have hdrop : (pre ++ (old ++ rest)).drop (pre.length + l.length) = rest := by
    rw [← List.append_assoc, ← h, ← List.length_append, List.drop_left]
  rw [copyTo, hfault, hdrop, List.take_left, List.take_of_length_le (by rw [hlen]; omega)]
  rfl

/-- A copy that fits meets no fault. -/
lemma copyTo_of_le {buf l : List α} {off : ℕ} (h : off + l.length ≤ buf.length) :
    copyTo obj buf off l = pure (buf.take off ++ (l ++ buf.drop (off + l.length))) := by
  have hfault : off + l.length - max off buf.length = 0 := by omega
  have htake : l.take (buf.length - off) = l := List.take_of_length_le (by omega)
  rw [copyTo, hfault, htake]
  rfl

end Copies

/-! ### Reads of one object -/

section Reads

variable {α : Type} [Zero α] {obj obj' : MemObject} {l : List α} {i start count : ℕ}

@[simp] lemma reads_read : Fault.Reads obj (.read obj' i) ↔ obj' = obj := by
  simp [Fault.Reads]

/-- A read goes outside an object if it is of this object and outside. -/
@[simp] lemma avoids_readAt :
    (readAt obj' l i).Avoids (Fault.Reads obj) ↔ obj' = obj → i < l.length := by
  rw [Checked.avoids_read, reads_read]
  tauto

/-- Cells are copied from outside an object if they are of this object and outside. -/
@[simp] lemma avoids_copyFrom :
    (copyFrom obj' l start count).Avoids (Fault.Reads obj) ↔
      obj' = obj → count = 0 ∨ start + count ≤ l.length := by
  rw [Checked.avoids_readRange]
  simp only [reads_read]
  constructor
  · intro h heq
    by_contra hnot
    have hlast := h (start + count - 1) (by omega) (by omega)
    rcases hlast with hlt | hne
    · omega
    · exact hne heq
  · intro h j h₁ h₂
    by_cases heq : obj' = obj
    · have hle := h heq
      exact Or.inl (by omega)
    · exact Or.inr heq

/-- Writes read nothing. -/
@[simp] lemma avoids_storeInto {n : ℕ} : (storeInto obj' n l).Avoids (Fault.Reads obj) := by
  rintro f hf ⟨i, rfl⟩
  obtain ⟨j, -, hj⟩ := List.mem_map.mp hf
  cases hj

end Reads

/-! ### Arrays filled from lists -/

/-- The cells of a padded array are the list and then zeros. -/
theorem zeroPad_toList {α : Type} [Zero α] {n : ℕ} {l : List α} (h : l.length ≤ n) :
    (zeroPad n l).toList = l ++ List.replicate (n - l.length) 0 := by
  apply List.ext_getElem
  · simp
    omega
  · intro i h₁ h₂
    simp only [zeroPad, Vector.getElem_toList, Vector.getElem_ofFn, List.getElem_append,
      List.getElem_replicate, List.getD]
    split_ifs with hi
    · simp [hi]
    · simp [not_lt.mp hi]

/-- The part of a padded array that was written is the list. -/
theorem zeroPad_take {α : Type} [Zero α] {n : ℕ} {l : List α} (h : l.length ≤ n) :
    (zeroPad n l).toList.take l.length = l := by
  rw [zeroPad_toList h, List.take_left]

/-- Storing a list into an array is safe exactly when it fits. -/
@[simp] theorem safe_storeInto {α : Type} [Zero α] {obj : MemObject} {n : ℕ} {l : List α} :
    (storeInto obj n l).Safe ↔ l.length ≤ n := by
  simp [storeInto, Checked.Safe, List.range'_eq_nil_iff, Nat.sub_eq_zero_iff_le]

/-- The array left by storing a list. -/
@[simp] theorem storeInto_val {α : Type} [Zero α] (obj : MemObject) (n : ℕ) (l : List α) :
    (storeInto obj n l).val = zeroPad n l := rfl

/-- Storing a list that fits the array. -/
lemma storeInto_of_le {α : Type} [Zero α] {obj : MemObject} {n : ℕ} {l : List α}
    (h : l.length ≤ n) : storeInto obj n l = pure (zeroPad n l) :=
  Checked.ext rfl (safe_storeInto.mpr h)

/-! ### Words and octets -/

/-- The difference of two `unsigned int`, as a number. -/
lemma uintSub_eq {a b : ℕ} (ha : a < 2 ^ 32) (hb : b < 2 ^ 32) :
    uintSub a b = (a + (2 ^ 32 - b)) % 2 ^ 32 := by
  rw [uintSub, BitVec.toNat_sub, BitVec.toNat_ofNat, BitVec.toNat_ofNat, Nat.mod_eq_of_lt ha,
    Nat.mod_eq_of_lt hb, Nat.add_comm]

/-- A difference that does not wrap. -/
lemma uintSub_of_le {a b : ℕ} (h : b ≤ a) (ha : a < 2 ^ 32) : uintSub a b = a - b := by
  rw [uintSub_eq ha (lt_of_le_of_lt h ha)]
  omega

/-- A difference that wraps. -/
lemma uintSub_of_lt {a b : ℕ} (h : a < b) (hb : b < 2 ^ 32) : uintSub a b = a + 2 ^ 32 - b := by
  rw [uintSub_eq (h.trans hb) hb]
  omega

/-- The low octet of a sanitized word is that of the word. -/
@[simp] theorem lowByte_sanitizeWord (w : Word) : lowByte (sanitizeWord w) = lowByte w := by
  ext i hi
  simp only [lowByte, sanitizeWord, BitVec.getElem_setWidth, BitVec.getLsbD_and]
  interval_cases i <;> simp

/-- A sanitized word has the value of its low octet. -/
theorem sanitizeWord_toNat (w : Word) : (sanitizeWord w).toNat = (lowByte w).toNat := by
  have h := Nat.and_two_pow_sub_one_eq_mod w.toNat 8
  simpa [sanitizeWord, lowByte] using h

/-- A small number of `n` bits is one of fewer bits. -/
lemma exists_setWidth {n w : ℕ} {v : BitVec n} (hw : w ≤ n) (h : v.toNat < 2 ^ w) :
    ∃ a : BitVec w, v = a.setWidth n := by
  refine ⟨BitVec.ofNat w v.toNat, BitVec.eq_of_toNat_eq ?_⟩
  rw [BitVec.toNat_setWidth, BitVec.toNat_ofNat, Nat.mod_eq_of_lt h,
    Nat.mod_eq_of_lt (h.trans_le (Nat.pow_le_pow_right (by norm_num) hw))]

/-- The value of the two octets of a field. -/
lemma be16_bigEndian {n : ℕ} (hn : n < 2 ^ 16) :
    be16 (BitVec.ofNat 8 (n >>> (8 * 1))) (BitVec.ofNat 8 (n >>> (8 * 0))) = BitVec.ofNat 16 n := by
  apply BitVec.eq_of_toNat_eq
  rw [be16, BitVec.toNat_or, BitVec.toNat_shiftLeft]
  simp only [BitVec.toNat_setWidth, BitVec.toNat_ofNat, Nat.shiftRight_eq_div_pow, Nat.mul_zero,
    pow_zero, Nat.div_one, Nat.mul_one, Nat.mod_eq_of_lt hn]
  rw [Nat.mod_eq_of_lt (show n / 2 ^ 8 < 2 ^ 8 by omega),
    Nat.mod_eq_of_lt (show n % 2 ^ 8 < 2 ^ 16 by omega),
    Nat.mod_eq_of_lt (show n / 2 ^ 8 < 2 ^ 16 by omega), Nat.shiftLeft_eq,
    Nat.mod_eq_of_lt (show n / 2 ^ 8 * 2 ^ 8 < 2 ^ 16 by omega), Nat.mul_comm,
    ← Nat.two_pow_add_eq_or_of_lt (Nat.mod_lt _ (by norm_num))]
  exact Nat.div_add_mod n (2 ^ 8)

/-- The value of the four octets of a field. -/
lemma be32_bigEndian (v : BitVec 32) :
    be32 (BitVec.ofNat 8 (v.toNat >>> (8 * 3))) (BitVec.ofNat 8 (v.toNat >>> (8 * 2)))
      (BitVec.ofNat 8 (v.toNat >>> (8 * 1))) (BitVec.ofNat 8 (v.toNat >>> (8 * 0))) = v := by
  ext i hi
  simp only [be32, BitVec.getElem_or, BitVec.getElem_shiftLeft, BitVec.getElem_setWidth,
    BitVec.getLsbD_ofNat, Nat.testBit_shiftRight, BitVec.testBit_toNat]
  interval_cases i <;> simp

end Libklvanc
