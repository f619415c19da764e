import Libklvanc.Bitstream.Klbs
import Libklvanc.Foundation.Bits

/-!
# The bitstream writer appends bits

`KlbsContext.Writes cap orig ctx bits` relates a write context to the bit string written into it so
far: the complete octets of `bits` stand at the beginning of the buffer, the rest of the bits is in
the register, and what lies behind the octets is still the original buffer. The context has met no
fault as long as its octets fit the announced size, and it has met one when they do not fit the
buffer. `klbs_write_bits` appends a field (`Writes.writeBits`), the stuffing functions complete the
last octet.

`KlbsContext.WritesBytes` is the byte-aligned case, in which fields of whole octets are appended as
big-endian octets.
-/

namespace Libklvanc

/-- Calls of `klbs_write_bits`, one for each field, a value and its width. -/
def klbsWriteFields (ctx : KlbsContext) (fields : List (ℕ × ℕ)) : KlbsContext :=
  fields.foldl (fun ctx f => klbsWriteBits ctx f.1 f.2) ctx

/-- Fields are written one run behind the other. -/
lemma klbsWriteFields_append (ctx : KlbsContext) (l l' : List (ℕ × ℕ)) :
    klbsWriteFields ctx (l ++ l') = klbsWriteFields (klbsWriteFields ctx l) l' :=
  List.foldl_append

/-- Shifting a bit into an octet appends it to the low bits of the octet. -/
theorem ofNat_shiftLeft_or (r : Byte) (b : ℕ) {u : ℕ} (hu : u < 8) :
    Bits.ofNat (u + 1) (r <<< 1 ||| BitVec.ofNat 8 (b &&& 1)).toNat =
      Bits.ofNat u r.toNat ++ [b.testBit 0] := by
  have hval : (r <<< 1 ||| BitVec.ofNat 8 (b &&& 1)).toNat =
      (2 * r.toNat + (b.testBit 0).toNat) % 2 ^ 8 := by
    have key : ∀ (r : BitVec 8) (c : Bool),
        (r <<< 1 ||| BitVec.ofNat 8 c.toNat).toNat = (2 * r.toNat + c.toNat) % 2 ^ 8 := by
      decide +kernel
    rw [show b &&& 1 = (b.testBit 0).toNat by
      rw [Nat.and_one_is_mod, Nat.testBit_zero]
      rcases Nat.mod_two_eq_zero_or_one b with h | h <;> simp [h]]
    exact key r _
  have hmod : ∀ n, Bits.ofNat (u + 1) (n % 2 ^ 8) = Bits.ofNat (u + 1) n := by
    intro n
    rw [← Bits.ofNat_mod (u + 1) (n % 2 ^ 8), Nat.mod_mod_of_dvd _ (Nat.pow_dvd_pow 2 hu),
      Bits.ofNat_mod]
  rw [hval, hmod, Bits.ofNat_add]
  congr 1
  · congr 1
    rw [Nat.shiftRight_eq_div_pow]
    have : (b.testBit 0).toNat < 2 := Bool.toNat_lt _
    omega
  · cases b.testBit 0 <;> simp [Bits.ofNat, Nat.testBit_zero, Nat.add_mod]

/-- The bits `bits` have been written into the context `ctx`, whose announced size is `cap` and
whose buffer was `orig`. -/
structure KlbsContext.Writes (cap : ℕ) (orig : List Byte) (ctx : KlbsContext)
    (bits : List Bool) : Prop where
  /-- The announced size lies inside the buffer. -/
  cap_le : cap ≤ orig.length
  /-- The announced size is `cap`. -/
  buflen_eq : ctx.buflen = cap
  /-- Writing keeps the buffer's size. -/
  length_eq : ctx.buf.length = orig.length
  /-- The complete octets have been stored. -/
  used_eq : ctx.buflenUsed = bits.length / 8
  /-- The remaining bits are in the register. -/
  regUsed_eq : ctx.regUsed = bits.length % 8
  /-- The register holds the remaining bits. -/
  reg_eq : Bits.ofNat ctx.regUsed ctx.reg.toNat = bits.drop (8 * ctx.buflenUsed)
  /-- The stored octets are the complete octets of the bit string. -/
  buf_eq : ctx.buflenUsed ≤ cap →
    Bits.ofBytes (ctx.buf.take ctx.buflenUsed) = bits.take (8 * ctx.buflenUsed)
  /-- Nothing behind the stored octets has been touched. -/
  rest_eq : ctx.buf.drop ctx.buflenUsed = orig.drop ctx.buflenUsed
  /-- Inside the announced size no fault is met. -/
  safe : ctx.buflenUsed ≤ cap → ctx.faults = []
  /-- Past the end of the buffer a fault has been met. -/
  unsafe_of_lt : orig.length < ctx.buflenUsed → ctx.faults ≠ []

namespace KlbsContext.Writes

variable {cap : ℕ} {orig : List Byte} {ctx : KlbsContext} {bits : List Bool}

/-- Nothing has been written into a fresh context. -/
theorem setBuffer (h : cap ≤ orig.length) :
    KlbsContext.Writes cap orig (klbsWriteSetBuffer orig cap) [] where
  cap_le := h
  buflen_eq := rfl
  length_eq := rfl
  used_eq := rfl
  regUsed_eq := rfl
  reg_eq := rfl
  buf_eq _ := rfl
  rest_eq := rfl
  safe _ := rfl
  unsafe_of_lt h := absurd h (Nat.not_lt_zero _)

/-- The register is never full between two writes. -/
theorem regUsed_lt (h : ctx.Writes cap orig bits) : ctx.regUsed < 8 := by
  rw [h.regUsed_eq]
  exact Nat.mod_lt _ (by norm_num)

/-- The assertion of the writer changes nothing but the faults. -/
theorem assertUsed (h : ctx.Writes cap orig bits) : (klbsAssertUsed ctx).Writes cap orig bits := by
  unfold klbsAssertUsed
  split_ifs with hc
  · exact h
  · rw [h.buflen_eq] at hc
    exact ⟨h.cap_le, h.buflen_eq, h.length_eq, h.used_eq, h.regUsed_eq, h.reg_eq, h.buf_eq,
      h.rest_eq, fun hle => absurd hle hc, fun _ => by simp⟩

/-- Clocking a bit into the register, before a full register is stored. -/
private theorem clock (h : ctx.Writes cap orig bits) (b : ℕ) :
    Bits.ofNat (ctx.regUsed + 1) (ctx.reg <<< 1 ||| BitVec.ofNat 8 (b &&& 1)).toNat =
      (bits ++ [b.testBit 0]).drop (8 * ctx.buflenUsed) := by
  rw [ofNat_shiftLeft_or _ _ h.regUsed_lt, h.reg_eq, List.drop_append_of_le_length]
  have := h.used_eq
  omega

/-- `klbs_write_bit` appends the low bit of its argument. -/
theorem writeBit (h : ctx.Writes cap orig bits) (b : ℕ) :
    (klbsWriteBit ctx b).Writes cap orig (bits ++ [b.testBit 0]) := by
  unfold klbsWriteBit
  have h := h.assertUsed
  generalize klbsAssertUsed ctx = ctx at h
  have hclock := h.clock b
  have hreg := h.regUsed_eq
  have hused := h.used_eq
  simp only [h.regUsed_lt, if_true]
  split_ifs with hfull
  · -- the register is full: its octet is stored
    have hlen : (bits ++ [b.testBit 0]).length = 8 * (ctx.buflenUsed + 1) := by
      rw [List.length_append, List.length_singleton]
      omega
    refine ⟨h.cap_le, h.buflen_eq, ?_, ?_, ?_, ?_, ?_, ?_, ?_, ?_⟩
    · simp [klbsStoreReg, h.length_eq]
    · simp only [klbsStoreReg, hlen]
      omega
    · simp only [hlen]
      omega
    · simp [klbsStoreReg, Bits.ofNat, ← hlen]
    · intro hle
      simp only [klbsStoreReg] at hle ⊢
      have hlt : ctx.buflenUsed < ctx.buf.length := by
        have := h.cap_le
        rw [h.length_eq]
        omega
      rw [List.take_set, List.take_add_one, List.getElem?_eq_getElem hlt, Option.toList_some,
        List.set_append_right _ _ (by simp), List.length_take, min_eq_left hlt.le, Nat.sub_self,
        List.set_cons_zero, Bits.ofBytes_append, h.buf_eq (by omega), ← hlen, List.take_length,
        Bits.ofBytes_cons, Bits.ofBytes_nil, List.append_nil]
      rw [hfull] at hclock
      rw [hclock, List.drop_append_of_le_length (by omega), ← List.append_assoc,
        List.take_append_drop]
    · simp only [klbsStoreReg]
      rw [List.drop_set_of_lt (by omega), ← List.drop_drop, ← List.drop_drop, h.rest_eq]
    · intro hle
      simp only [klbsStoreReg] at hle ⊢
      rw [if_pos (by have := h.cap_le; rw [h.length_eq]; omega)]
      exact h.safe (by omega)
    · intro hlt
      simp only [klbsStoreReg] at hlt ⊢
      rw [h.length_eq]
      split_ifs with hc
      · omega
      · simp
  · -- the bit stays in the register
    have hlt := h.regUsed_lt
    have hlen : (bits ++ [b.testBit 0]).length = bits.length + 1 := by simp
    exact ⟨h.cap_le, h.buflen_eq, h.length_eq, by simp only [hlen]; omega,
      by simp only [hlen]; omega, hclock,
      fun hle => by
        simp only at hle ⊢
        rw [h.buf_eq hle, List.take_append_of_le_length (by omega)],
      h.rest_eq, h.safe, h.unsafe_of_lt⟩

/-- `klbs_write_bits` appends a field. -/
theorem writeBits (h : ctx.Writes cap orig bits) (v w : ℕ) :
    (klbsWriteBits ctx v w).Writes cap orig (bits ++ Bits.ofNat w v) := by
  induction w generalizing ctx bits with
  | zero => simpa [klbsWriteBits, Bits.ofNat] using h
  | succ w ih =>
    have hstep := ih (h.writeBit (v >>> w))
    rw [klbsWriteBits, Bits.ofNat]
    simpa [Nat.testBit_shiftRight] using hstep

/-- A run of `klbs_write_bits` appends its fields. -/
lemma writeFields (h : ctx.Writes cap orig bits) (fields : List (ℕ × ℕ)) :
    (klbsWriteFields ctx fields).Writes cap orig (bits ++ Bits.ofFields fields) := by
  induction fields generalizing ctx bits with
  | nil => simpa [klbsWriteFields] using h
  | cons f fields ih =>
    have hfields := ih (h.writeBits f.1 f.2)
    rwa [List.append_assoc] at hfields

/-- A byte-aligned context has nothing to complete. -/
theorem writeBufferComplete (h : ctx.Writes cap orig bits) (hbits : 8 ∣ bits.length) :
    klbsWriteBufferComplete ctx = ctx := by
  have hreg : ctx.regUsed = 0 := by
    rw [h.regUsed_eq]
    omega
  simp [klbsWriteBufferComplete, hreg]

/-- Zeros are appended one by one. -/
lemma writeZeros (h : ctx.Writes cap orig bits) (count : ℕ) :
    (klbsWriteZeros count ctx).Writes cap orig (bits ++ List.replicate count false) := by
  induction count generalizing ctx bits with
  | zero => simpa [klbsWriteZeros] using h
  | succ count ih =>
    have hrest := ih (h.writeBit 0)
    rwa [List.append_assoc, Nat.zero_testBit, List.singleton_append, ← List.replicate_succ] at hrest

/-- An octet that is not complete is completed with zeros, and then one zero more is written. -/
lemma writeBufferComplete_unaligned (h : ctx.Writes cap orig bits) (hbits : ¬8 ∣ bits.length) :
    (klbsWriteBufferComplete ctx).Writes cap orig
      (bits ++ List.replicate (9 - bits.length % 8) false) := by
  have hreg := h.regUsed_eq
  rw [klbsWriteBufferComplete, if_pos (by omega), hreg]
  exact h.writeZeros _

/-- The loop of `klbs_write_byte_stuff` appends copies of the stuffing bit up to the next octet. -/
private theorem writeByteStuffLoop (h : ctx.Writes cap orig bits) (b : ℕ) {fuel : ℕ}
    (hfuel : (8 - ctx.regUsed) % 8 ≤ fuel) :
    ∃ n, n = (8 - bits.length % 8) % 8 ∧ (klbsWriteByteStuffLoop b fuel ctx).Writes cap orig
      (bits ++ List.replicate n (b.testBit 0)) := by
  induction fuel generalizing ctx bits with
  | zero =>
    refine ⟨_, rfl, ?_⟩
    rw [show (8 - bits.length % 8) % 8 = 0 by have := h.regUsed_eq; omega]
    simpa [klbsWriteByteStuffLoop] using h
  | succ fuel ih =>
    have hreg := h.regUsed_eq
    unfold klbsWriteByteStuffLoop
    split_ifs with hpos
    · have hw := h.writeBit b
      have hreg' := hw.regUsed_eq
      rw [List.length_append, List.length_singleton] at hreg'
      obtain ⟨n, hn, hW⟩ := ih hw (by omega)
      rw [List.length_append, List.length_singleton] at hn
      refine ⟨n + 1, by omega, ?_⟩
      simpa [List.replicate_succ] using hW
    · refine ⟨_, rfl, ?_⟩
      rw [show (8 - bits.length % 8) % 8 = 0 by omega]
      simpa using h

/-- `klbs_write_byte_stuff` appends copies of the stuffing bit up to the next octet. -/
theorem writeByteStuff (h : ctx.Writes cap orig bits) (b : ℕ) :
    (klbsWriteByteStuff ctx b).Writes cap orig
      (bits ++ List.replicate ((8 - bits.length % 8) % 8) (b.testBit 0)) := by
  obtain ⟨n, rfl, hW⟩ := h.writeByteStuffLoop b (show _ ≤ 8 by omega)
  exact hW

end KlbsContext.Writes

/-! ### The byte-aligned case -/

/-- The octets `bytes` have been written into the context `ctx`. -/
def KlbsContext.WritesBytes (cap : ℕ) (orig : List Byte) (ctx : KlbsContext)
    (bytes : List Byte) : Prop :=
  ctx.Writes cap orig (Bits.ofBytes bytes)

namespace KlbsContext.WritesBytes

variable {cap : ℕ} {orig : List Byte} {ctx : KlbsContext} {bytes : List Byte}

/-- Nothing has been written into a fresh context. -/
theorem setBuffer (h : cap ≤ orig.length) :
    KlbsContext.WritesBytes cap orig (klbsWriteSetBuffer orig cap) [] :=
  KlbsContext.Writes.setBuffer h

/-- The byte count is the number of octets written. -/
theorem byteCount (h : ctx.WritesBytes cap orig bytes) : klbsGetByteCount ctx = bytes.length := by
  rw [klbsGetByteCount, h.used_eq, Bits.ofBytes_length]
  omega

/-- A field of `8 * k` bits is appended as `k` octets. -/
theorem writeBits (h : ctx.WritesBytes cap orig bytes) (v k : ℕ) :
    (klbsWriteBits ctx v (8 * k)).WritesBytes cap orig (bytes ++ Bits.bigEndian k v) := by
  rw [KlbsContext.WritesBytes, Bits.ofBytes_append, Bits.ofBytes_bigEndian]
  exact KlbsContext.Writes.writeBits h v (8 * k)

/-- Appending a field of 8 bits. -/
lemma write8 (h : ctx.WritesBytes cap orig bytes) (v : ℕ) :
    (klbsWriteBits ctx v 8).WritesBytes cap orig (bytes ++ Bits.bigEndian 1 v) :=
  h.writeBits v 1

/-- Appending a field of 16 bits. -/
lemma write16 (h : ctx.WritesBytes cap orig bytes) (v : ℕ) :
    (klbsWriteBits ctx v 16).WritesBytes cap orig (bytes ++ Bits.bigEndian 2 v) :=
  h.writeBits v 2

/-- Appending a field of 32 bits. -/
lemma write32 (h : ctx.WritesBytes cap orig bytes) (v : ℕ) :
    (klbsWriteBits ctx v 32).WritesBytes cap orig (bytes ++ Bits.bigEndian 4 v) :=
  h.writeBits v 4

/-- Appending a field of 48 bits. -/
lemma write48 (h : ctx.WritesBytes cap orig bytes) (v : ℕ) :
    (klbsWriteBits ctx v 48).WritesBytes cap orig (bytes ++ Bits.bigEndian 6 v) :=
  h.writeBits v 6

/-- Appending an octet. -/
theorem writeOctet (h : ctx.WritesBytes cap orig bytes) (b : Byte) :
    (klbsWriteBits ctx b.toNat 8).WritesBytes cap orig (bytes ++ [b]) := by
  have h' := h.writeBits b.toNat 1
  simpa [Bits.bigEndian] using h'

/-- There is nothing to complete. -/
theorem writeBufferComplete (h : ctx.WritesBytes cap orig bytes) :
    klbsWriteBufferComplete ctx = ctx :=
  KlbsContext.Writes.writeBufferComplete h (by simp)

/-- As long as they fit, the octets stand at the beginning of the buffer. -/
theorem buf_take (h : ctx.WritesBytes cap orig bytes) (hle : bytes.length ≤ cap) :
    ctx.buf.take bytes.length = bytes := by
  have hused := h.byteCount
  rw [klbsGetByteCount] at hused
  have hbuf := h.buf_eq (by omega)
  rw [hused, ← Bits.ofBytes_length, List.take_length] at hbuf
  exact Bits.ofBytes_injective hbuf

/-- The octets are followed by what the buffer held behind them. -/
theorem buf_eq (h : ctx.WritesBytes cap orig bytes) (hle : bytes.length ≤ cap) :
    ctx.buf = bytes ++ orig.drop bytes.length := by
  have hrest := h.rest_eq
  have hused := h.byteCount
  rw [klbsGetByteCount] at hused
  rw [hused] at hrest
  conv_lhs => rw [← List.take_append_drop bytes.length ctx.buf, h.buf_take hle, hrest]

/-- On a buffer of the announced size the context is free of faults exactly when the octets fit. -/
theorem faults_eq_nil_iff (h : ctx.WritesBytes cap orig bytes) (hcap : orig.length = cap) :
    ctx.faults = [] ↔ bytes.length ≤ cap := by
  have hused := h.byteCount
  rw [klbsGetByteCount] at hused
  constructor
  · intro hf
    by_contra hlt
    exact h.unsafe_of_lt (by omega) hf
  · intro hle
    exact h.safe (by omega)

end KlbsContext.WritesBytes

/-! ### Faults are kept -/

/-- The assertion of the writer keeps the faults. -/
lemma klbsAssertUsed_faults (ctx : KlbsContext) : ctx.faults <+: (klbsAssertUsed ctx).faults := by
  unfold klbsAssertUsed
  split_ifs
  · exact List.prefix_refl _
  · exact List.prefix_append _ _

/-- Storing the register keeps the faults. -/
lemma klbsStoreReg_faults (ctx : KlbsContext) : ctx.faults <+: (klbsStoreReg ctx).faults := by
  unfold klbsStoreReg
  dsimp only
  split_ifs
  · exact List.prefix_refl _
  · exact List.prefix_append _ _

/-- `klbs_write_bit` keeps the faults. -/
lemma klbsWriteBit_faults (ctx : KlbsContext) (b : ℕ) :
    ctx.faults <+: (klbsWriteBit ctx b).faults := by
  refine (klbsAssertUsed_faults ctx).trans ?_
  unfold klbsWriteBit
  generalize klbsAssertUsed ctx = ctx
  dsimp only
  split_ifs
  · exact klbsStoreReg_faults { ctx with
      reg := ctx.reg <<< 1 ||| BitVec.ofNat 8 (b &&& 1), regUsed := ctx.regUsed + 1 }
  · exact List.prefix_refl _
  · exact klbsStoreReg_faults ctx
  · exact List.prefix_refl _

/-- `klbs_write_bits` keeps the faults. -/
lemma klbsWriteBits_faults (ctx : KlbsContext) (v w : ℕ) :
    ctx.faults <+: (klbsWriteBits ctx v w).faults := by
  induction w generalizing ctx with
  | zero => exact List.prefix_refl _
  | succ w ih => exact (klbsWriteBit_faults ctx _).trans (ih _)

end Libklvanc
