import Libklvanc.Bitstream.Klbs
import Libklvanc.Foundation.Bits

/-!
# The bitstream reader consumes bits

`KlbsContext.Reads ctx rest` says that the bits of the announced buffer not yet consumed are `rest`:
those still in the register and those of the octets not yet loaded. While bits remain, reading a bit
returns the next one and meets no fault (`Reads.readBit`), and reading a field returns the number
its bits denote (`Reads.readBits`); the byte-aligned fast path makes no difference.

`KlbsContext.Loaded` counts the octets that have been loaded, whether or not they lie inside the
buffer: as long as the announced size is respected, a run of reads meets no fault exactly when the
octets it loaded lie inside the buffer.
-/

namespace Libklvanc

/-- The bits `rest` of the announced buffer have not been consumed yet. -/
structure KlbsContext.Reads (ctx : KlbsContext) (rest : List Bool) : Prop where
  /-- The announced size lies inside the buffer. -/
  buflen_le : ctx.buflen ≤ ctx.buf.length
  /-- The announced size is a `uint32_t`. -/
  buflen_lt : ctx.buflen < 2 ^ 32
  /-- The loaded octets lie inside the announced size. -/
  used_le : ctx.buflenUsed ≤ ctx.buflen
  /-- A full register has been shifted at least once. -/
  regUsed_lt : ctx.regUsed < 8
  /-- What remains is in the register and behind the loaded octets. -/
  rest_eq : rest = (Bits.ofNat 8 ctx.reg.toNat).take ctx.regUsed ++
    Bits.ofBytes ((ctx.buf.take ctx.buflen).drop ctx.buflenUsed)

namespace KlbsContext.Reads

variable {ctx : KlbsContext} {rest bits : List Bool} {b : Bool}

/-- A fresh context has all bits of its buffer to consume. -/
theorem setBuffer {buf : List Byte} (hlt : buf.length < 2 ^ 32) :
    (klbsReadSetBuffer buf buf.length).Reads (Bits.ofBytes buf) where
  buflen_le := le_rfl
  buflen_lt := hlt
  used_le := Nat.zero_le _
  regUsed_lt := by simp [klbsReadSetBuffer, klbsWriteSetBuffer]
  rest_eq := by simp [klbsReadSetBuffer, klbsWriteSetBuffer]

/-- A fresh context on the beginning of a buffer has the bits of its announced size to consume. -/
lemma setBuffer_take {buf : List Byte} {cap : ℕ} (hcap : cap ≤ buf.length) (hlt : cap < 2 ^ 32) :
    (klbsReadSetBuffer buf cap).Reads (Bits.ofBytes (buf.take cap)) where
  buflen_le := hcap
  buflen_lt := hlt
  used_le := Nat.zero_le _
  regUsed_lt := by simp [klbsReadSetBuffer, klbsWriteSetBuffer]
  rest_eq := by simp [klbsReadSetBuffer, klbsWriteSetBuffer]

/-- The number of bits left. -/
theorem length_eq (h : ctx.Reads rest) :
    rest.length = ctx.regUsed + 8 * (ctx.buflen - ctx.buflenUsed) := by
  have h₁ := h.regUsed_lt
  have h₂ := h.buflen_le
  rw [h.rest_eq, List.length_append, List.length_take, Bits.ofNat_length, Bits.ofBytes_length,
    List.length_drop, List.length_take, min_eq_left h₁.le, min_eq_left h₂]

/-- The bits in the register are those before the next octet. -/
lemma regUsed_eq (h : ctx.Reads rest) : ctx.regUsed = rest.length % 8 := by
  have hlen := h.length_eq
  have hlt := h.regUsed_lt
  omega

/-- The octets that have not been loaded. -/
lemma byteCountFree_eq (h : ctx.Reads rest) : klbsGetByteCountFree ctx = rest.length / 8 := by
  have hlen := h.length_eq
  have hlt := h.regUsed_lt
  rw [klbsGetByteCountFree, klbsGetBufferSize, klbsGetByteCount,
    uintSub_of_le h.used_le h.buflen_lt]
  omega

/-- Of whole octets all are free. -/
lemma byteCountFree_octets {l : List Byte} (h : ctx.Reads (Bits.ofBytes l)) :
    klbsGetByteCountFree ctx = l.length := by
  rw [h.byteCountFree_eq, Bits.ofBytes_length]
  omega

/-- Inside the announced size the assertion holds. -/
theorem assertUsed (h : ctx.Reads rest) : klbsAssertUsed ctx = ctx :=
  if_pos h.used_le

/-- The octets behind the loaded ones, when there is one. -/
theorem drop_eq_cons (h : ctx.Reads rest) (hlt : ctx.buflenUsed < ctx.buflen) :
    (ctx.buf.take ctx.buflen).drop ctx.buflenUsed =
      ctx.buf.getD ctx.buflenUsed 0 :: (ctx.buf.take ctx.buflen).drop (ctx.buflenUsed + 1) := by
  have hle := h.buflen_le
  rw [List.drop_eq_getElem_cons (by rw [List.length_take]; omega), List.getElem_take]
  simp [List.getD, List.getElem?_eq_getElem (show ctx.buflenUsed < ctx.buf.length by omega)]

/-- A load inside the announced size meets no fault. -/
theorem load_eq (h : ctx.Reads rest) (hlt : ctx.buflenUsed < ctx.buflen) :
    klbsLoad ctx =
      (ctx.buf.getD ctx.buflenUsed 0, { ctx with buflenUsed := ctx.buflenUsed + 1 }) := by
  have hin : ctx.buflenUsed < ctx.buf.length := lt_of_lt_of_le hlt h.buflen_le
  simp [klbsLoad, readAt, Checked.read_faults, hin]

/-- Shifting the register moves every held bit up by one. -/
theorem take_shiftLeft (r : Byte) {u : ℕ} (hu : u < 8) :
    (Bits.ofNat 8 r.toNat).take (u + 1) =
      r.getMsbD 0 :: (Bits.ofNat 8 (r <<< 1).toNat).take u := by
  have htest : ∀ i < 7, (r <<< 1).toNat.testBit (i + 1) = r.toNat.testBit i := by
    intro i hi
    rw [BitVec.toNat_shiftLeft, Nat.testBit_mod_two_pow, Nat.testBit_shiftLeft,
      decide_eq_true (Nat.succ_lt_succ hi), decide_eq_true (Nat.le_add_left 1 i)]
    rfl
  have key : Bits.ofNat 8 r.toNat = r.getMsbD 0 :: (Bits.ofNat 8 (r <<< 1).toNat).take 7 := by
    simp only [Bits.ofNat, List.take_succ_cons, List.take_zero, htest 0 (by norm_num),
      htest 1 (by norm_num), htest 2 (by norm_num), htest 3 (by norm_num), htest 4 (by norm_num),
      htest 5 (by norm_num), htest 6 (by norm_num)]
    rfl
  rw [key, List.take_succ_cons, List.take_take, min_eq_left (by omega)]

/-- `klbs_read_bit` returns the next bit and meets no fault. -/
theorem readBit (h : ctx.Reads (b :: rest)) :
    ∃ ctx', klbsReadBit ctx = (b, ctx') ∧ ctx'.Reads rest ∧ ctx'.faults = ctx.faults ∧
      ctx'.buf = ctx.buf ∧ ctx'.buflen = ctx.buflen := by
  have hlen := h.length_eq
  have hrest := h.rest_eq
  have hlt := h.regUsed_lt
  rw [List.length_cons] at hlen
  unfold klbsReadBit
  rw [h.assertUsed]
  by_cases hreg : ctx.regUsed = 0
  · have hused : ctx.buflenUsed < ctx.buflen := by omega
    simp only [hreg, if_true, h.load_eq hused, le_refl]
    rw [hreg, List.take_zero, List.nil_append, h.drop_eq_cons hused, Bits.ofBytes_cons,
      ← List.take_length (l := Bits.ofNat 8 _), Bits.ofNat_length, take_shiftLeft _ (by norm_num),
      List.cons_append, List.cons.injEq] at hrest
    exact ⟨{ ctx with
        buflenUsed := ctx.buflenUsed + 1
        reg := ctx.buf.getD ctx.buflenUsed 0 <<< 1
        regUsed := 7 }, by rw [hrest.1], ⟨h.buflen_le, h.buflen_lt, hused, by simp, hrest.2⟩, rfl,
        rfl, rfl⟩
  · obtain ⟨u, hu⟩ : ∃ u, ctx.regUsed = u + 1 := ⟨ctx.regUsed - 1, by omega⟩
    simp only [hreg, if_false, hlt.le, if_true]
    rw [hu, take_shiftLeft _ (by omega), List.cons_append, List.cons.injEq] at hrest
    exact ⟨{ ctx with reg := ctx.reg <<< 1, regUsed := u }, by rw [hrest.1, hu]; rfl,
      ⟨h.buflen_le, h.buflen_lt, h.used_le, by simp only; omega, hrest.2⟩, rfl, rfl, rfl⟩

/-- Shifting a bit into the accumulator of `klbs_read_bits`. -/
private theorem accumulate {acc : BitVec 64} {n : ℕ} (hacc : acc.toNat < 2 ^ n) (hn : n < 64)
    (b : Bool) : (acc <<< 1 ||| (BitVec.ofBool b).setWidth 64).toNat = 2 * acc.toNat + b.toNat := by
  have hpow : (2 : ℕ) ^ (n + 1) ≤ 2 ^ 64 := Nat.pow_le_pow_right (by norm_num) (by omega)
  have hsmall : 2 * acc.toNat < 2 ^ 64 := by
    rw [pow_succ] at hpow
    omega
  have hshift : (acc <<< 1).toNat = 2 * acc.toNat := by
    rw [BitVec.toNat_shiftLeft, Nat.shiftLeft_eq, pow_one, Nat.mod_eq_of_lt (by omega)]
    omega
  have hbit : ((BitVec.ofBool b).setWidth 64).toNat = b.toNat := by
    cases b <;> rfl
  rw [BitVec.toNat_or, hshift, hbit]
  have hor := Nat.two_pow_add_eq_or_of_lt (i := 1) (b := b.toNat) (Bool.toNat_lt b) acc.toNat
  rw [pow_one] at hor
  exact hor.symm

/-- The loop of `klbs_read_bits` consumes its field. -/
lemma readBitsLoop {acc : BitVec 64} {n : ℕ} (h : ctx.Reads (bits ++ rest))
    (hacc : acc.toNat < 2 ^ n) (hn : n + bits.length ≤ 64) :
    ∃ v ctx', klbsReadBitsLoop bits.length ctx acc = (v, ctx') ∧
      v.toNat = acc.toNat * 2 ^ bits.length + Bits.toNat bits ∧ ctx'.Reads rest ∧
      ctx'.faults = ctx.faults ∧ ctx'.buf = ctx.buf ∧ ctx'.buflen = ctx.buflen := by
  induction bits generalizing ctx acc n with
  | nil => exact ⟨acc, ctx, rfl, by simp, h, rfl, rfl, rfl⟩
  | cons b bits ih =>
    rw [List.length_cons] at hn
    obtain ⟨ctx₁, hread, h₁, hf₁, hb₁, hl₁⟩ := KlbsContext.Reads.readBit h
    have hval := accumulate hacc (by omega) b
    have hb : b.toNat < 2 := Bool.toNat_lt b
    obtain ⟨v, ctx₂, hloop, hv, h₂, hf₂, hb₂, hl₂⟩ :=
      ih h₁ (show (acc <<< 1 ||| (BitVec.ofBool b).setWidth 64).toNat < 2 ^ (n + 1) by
        rw [hval, pow_succ]; omega) (by omega)
    refine ⟨v, ctx₂, ?_, ?_, h₂, hf₂.trans hf₁, hb₂.trans hb₁, hl₂.trans hl₁⟩
    · simp only [List.length_cons, klbsReadBitsLoop, hread, hloop]
    · rw [hv, hval, Bits.toNat_cons, List.length_cons, pow_succ]
      ring

/-- `klbs_read_bits` returns the number denoted by the next bits and meets no fault. -/
theorem readBits (h : ctx.Reads (bits ++ rest)) (hw : bits.length ≤ 64) :
    ∃ v ctx', klbsReadBits ctx bits.length = (v, ctx') ∧ v.toNat = Bits.toNat bits ∧
      ctx'.Reads rest ∧ ctx'.faults = ctx.faults ∧ ctx'.buf = ctx.buf ∧
      ctx'.buflen = ctx.buflen := by
  unfold klbsReadBits
  split_ifs with hfast
  · obtain ⟨h8, hreg⟩ := hfast
    have hlen := h.length_eq
    rw [List.length_append, h8, hreg] at hlen
    have hused : ctx.buflenUsed < ctx.buflen := by omega
    have hrest := h.rest_eq
    rw [hreg, List.take_zero, List.nil_append, h.drop_eq_cons hused, Bits.ofBytes_cons] at hrest
    obtain ⟨hbits, hrest⟩ := List.append_inj hrest (by simp [h8])
    simp only [h.load_eq hused]
    refine ⟨_, _, rfl, ?_, ⟨h.buflen_le, h.buflen_lt, hused, by simp [hreg], ?_⟩, rfl, rfl, rfl⟩
    · rw [hbits, Bits.toNat_ofNat, BitVec.toNat_setWidth, Nat.mod_eq_of_lt (BitVec.isLt _),
        Nat.mod_eq_of_lt (lt_trans (BitVec.isLt _) (by norm_num))]
    · simpa [hreg] using hrest
  · obtain ⟨v, ctx', hloop, hv, hrest⟩ :=
      readBitsLoop h (show (0 : BitVec 64).toNat < 2 ^ 0 by simp)
      (by omega)
    exact ⟨v, ctx', hloop, by simpa using hv, hrest⟩

/-- `klbs_read_bits` consumes its field, also when the accumulator cannot hold it and loses the
first bits. -/
lemma consumeBits (h : ctx.Reads (bits ++ rest)) (h8 : bits.length ≠ 8) :
    ∃ ctx', klbsReadBits ctx bits.length =
        (bits.foldl (fun (acc : BitVec 64) b => acc <<< 1 ||| (BitVec.ofBool b).setWidth 64) 0,
          ctx') ∧
      ctx'.Reads rest ∧ ctx'.faults = ctx.faults ∧ ctx'.buflen = ctx.buflen := by
  rw [klbsReadBits, if_neg fun hfast => h8 hfast.1]
  clear h8
  generalize (0 : BitVec 64) = acc
  induction bits generalizing ctx acc with
  | nil => exact ⟨ctx, rfl, h, rfl, rfl⟩
  | cons b bits ih =>
    obtain ⟨ctx₁, hread, h₁, hf₁, -, hl₁⟩ := KlbsContext.Reads.readBit h
    obtain ⟨ctx₂, hloop, h₂, hf₂, hl₂⟩ := ih h₁ (acc <<< 1 ||| (BitVec.ofBool b).setWidth 64)
    refine ⟨ctx₂, ?_, h₂, hf₂.trans hf₁, hl₂.trans hl₁⟩
    simp only [List.length_cons, klbsReadBitsLoop, hread, hloop, List.foldl_cons]

/-- `klbs_read_bits` returns the value of the next field, modulo its width. -/
theorem readField {w n : ℕ} (h : ctx.Reads (Bits.ofNat w n ++ rest)) (hw : w ≤ 64) :
    ∃ v ctx', klbsReadBits ctx w = (v, ctx') ∧ v.toNat = n % 2 ^ w ∧ ctx'.Reads rest ∧
      ctx'.faults = ctx.faults ∧ ctx'.buf = ctx.buf ∧ ctx'.buflen = ctx.buflen := by
  have hread := h.readBits (by simpa using hw)
  rwa [Bits.ofNat_length, Bits.toNat_ofNat] at hread

/-- `klbs_peek_bits` returns the next bits and consumes nothing. -/
theorem peekBits (h : ctx.Reads (bits ++ rest)) (hw : bits.length ≤ 64) :
    ∃ v, klbsPeekBits ctx bits.length = (v, ctx) ∧ v.toNat = Bits.toNat bits := by
  obtain ⟨v, ctx', hread, hv, -, hf, -, -⟩ := h.readBits hw
  exact ⟨v, by simp [klbsPeekBits, hread, hf], hv⟩

/-- `klbs_read_byte_stuff` discards the bits before the next octet. -/
lemma readByteStuff (h : ctx.Reads (bits ++ rest)) (hbits : bits.length < 8)
    (hrest : 8 ∣ rest.length) :
    (klbsReadByteStuff ctx).Reads rest ∧ (klbsReadByteStuff ctx).faults = ctx.faults ∧
      (klbsReadByteStuff ctx).buflen = ctx.buflen := by
  suffices hloop : ∀ fuel, bits.length ≤ fuel → (klbsReadByteStuffLoop fuel ctx).Reads rest ∧
      (klbsReadByteStuffLoop fuel ctx).faults = ctx.faults ∧
      (klbsReadByteStuffLoop fuel ctx).buflen = ctx.buflen from hloop 8 hbits.le
  intro fuel hfuel
  induction bits generalizing ctx fuel with
  | nil =>
    have hreg := h.regUsed_eq
    rw [List.nil_append, Nat.mod_eq_zero_of_dvd hrest] at hreg
    have hloop : klbsReadByteStuffLoop fuel ctx = ctx := by
      cases fuel with
      | zero => rfl
      | succ fuel => exact if_neg (by omega)
    rw [hloop]
    exact ⟨h, rfl, rfl⟩
  | cons b bits ih =>
    have hreg := h.regUsed_eq
    rw [List.length_append, List.length_cons] at hreg
    rw [List.length_cons] at hbits hfuel
    obtain ⟨fuel, rfl⟩ : ∃ n, fuel = n + 1 := ⟨fuel - 1, by omega⟩
    obtain ⟨ctx', hread, h', hfaults, -, hlen⟩ := KlbsContext.Reads.readBit h
    rw [klbsReadByteStuffLoop, if_pos (by omega), hread, ← hfaults, ← hlen]
    exact ih h' (by omega) fuel (by omega)

end KlbsContext.Reads

/-! ### The octets that have been loaded -/

/-- A number `n` of bits has been read from the buffer `buf`, whose announced size is `cap`. -/
structure KlbsContext.Loaded (buf : List Byte) (cap : ℕ) (ctx : KlbsContext) (n : ℕ) : Prop where
  buf_eq : ctx.buf = buf
  buflen_eq : ctx.buflen = cap
  regUsed_lt : ctx.regUsed < 8
  /-- What has been loaded has been read or is in the register. -/
  used_eq : 8 * ctx.buflenUsed = n + ctx.regUsed
  /-- The faults are the octets loaded from outside the buffer. -/
  faults_iff : ctx.faults = [] ↔ ctx.buflenUsed ≤ buf.length

namespace KlbsContext.Loaded

variable {buf : List Byte} {cap n : ℕ} {ctx : KlbsContext}

/-- Nothing has been read from a fresh context. -/
lemma setBuffer : (klbsReadSetBuffer buf cap).Loaded buf cap 0 :=
  ⟨rfl, rfl, by simp [klbsReadSetBuffer, klbsWriteSetBuffer], rfl,
    by simp [klbsReadSetBuffer, klbsWriteSetBuffer]⟩

/-- Loading an octet meets a fault exactly outside the buffer. -/
private lemma load_faults (h : ctx.Loaded buf cap n) :
    (klbsLoad ctx).2.faults = [] ↔ ctx.buflenUsed + 1 ≤ buf.length := by
  simp only [klbsLoad, List.append_eq_nil_iff, h.faults_iff, h.buf_eq]
  have hread := Checked.safe_read (Fault.read .bitstream) (0 : Byte) buf (i := ctx.buflenUsed)
  rw [Checked.Safe] at hread
  rw [hread]
  omega

/-- `klbs_read_bit` reads one bit. -/
lemma readBit (h : ctx.Loaded buf cap n) (hn : n < 8 * cap) :
    (klbsReadBit ctx).2.Loaded buf cap (n + 1) := by
  have hused := h.used_eq
  have hlt := h.regUsed_lt
  have hassert : klbsAssertUsed ctx = ctx := if_pos (by rw [h.buflen_eq]; omega)
  unfold klbsReadBit
  rw [hassert]
  by_cases hreg : ctx.regUsed = 0
  · simp only [hreg, if_true, le_refl]
    refine ⟨h.buf_eq, h.buflen_eq, by simp, ?_, h.load_faults⟩
    simp only [klbsLoad]
    omega
  · simp only [hreg, if_false, hlt.le, if_true]
    refine ⟨h.buf_eq, h.buflen_eq, ?_, ?_, h.faults_iff⟩
    · simp only
      omega
    · simp only
      omega

/-- The loop of `klbs_read_bits` reads as many bits as it is asked for. -/
private lemma readBitsLoop {w : ℕ} (h : ctx.Loaded buf cap n) (hn : n + w ≤ 8 * cap)
    (acc : BitVec 64) : (klbsReadBitsLoop w ctx acc).2.Loaded buf cap (n + w) := by
  induction w generalizing ctx n acc with
  | zero => exact h
  | succ w ih =>
    have hbit := ih (h.readBit (by omega)) (by omega)
      (acc <<< 1 ||| (BitVec.ofBool (klbsReadBit ctx).1).setWidth 64)
    rw [show n + 1 + w = n + (w + 1) by omega] at hbit
    exact hbit

/-- `klbs_read_bits` reads as many bits as it is asked for. -/
lemma readBits (h : ctx.Loaded buf cap n) (w : ℕ) (hn : n + w ≤ 8 * cap) :
    (klbsReadBits ctx w).2.Loaded buf cap (n + w) := by
  unfold klbsReadBits
  split_ifs with hfast
  · obtain ⟨rfl, hreg⟩ := hfast
    have hused := h.used_eq
    refine ⟨h.buf_eq, h.buflen_eq, h.regUsed_lt, ?_, h.load_faults⟩
    simp only [klbsLoad]
    omega
  · exact h.readBitsLoop hn 0

end KlbsContext.Loaded

end Libklvanc
