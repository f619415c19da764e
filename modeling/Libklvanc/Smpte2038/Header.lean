import Libklvanc.Smpte2038.Parser

/-!
# The header of a PES packet

The parts of the header are read back from their fields (`readPesFlags_yields` and others). Whatever
the first 112 bits are, the header is rejected at the first check that fails and otherwise read
(`parsePesHeader_screens`); the checks are listed in `headerChecks`.
-/

namespace Libklvanc.Smpte2038

open KlbsDecoder

/-! ### Fields that are checked -/

section Validate

variable {α : Type} {w : ℕ} {field val : BitVec w} {f : Unit → KlbsDecoder α}

lemma validate_progresses (field val : BitVec w) : (validate field val).Progresses :=
  .ite (.pure ()) (.throw (-1))

/-- A field that has its value is passed over. -/
lemma validate_bind (h : field = val) : (validate field val >>= f) = f () := by
  rw [validate, if_pos h]
  rfl

/-- A field that does not have its value is rejected. -/
lemma validate_bind_of_ne (h : field ≠ val) : (validate field val >>= f) = throw (-1) := by
  rw [validate, if_neg h]
  rfl

/-- Two checks are one. -/
lemma validate_bind_ite {c : Prop} [Decidable c] :
    (validate field val >>= fun _ => if c then pure () else throw (-1) : KlbsDecoder Unit) =
      if field = val ∧ c then pure () else throw (-1) := by
  by_cases h : field = val
  · rw [validate_bind h]
    simp [h]
  · rw [validate_bind_of_ne h]
    simp [h]

/-- Fields hold equal values when their numbers are equal. -/
lemma ofNat_eq_iff {n c : ℕ} (hn : n < 2 ^ w) (hc : c < 2 ^ w) :
    BitVec.ofNat w n = BitVec.ofNat w c ↔ n = c := by
  rw [← BitVec.toNat_inj, BitVec.toNat_ofNat, BitVec.toNat_ofNat, Nat.mod_eq_of_lt hn,
    Nat.mod_eq_of_lt hc]

/-- A check of the number that a field holds. -/
lemma validate_ofNat {n c : ℕ} (hn : n < 2 ^ w) (hc : c < 2 ^ w) :
    (n ≠ c → validate (BitVec.ofNat w n) (BitVec.ofNat w c) = throw (-1)) ∧
      (¬n ≠ c → validate (BitVec.ofNat w n) (BitVec.ofNat w c) = pure ()) := by
  exact ⟨fun hne => if_neg ((ofNat_eq_iff hn hc).not.mpr hne),
    fun heq => if_pos ((ofNat_eq_iff hn hc).mpr (not_ne_iff.mp heq))⟩

end Validate

/-! ### The parts of the header -/

section Parts

variable (h : KlvancSmpte2038AncDataPacket)

lemma readPesPacketLength_takes : (readPesPacketLength h).Takes 20 :=
  (Takes.readBits 16 16).bind fun _ => (Takes.skipBits 2).bind fun _ =>
    (Takes.readBits 8 2).bind fun _ => .pure _

lemma readPesPacketLength_yields {n a b : ℕ} (hn : n < 2 ^ 16) (ha : a < 2 ^ 2) (hb : b < 2 ^ 2) :
    (readPesPacketLength h).Yields (Bits.ofFields [(n, 16), (a, 2), (b, 2)])
      { h with pesPacketLength := BitVec.ofNat 16 n, pesScramblingControl := BitVec.ofNat 8 b } :=
  (Yields.readBits 16 (by norm_num) hn).bind <| (Yields.skipBits (by norm_num) ha).bind <|
    (Yields.readBits 8 (by norm_num) hb).bind (.pure _)

lemma readPesFlags_takes : (readPesFlags h).Takes 12 :=
  (Takes.readBits 8 1).bind fun _ => (Takes.readBits 8 1).bind fun _ =>
    (Takes.readBits 8 1).bind fun _ => (Takes.readBits 8 1).bind fun _ =>
      (Takes.readBits 8 2).bind fun _ => (Takes.readBits 8 1).bind fun _ =>
        (Takes.readBits 8 1).bind fun _ => (Takes.readBits 8 1).bind fun _ =>
          (Takes.readBits 8 1).bind fun _ => (Takes.readBits 8 1).bind fun _ =>
            (Takes.readBits 8 1).bind fun _ => .pure _

lemma readPesFlags_yields {a b c d p e₁ e₂ e₃ e₄ e₅ e₆ : ℕ} (ha : a < 2 ^ 1) (hb : b < 2 ^ 1)
    (hc : c < 2 ^ 1) (hd : d < 2 ^ 1) (hp : p < 2 ^ 2) (h₁ : e₁ < 2 ^ 1) (h₂ : e₂ < 2 ^ 1)
    (h₃ : e₃ < 2 ^ 1) (h₄ : e₄ < 2 ^ 1) (h₅ : e₅ < 2 ^ 1) (h₆ : e₆ < 2 ^ 1) :
    (readPesFlags h).Yields
      (Bits.ofFields [(a, 1), (b, 1), (c, 1), (d, 1), (p, 2), (e₁, 1), (e₂, 1), (e₃, 1), (e₄, 1),
        (e₅, 1), (e₆, 1)])
      { h with
        pesPriority := BitVec.ofNat 8 a
        dataAlignmentIndicator := BitVec.ofNat 8 b
        copyright := BitVec.ofNat 8 c
        originalOrCopy := BitVec.ofNat 8 d
        ptsDtsFlags := BitVec.ofNat 8 p
        escrFlag := BitVec.ofNat 8 e₁
        esRateFlag := BitVec.ofNat 8 e₂
        dsmTrickModeFlag := BitVec.ofNat 8 e₃
        additionalCopyInfoFlag := BitVec.ofNat 8 e₄
        pesCrcFlag := BitVec.ofNat 8 e₅
        pesExtensionFlag := BitVec.ofNat 8 e₆ } :=
  (Yields.readBits 8 (by norm_num) ha).bind <| (Yields.readBits 8 (by norm_num) hb).bind <|
    (Yields.readBits 8 (by norm_num) hc).bind <| (Yields.readBits 8 (by norm_num) hd).bind <|
      (Yields.readBits 8 (by norm_num) hp).bind <| (Yields.readBits 8 (by norm_num) h₁).bind <|
        (Yields.readBits 8 (by norm_num) h₂).bind <| (Yields.readBits 8 (by norm_num) h₃).bind <|
          (Yields.readBits 8 (by norm_num) h₄).bind <| (Yields.readBits 8 (by norm_num) h₅).bind <|
            (Yields.readBits 8 (by norm_num) h₆).bind (.pure _)

lemma readPesHeaderDataLength_takes : (readPesHeaderDataLength h).Takes 12 :=
  (Takes.readBits 8 8).bind fun _ => (Takes.skipBits 4).bind fun _ => .pure _

lemma readPesHeaderDataLength_yields {n a : ℕ} (hn : n < 2 ^ 8) (ha : a < 2 ^ 4) :
    (readPesHeaderDataLength h).Yields (Bits.ofFields [(n, 8), (a, 4)])
      { h with pesHeaderDataLength := BitVec.ofNat 8 n } :=
  (Yields.readBits 8 (by norm_num) hn).bind <| (Yields.skipBits (by norm_num) ha).bind (.pure _)

lemma readPts_takes : (readPts h).Takes 36 :=
  (Takes.readBits 64 3).bind fun _ => (Takes.skipBits 1).bind fun _ =>
    (Takes.readBits 64 15).bind fun _ => (Takes.skipBits 1).bind fun _ =>
      (Takes.readBits 64 15).bind fun _ => (Takes.skipBits 1).bind fun _ => .pure _

lemma readPts_yields {a b c m₁ m₂ m₃ : ℕ} (ha : a < 2 ^ 3) (h₁ : m₁ < 2 ^ 1) (hb : b < 2 ^ 15)
    (h₂ : m₂ < 2 ^ 1) (hc : c < 2 ^ 15) (h₃ : m₃ < 2 ^ 1) :
    (readPts h).Yields (Bits.ofFields [(a, 3), (m₁, 1), (b, 15), (m₂, 1), (c, 15), (m₃, 1)])
      { h with
        pts := BitVec.ofNat 64 a <<< 30 ||| BitVec.ofNat 64 b <<< 15 ||| BitVec.ofNat 64 c } :=
  (Yields.readBits 64 (by norm_num) ha).bind <| (Yields.skipBits (by norm_num) h₁).bind <|
    (Yields.readBits 64 (by norm_num) hb).bind <| (Yields.skipBits (by norm_num) h₂).bind <|
      (Yields.readBits 64 (by norm_num) hc).bind <|
        (Yields.skipBits (by norm_num) h₃).bind (.pure _)

/-- The flags are right or not. -/
lemma validatePesFlags_eq :
    validatePesFlags h = if h.ptsDtsFlags = 2 ∧ h.escrFlag = 0 ∧ h.esRateFlag = 0 ∧
        h.dsmTrickModeFlag = 0 ∧ h.additionalCopyInfoFlag = 0 ∧ h.pesCrcFlag = 0 ∧
        h.pesExtensionFlag = 0 then pure () else throw (-1) := by
  have hlast : validate h.pesExtensionFlag 0 =
    if h.pesExtensionFlag = 0 then pure () else throw (-1) := rfl
  rw [validatePesFlags, hlast, validate_bind_ite, validate_bind_ite, validate_bind_ite,
    validate_bind_ite, validate_bind_ite, validate_bind_ite]

end Parts

/-! ### The checks -/

/-- A check of the header: behind how many bits it is made, and the field that must have the
value. -/
structure HeaderCheck where
  behind : ℕ
  start : ℕ
  width : ℕ
  value : ℕ

/-- The checks of the header. The flags are read one by one and then checked together. -/
def headerChecks : List HeaderCheck :=
  [⟨24, 0, 24, 1⟩, ⟨32, 24, 8, 0xBD⟩, ⟨52, 50, 2, 0⟩, ⟨64, 56, 8, 0x80⟩, ⟨76, 64, 8, 5⟩]

/-- The bit string has all bits before one of the checks, and the field checked has a wrong
value. -/
def HeaderRejected (bits : List Bool) : Prop :=
  ∃ c ∈ headerChecks, c.behind ≤ bits.length ∧
    Bits.toNat ((bits.drop c.start).take c.width) ≠ c.value

section Checks

variable {bits : List Bool}

/-- A field that is checked when it has been read. -/
lemma readBits_check {w k c : ℕ} (hk : k ≤ 64) (hkw : k ≤ w) (hc : c < 2 ^ w)
    (hbits : bits.length = k) :
    ∃ a, (readBits w k).Yields bits a ∧
      (Bits.toNat bits ≠ c → validate a (BitVec.ofNat w c) = throw (-1)) ∧
      (¬Bits.toNat bits ≠ c → validate a (BitVec.ofNat w c) = pure ()) := by
  have hlt := Bits.toNat_lt bits
  rw [hbits] at hlt
  have hread := Yields.readBits w hk hlt
  have hfield := Bits.ofNat_toNat bits
  rw [hbits] at hfield
  rw [hfield] at hread
  exact ⟨_, hread, validate_ofNat (hlt.trans_le (Nat.pow_le_pow_right (by norm_num) hkw)) hc⟩

/-- A bit string is the fields of its length. -/
lemma ofFields_toFields_eq {ws : List ℕ} (hbits : bits.length = ws.sum) :
    Bits.ofFields (Bits.toFields ws bits) = bits := by
  have hsplit := @Bits.ofFields_toFields ws bits hbits.ge
  rwa [← hbits, List.drop_length, List.append_nil] at hsplit

lemma readPesPacketLength_check (h : KlvancSmpte2038AncDataPacket) (hbits : bits.length = 20) :
    ∃ a, (readPesPacketLength h).Yields bits a ∧
      (Bits.toNat ((bits.drop 18).take 2) ≠ 0 → validate a.pesScramblingControl 0 = throw (-1)) ∧
      (¬Bits.toNat ((bits.drop 18).take 2) ≠ 0 → validate a.pesScramblingControl 0 = pure ()) := by
  have hlt := Bits.toNat_take_lt 2 ((bits.drop 16).drop 2)
  have hyields := readPesPacketLength_yields h (Bits.toNat_take_lt 16 bits)
    (Bits.toNat_take_lt 2 (bits.drop 16)) hlt
  have hsplit := @ofFields_toFields_eq bits [16, 2, 2] hbits
  rw [Bits.toFields, Bits.toFields, Bits.toFields, Bits.toFields] at hsplit
  rw [hsplit] at hyields
  rw [List.drop_drop] at hlt hyields
  exact ⟨_, hyields, validate_ofNat (lt_trans hlt (by norm_num)) (by norm_num)⟩

lemma readPesHeaderDataLength_check (h : KlvancSmpte2038AncDataPacket) (hbits : bits.length = 12) :
    ∃ a, (readPesHeaderDataLength h).Yields bits a ∧
      (Bits.toNat (bits.take 8) ≠ 5 → validate a.pesHeaderDataLength 5 = throw (-1)) ∧
      (¬Bits.toNat (bits.take 8) ≠ 5 → validate a.pesHeaderDataLength 5 = pure ()) := by
  have hlt := Bits.toNat_take_lt 8 bits
  have hyields := readPesHeaderDataLength_yields h hlt (Bits.toNat_take_lt 4 (bits.drop 8))
  have hsplit := @ofFields_toFields_eq bits [8, 4] hbits
  rw [Bits.toFields, Bits.toFields, Bits.toFields] at hsplit
  rw [hsplit] at hyields
  exact ⟨_, hyields, validate_ofNat hlt (by norm_num)⟩

/-- The eight flags that are checked are `0x80`. -/
lemma toNat_flags {p e₁ e₂ e₃ e₄ e₅ e₆ : ℕ} (hp : p < 2 ^ 2) (h₁ : e₁ < 2 ^ 1) (h₂ : e₂ < 2 ^ 1)
    (h₃ : e₃ < 2 ^ 1) (h₄ : e₄ < 2 ^ 1) (h₅ : e₅ < 2 ^ 1) (h₆ : e₆ < 2 ^ 1) :
    Bits.toNat
        (Bits.ofFields [(p, 2), (e₁, 1), (e₂, 1), (e₃, 1), (e₄, 1), (e₅, 1), (e₆, 1)]) = 0x80 ↔
      BitVec.ofNat 8 p = 2 ∧ BitVec.ofNat 8 e₁ = 0 ∧ BitVec.ofNat 8 e₂ = 0 ∧ BitVec.ofNat 8 e₃ = 0 ∧
        BitVec.ofNat 8 e₄ = 0 ∧ BitVec.ofNat 8 e₅ = 0 ∧ BitVec.ofNat 8 e₆ = 0 := by
  have hzero : ∀ {e : ℕ}, e < 2 ^ 1 → (BitVec.ofNat 8 e = 0 ↔ e = 0) := fun he =>
    ofNat_eq_iff (lt_trans he (by norm_num)) (by norm_num)
  have htwo : BitVec.ofNat 8 p = 2 ↔ p = 2 :=
    ofNat_eq_iff (lt_trans hp (by norm_num)) (by norm_num)
  rw [hzero h₁, hzero h₂, hzero h₃, hzero h₄, hzero h₅, hzero h₆, htwo]
  simp only [Bits.ofFields_cons, Bits.ofFields_nil, Bits.toNat_append, Bits.toNat_ofNat,
    Bits.ofNat_length, Bits.toNat_nil, List.length_append, List.length_nil, Nat.mod_eq_of_lt, hp,
    h₁, h₂, h₃, h₄, h₅, h₆]
  omega

lemma readPesFlags_check (h : KlvancSmpte2038AncDataPacket) (hbits : bits.length = 12) :
    ∃ a, (readPesFlags h).Yields bits a ∧
      (Bits.toNat (bits.drop 4) ≠ 0x80 → validatePesFlags a = throw (-1)) ∧
      (¬Bits.toNat (bits.drop 4) ≠ 0x80 → validatePesFlags a = pure ()) := by
  have hsplit := @ofFields_toFields_eq bits [1, 1, 1, 1, 2, 1, 1, 1, 1, 1, 1] hbits
  have hflags := @ofFields_toFields_eq (bits.drop 4) [2, 1, 1, 1, 1, 1, 1]
    (by rw [List.length_drop, hbits]; rfl)
  simp only [Bits.toFields, List.drop_drop, Nat.reduceAdd] at hsplit hflags
  have hlt : ∀ n, Bits.toNat ((bits.drop n).take 1) < 2 ^ 1 := fun n => Bits.toNat_take_lt 1 _
  have hp := Bits.toNat_take_lt 2 (bits.drop 4)
  have hyields := readPesFlags_yields h (Bits.toNat_take_lt 1 bits) (hlt 1) (hlt 2) (hlt 3) hp
    (hlt 6) (hlt 7) (hlt 8) (hlt 9) (hlt 10) (hlt 11)
  have hvalue := toNat_flags hp (hlt 6) (hlt 7) (hlt 8) (hlt 9) (hlt 10) (hlt 11)
  rw [hsplit] at hyields
  rw [hflags] at hvalue
  refine ⟨_, hyields, ?_⟩
  rw [validatePesFlags_eq]
  exact ⟨fun hne => if_neg fun hall => hne (hvalue.mpr hall), fun heq =>
    if_pos (hvalue.mp (not_ne_iff.mp heq))⟩

/-- The header is rejected at the first check that fails, and otherwise its 112 bits are read. -/
theorem parsePesHeader_screens : parsePesHeader.Screens 112 HeaderRejected := by
  have hscreens : parsePesHeader.Screens 112 _ :=
    (Takes.readBits 32 24).screen (fun _ hbits => readBits_check (by norm_num) (by norm_num)
      (by norm_num : 1 < 2 ^ 32) hbits) (fun v => validate_progresses v 1) fun _ =>
    (Takes.readBits 8 8).screen (fun _ hbits => readBits_check (by norm_num) (by norm_num)
      (by norm_num : 0xBD < 2 ^ 8) hbits) (fun v => validate_progresses v 0xBD) fun _ =>
    (readPesPacketLength_takes _).screen (fun _ hbits => readPesPacketLength_check _ hbits)
      (fun h => validate_progresses h.pesScramblingControl 0) fun h =>
    (readPesFlags_takes h).screen (fun _ hbits => readPesFlags_check h hbits)
      (fun h => by rw [validatePesFlags_eq]; exact .ite (.pure ()) (.throw (-1))) fun h =>
    (readPesHeaderDataLength_takes h).screen (fun _ hbits => readPesHeaderDataLength_check h hbits)
      (fun h => validate_progresses h.pesHeaderDataLength 5) fun h => (readPts_takes h).screens
  convert hscreens using 1
  funext bits
  simp only [HeaderRejected, headerChecks, List.exists_mem_cons_iff, List.not_mem_nil, false_and,
    exists_false, or_false, List.drop_zero, List.length_drop, List.drop_drop, List.drop_take,
    List.take_take, Nat.reduceAdd, Nat.reduceSub, min_self,
    show min 8 12 = 8 from rfl, eq_iff_iff]
  -- Each check is made only behind the bits of the one before.
  have h₂ : 32 ≤ bits.length ↔ 24 ≤ bits.length ∧ 8 ≤ bits.length - 24 := by omega
  have h₃ : 52 ≤ bits.length ↔ 32 ≤ bits.length ∧ 20 ≤ bits.length - 32 := by omega
  have h₄ : 64 ≤ bits.length ↔ 52 ≤ bits.length ∧ 12 ≤ bits.length - 52 := by omega
  have h₅ : 76 ≤ bits.length ↔ 64 ≤ bits.length ∧ 12 ≤ bits.length - 64 := by omega
  rw [h₅, h₄, h₃, h₂]
  simp only [and_assoc, ← and_or_left]

end Checks

end Libklvanc.Smpte2038
