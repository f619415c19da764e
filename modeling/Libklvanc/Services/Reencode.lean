import Libklvanc.Services.FixedRoundTrip

/-!
# Encoding what has been decoded

A decoder of fixed layout passes over the bits that are reserved, and the encoder clears them. So
the words made of a decoded packet are the words it has been decoded from if and only if these bits
are clear (`FixedService.reencoded_iff`). For ancillary time code the user bits are among them, the
units must be decimal digits, and the two flags in front of the tens of frames and of hours, which
the encoder exchanges, must agree.
-/

namespace Libklvanc

open FixedPacket

/-! ### The services -/

/-- The services of fixed layout that have an encoder. -/
inductive FixedService
  | afd
  | eia608
  | klU64leCounter
  | smpte12_2
  deriving DecidableEq

namespace FixedService

/-- The type of their packets. -/
def type : FixedService → KlvancPacketType
  | afd => .afd
  | eia608 => .eia608
  | klU64leCounter => .klUint64Counter
  | smpte12_2 => .smpteS12_2

/-- Their callback. -/
def callback : FixedService → KlvancCallbacks → Bool
  | afd => (·.afd)
  | eia608 => (·.eia608)
  | klU64leCounter => (·.klI64leCounter)
  | smpte12_2 => (·.smpte12_2)

/-- Their identifiers. -/
def ids : FixedService → Byte × Byte
  | afd => (0x41, 0x05)
  | eia608 => (0x61, 0x02)
  | klU64leCounter => (0x40, 0xfe)
  | smpte12_2 => (0x60, 0x60)

/-- Their decoder. -/
def decode (hdr : KlvancPacketHeader) : FixedService → Except ℤ FixedPacket
  | afd => (parseAFD hdr).map .afd
  | eia608 => (parseEIA608 hdr).map .eia608
  | klU64leCounter => (parseKLU64LECounter hdr).map .klU64leCounter
  | smpte12_2 => (parseSMPTE12_2 hdr).map .smpte12_2

end FixedService

/-- The packets of fixed layout handed to the callbacks, in order. -/
def KlvancRun.fixedPackets (run : KlvancRun) : List FixedPacket :=
  run.calls.filterMap fun
    | .afd _ pkt => some (.afd pkt)
    | .eia608 _ pkt => some (.eia608 pkt)
    | .klI64leCounter _ pkt => some (.klU64leCounter pkt)
    | .smpte12_2 _ pkt => some (.smpte12_2 pkt)
    | _ => none

/-! ### Active format description, EIA-608 captions and the counter -/

section Octets

variable {hdr : KlvancPacketHeader}

/-- The octets of the value of two octets. -/
lemma bigEndian_payloadBe16 (i : ℕ) : Bits.bigEndian 2 (hdr.payloadBe16 i).toNat =
    [hdr.payloadByte i, hdr.payloadByte (i + 1)] := by
  have h₀ := (hdr.payloadByte i).isLt
  have h₁ := (hdr.payloadByte (i + 1)).isLt
  have hvalue : (hdr.payloadBe16 i).toNat =
      2 ^ 8 * (hdr.payloadByte i).toNat + (hdr.payloadByte (i + 1)).toNat := by
    rw [KlvancPacketHeader.payloadBe16, be16, BitVec.toNat_or, BitVec.toNat_shiftLeft,
      BitVec.toNat_setWidth, BitVec.toNat_setWidth, Nat.mod_eq_of_lt (h₀.trans (by norm_num)),
      Nat.mod_eq_of_lt (h₁.trans (by norm_num)), Nat.shiftLeft_eq, mul_comm,
      Nat.mod_eq_of_lt (by omega), Nat.two_pow_add_eq_or_of_lt h₁]
  simp only [Bits.bigEndian, hvalue, Nat.shiftRight_eq_div_pow, List.cons.injEq, and_true]
  constructor
  · apply BitVec.eq_of_toNat_eq
    rw [BitVec.toNat_ofNat]
    omega
  · apply BitVec.eq_of_toNat_eq
    rw [BitVec.toNat_ofNat]
    omega

/-- The octets of active format description without the reserved bits. -/
def cleanAfd (b : ℕ → Byte) : List Byte :=
  [b 0 &&& 0x7c, 0, 0, b 3 &&& 0xf0] ++
    if b 3 >>> 4 = 0x0c ∨ b 3 >>> 4 = 0x03 then [b 4, b 5, b 6, b 7] else [0, 0, 0, 0]

/-- The fields of active format description that has been decoded. -/
lemma parseAFD_fields : ∃ pkt, parseAFD hdr = .ok pkt ∧
    (pkt.aspectRatio = .aspect16x9 ↔ hdr.payloadByte 0 &&& 0x04 ≠ 0) ∧
    pkt.afd = (hdr.payloadByte 0 >>> 3 &&& 0x0f).setWidth 32 ∧
    pkt.barDataFlags = (hdr.payloadByte 3 >>> 4).setWidth 32 ∧
    pkt.barOctets = if hdr.payloadByte 3 >>> 4 = 0x0c ∨ hdr.payloadByte 3 >>> 4 = 0x03 then
        [hdr.payloadByte 4, hdr.payloadByte 5, hdr.payloadByte 6, hdr.payloadByte 7]
      else [0, 0, 0, 0] := by
  have hflags : ∀ b : Byte, ((b >>> 4).setWidth 32 = barsTopBottom ↔ b >>> 4 = 0x0c) ∧
      ((b >>> 4).setWidth 32 = barsLeftRight ↔ b >>> 4 = 0x03) := by
    decide +kernel
  have hratio : (if hdr.payloadByte 0 &&& 0x04 ≠ 0 then AspectRatio.aspect16x9 else .aspect4x3) =
      .aspect16x9 ↔ hdr.payloadByte 0 &&& 0x04 ≠ 0 := by
    by_cases h : hdr.payloadByte 0 &&& 0x04 ≠ 0
    · rw [if_pos h, eq_self, true_iff]
      exact h
    · rw [if_neg h]
      exact iff_of_false AspectRatio.noConfusion h
  obtain ⟨htop, hleft⟩ := hflags (hdr.payloadByte 3)
  unfold parseAFD KlvancPacketAfd.barOctets
  dsimp only
  by_cases h₁ : (hdr.payloadByte 3 >>> 4).setWidth 32 = barsTopBottom
  · refine ⟨_, if_pos h₁, hratio, rfl, rfl, ?_⟩
    rw [if_pos h₁, if_pos (Or.inl (htop.mp h₁)), bigEndian_payloadBe16, bigEndian_payloadBe16]
    rfl
  · by_cases h₂ : (hdr.payloadByte 3 >>> 4).setWidth 32 = barsLeftRight
    · refine ⟨_, (if_neg h₁).trans (if_pos h₂), hratio, rfl, rfl, ?_⟩
      rw [if_neg h₁, if_pos h₂, if_pos (Or.inr (hleft.mp h₂)), bigEndian_payloadBe16,
        bigEndian_payloadBe16]
      rfl
    · refine ⟨_, (if_neg h₁).trans (if_neg h₂), hratio, rfl, rfl, ?_⟩
      rw [if_neg h₁, if_neg h₂, if_neg (not_or.mpr ⟨mt htop.mpr h₁, mt hleft.mpr h₂⟩)]

/-- Active format description that has been decoded has lost the reserved bits. -/
lemma parseAFD_octets_eq :
    ∃ pkt, parseAFD hdr = .ok pkt ∧ pkt.octets = cleanAfd hdr.payloadByte := by
  have hfirst : ∀ b : Byte, ((b >>> 3 &&& 0x0f).setWidth 32 <<< 3 : BitVec 32).setWidth 8 |||
      (if b &&& 0x04 ≠ 0 then 0x04 else 0) = b &&& 0x7c := by
    decide +kernel
  have hfourth : ∀ b : Byte, ((b >>> 4).setWidth 32 <<< 4 : BitVec 32).setWidth 8 = b &&& 0xf0 := by
    decide +kernel
  obtain ⟨pkt, hparse, hratio, hafd, hflags, hbars⟩ := @parseAFD_fields hdr
  refine ⟨pkt, hparse, ?_⟩
  rw [KlvancPacketAfd.octets, hbars, hafd, hflags, hfourth, cleanAfd, ← hfirst (hdr.payloadByte 0)]
  simp only [hratio]

/-- The octets of EIA-608 captions without the reserved bits. -/
def cleanEia608 (b : ℕ → Byte) : List Byte := [b 0 &&& 0x9f, b 1, b 2]

/-- So have EIA-608 captions. -/
lemma parseEIA608_octets_eq : ∃ pkt, parseEIA608 hdr = .ok pkt ∧
    pkt.octets = cleanEia608 hdr.payloadByte := by
  have hfirst : ∀ b : Byte,
      (if (if b &&& 0x80 ≠ 0 then 0 else 1 : BitVec 32) = 0 then (0x80 : Byte) else 0) |||
      (((b &&& 0x1f).setWidth 32).setWidth 5).setWidth 8 = b &&& 0x9f := by
    decide +kernel
  refine ⟨_, rfl, ?_⟩
  rw [KlvancPacketEia608.octets, cleanEia608, ← hfirst]

/-- An octet of a counter is in its place. -/
lemma octet_shiftLeft (b : Byte) {i k : ℕ} (hi : i < 8) (hk : k < 8) :
    ((b.setWidth 64 <<< (56 - 8 * k) : BitVec 64) >>> (56 - 8 * i)).setWidth 8 =
      if i = k then b else 0 := by
  apply BitVec.eq_of_getLsbD_eq
  intro j hj
  rw [BitVec.getLsbD_setWidth, BitVec.getLsbD_ushiftRight, BitVec.getLsbD_shiftLeft,
    BitVec.getLsbD_setWidth]
  rcases lt_trichotomy i k with hlt | rfl | hgt
  · rw [if_neg hlt.ne, BitVec.getLsbD_of_ge b _ (by omega)]
    simp
  · have hin : 56 - 8 * i + j < 64 := by omega
    have hj' : j < 64 := by omega
    rw [if_pos rfl, Nat.add_sub_cancel_left]
    simp [hin, hj, hj']
  · rw [if_neg hgt.ne']
    simp
    omega

/-- A counter that has been decoded has lost nothing. -/
lemma parseKLU64LECounter_octets_eq : ∃ pkt, parseKLU64LECounter hdr = .ok pkt ∧
    pkt.octets = (List.range 8).map hdr.payloadByte := by
  have hfold : ∀ k ≤ 8, ∀ i < 8, (((List.range k).foldl
      (fun (counter : BitVec 64) i =>
        counter ||| (hdr.payloadByte i).setWidth 64 <<< (56 - 8 * i)) 0) >>>
        (56 - 8 * i)).setWidth 8 = if i < k then hdr.payloadByte i else 0 := by
    intro k hk i hi
    induction k with
    | zero =>
      rw [if_neg (Nat.not_lt_zero i)]
      simp
    | succ k ih =>
      rw [List.range_succ, List.foldl_append, List.foldl_cons, List.foldl_nil,
        BitVec.ushiftRight_or_distrib, BitVec.setWidth_or, ih (by omega),
        octet_shiftLeft _ hi (by omega)]
      rcases lt_trichotomy i k with hlt | rfl | hgt
      · rw [if_pos hlt, if_neg hlt.ne, if_pos (by omega)]
        exact BitVec.or_zero
      · rw [if_neg (lt_irrefl i), if_pos rfl, if_pos (by omega)]
        exact BitVec.zero_or
      · rw [if_neg (by omega), if_neg hgt.ne', if_neg (by omega)]
        rfl
  refine ⟨_, rfl, List.map_congr_left fun i hi => ?_⟩
  rw [List.mem_range] at hi
  exact (hfold 8 le_rfl i hi).trans (if_pos hi)

/-! ### The digits of a time code -/

/-- The two octets of the units and of the tens of a time value and the octets of user bits behind
them are made again of what is decoded. -/
structure CleanDigits (b : ℕ → Byte) (i : ℕ) : Prop where
  /-- The units are a decimal digit. -/
  units : b i >>> 4 ≤ 9
  /-- The bits below DBB1 and DBB2 are clear. -/
  reserved : b i &&& 0x07 = 0 ∧ b (i + 2) &&& 0x07 = 0
  /-- The user bits are clear. -/
  userBits : b (i + 1) &&& 0xf7 = 0 ∧ b (i + 3) &&& 0xf7 = 0

/-- The octets of a time code that are made again of what is decoded. -/
structure CleanTimeCode (b : ℕ → Byte) : Prop where
  /-- The type, which is spread over bit 3 of the first eight octets, is supported. -/
  type : ∃ dbb1 : Byte, (dbb1 = 0x00 ∨ dbb1 = 0x01 ∨ dbb1 = 0x02) ∧
    ∀ i < 8, (b i).getLsbD 3 = dbb1.getLsbD i
  /-- The digits are clean. -/
  digits : ∀ i ∈ [0, 4, 8, 12], CleanDigits b i
  /-- The two flags in front of the tens of frames and of hours agree. -/
  flags : (b 2).getLsbD 7 = (b 2).getLsbD 6 ∧ (b 14).getLsbD 7 = (b 14).getLsbD 6

/-- The digits of a time value come back from its octets if the units are decimal. -/
lemma timeUnits_timeTens (d : BitVec 4) (c₄ c₅ c₆ : Bool) :
    let value : Byte := d.setWidth 8 + (if c₄ then 10 else 0) + (if c₅ then 20 else 0) +
      (if c₆ then 40 else 0)
    timeUnitsOctet value = (d % 10).setWidth 8 <<< 4 ∧
      (d ≤ 9 → (value / 10).getLsbD 0 = c₄ ∧ (value / 20).getLsbD 0 = c₅ ∧
      (value / 40).getLsbD 0 = c₆) := by
  revert d c₄ c₅ c₆
  decide +kernel

/-- The octet of the units is made again if the units are decimal and the reserved bits are
clear. -/
lemma units_iff (u : Byte) : ((u >>> 4).setWidth 4 % 10).setWidth 8 <<< 4 = u &&& 0xf7 ↔
    u >>> 4 ≤ 9 ∧ u &&& 0x07 = 0 := by
  revert u
  decide +kernel

/-- The octet of the tens is made again if the flags are and the reserved bits are clear. -/
lemma tens_iff (t : Byte) (b₇ b₆ : Bool) : (if b₇ then 0x80 else 0) ||| (if b₆ then 0x40 else 0) |||
      (if t.getLsbD 5 then (1 : Byte) else 0) <<< 5 |||
        (if t.getLsbD 4 then (1 : Byte) else 0) <<< 4 =
        t &&& 0xf7 ↔ t &&& 0x07 = 0 ∧ b₇ = t.getLsbD 7 ∧ b₆ = t.getLsbD 6 := by
  revert t b₇ b₆
  decide +kernel

/-- A bit of an octet. -/
lemma ifSet_eq (t value : Byte) : ifSet t 0x10 value = (if t.getLsbD 4 then value else 0) ∧
    ifSet t 0x20 value = (if t.getLsbD 5 then value else 0) ∧
    ifSet t 0x40 value = (if t.getLsbD 6 then value else 0) ∧
    ifSet t 0x80 value = (if t.getLsbD 7 then value else 0) := by
  have h : ∀ t : Byte, (t &&& 0x10 ≠ 0 ↔ t.getLsbD 4 = true) ∧
      (t &&& 0x20 ≠ 0 ↔ t.getLsbD 5 = true) ∧
      (t &&& 0x40 ≠ 0 ↔ t.getLsbD 6 = true) ∧ (t &&& 0x80 ≠ 0 ↔ t.getLsbD 7 = true) := by
    decide +kernel
  obtain ⟨h₄, h₅, h₆, h₇⟩ := h t
  simp only [ifSet, h₄, h₅, h₆, h₇, and_self]

/-- The digits of a time value. -/
lemma digits_of_value {b : ℕ → Byte} {i : ℕ} {value : Byte} {c₆ : Bool}
    (hvalue : value = (b i >>> 4 &&& 0x0f) + ifSet (b (i + 2)) 0x10 10 + ifSet (b (i + 2)) 0x20 20 +
      (if c₆ then 40 else 0)) :
    timeUnitsOctet value = ((b i >>> 4).setWidth 4 % 10).setWidth 8 <<< 4 ∧
      (b i >>> 4 ≤ 9 → (value / 10).getLsbD 0 = (b (i + 2)).getLsbD 4 ∧
        (value / 20).getLsbD 0 = (b (i + 2)).getLsbD 5 ∧ (value / 40).getLsbD 0 = c₆) := by
  have hnibble : ∀ u : Byte, (u >>> 4 &&& 0x0f : Byte) = ((u >>> 4).setWidth 4).setWidth 8 ∧
      (u >>> 4 ≤ 9 → (u >>> 4).setWidth 4 ≤ (9 : BitVec 4)) := by
    decide +kernel
  obtain ⟨hdigit, hle⟩ := hnibble (b i)
  obtain ⟨h₄, -⟩ := ifSet_eq (b (i + 2)) 10
  obtain ⟨-, h₅, -⟩ := ifSet_eq (b (i + 2)) 20
  obtain ⟨hunits, htens⟩ := timeUnits_timeTens ((b i >>> 4).setWidth 4) ((b (i + 2)).getLsbD 4)
    ((b (i + 2)).getLsbD 5) c₆
  rw [hvalue, hdigit, h₄, h₅]
  exact ⟨hunits, fun hdec => htens (hle hdec)⟩

/-- The octets of a time value are made again if the digits are clean and the flags are those that
have been there. -/
lemma digits_iff {b : ℕ → Byte} {i : ℕ} {value : Byte} {c₆ f₇ f₆ : Bool}
    (hvalue : value = (b i >>> 4 &&& 0x0f) + ifSet (b (i + 2)) 0x10 10 + ifSet (b (i + 2)) 0x20 20 +
      (if c₆ then 40 else 0)) :
    (timeUnitsOctet value = b i &&& 0xf7 ∧ 0 = b (i + 1) &&& 0xf7 ∧
      timeTensOctet f₇ f₆ value = b (i + 2) &&& 0xf7 ∧ 0 = b (i + 3) &&& 0xf7) ↔
        CleanDigits b i ∧ f₇ = (b (i + 2)).getLsbD 7 ∧ f₆ = (b (i + 2)).getLsbD 6 := by
  obtain ⟨hunits, htens⟩ := digits_of_value hvalue
  rw [hunits, units_iff, @eq_comm _ 0 (b (i + 1) &&& 0xf7), @eq_comm _ 0 (b (i + 3) &&& 0xf7),
    timeTensOctet_eq]
  constructor
  · rintro ⟨⟨hdec, hu⟩, h₁, ht, h₃⟩
    obtain ⟨h₁₀, h₂₀, -⟩ := htens hdec
    rw [h₁₀, h₂₀, tens_iff] at ht
    exact ⟨⟨hdec, ⟨hu, ht.1⟩, ⟨h₁, h₃⟩⟩, ht.2⟩
  · rintro ⟨⟨hdec, ⟨hu, ht⟩, ⟨h₁, h₃⟩⟩, hflags⟩
    obtain ⟨h₁₀, h₂₀, -⟩ := htens hdec
    refine ⟨⟨hdec, hu⟩, h₁, ?_, h₃⟩
    rw [h₁₀, h₂₀, tens_iff]
    exact ⟨ht, hflags⟩

/-- The bit in front of clean tens is that of the forties. -/
lemma tens_forty {b : ℕ → Byte} {i : ℕ} {value : Byte} {c₆ : Bool} (hclean : CleanDigits b i)
    (hvalue : value = (b i >>> 4 &&& 0x0f) + ifSet (b (i + 2)) 0x10 10 + ifSet (b (i + 2)) 0x20 20 +
      (if c₆ then 40 else 0)) : (value / 40).getLsbD 0 = c₆ :=
  ((digits_of_value hvalue).2 hclean.units).2.2

/-! ### Time codes -/

/-- An octet that carries a bit of DBB1 or DBB2 is made again if what it has besides is. -/
lemma withDbb_eq_iff {o c dbb : Byte} {i : ℕ} (ho : o >>> 3 &&& 0x01 = 0)
    (hbit : dbb.getLsbD i = c.getLsbD 3) : withDbb o dbb i = c ↔ o = c &&& 0xf7 := by
  have hsplit : ∀ c : Byte, (c &&& 0xf7) ||| (c >>> 3 &&& 0x01) <<< 3 = c ∧
      (c >>> 3 &&& 0x01) <<< 3 &&& 0xf7 = 0 ∧ (c >>> 3 &&& 0x01 = 0 → c &&& 0xf7 = c) := by
    decide +kernel
  have hmoved : (dbb >>> i &&& 0x01 : Byte) = c >>> 3 &&& 0x01 := by
    rw [byte_and_one_eq, byte_and_one_eq, BitVec.getLsbD_ushiftRight, BitVec.getLsbD_ushiftRight,
      Nat.add_zero, Nat.add_zero, hbit]
  rw [withDbb, hmoved]
  constructor
  · intro h
    have hrest := congrArg (· &&& 0xf7) h
    rw [BitVec.and_or_distrib_right, (hsplit c).2.1, (hsplit o).2.2 ho] at hrest
    exact BitVec.or_zero.symm.trans hrest
  · intro h
    rw [h]
    exact (hsplit c).1

/-- The bits that have been collected are those of the octets. -/
lemma parseDbb_getLsbD (start : ℕ) {i : ℕ} (hi : i < 8) :
    (parseDbb hdr start).getLsbD i = (hdr.payloadByte (i + start)).getLsbD 3 := by
  have hbit : ∀ x : Byte, ∀ m, (x &&& 0x01).getLsbD m = (decide (m = 0) && x.getLsbD 0) := by
    intro x m
    rw [byte_and_one_eq]
    rcases Nat.eq_zero_or_pos m with rfl | hm
    · cases x.getLsbD 0 <;> rfl
    · rw [decide_eq_false hm.ne', Bool.false_and]
      split_ifs
      · rw [show (1 : Byte) = BitVec.twoPow 8 0 from rfl, BitVec.getLsbD_twoPow]
        simp [hm.ne]
      · exact BitVec.getLsbD_zero
  have hfold : ∀ k ≤ 8, ((List.range k).foldl (fun (dbb : Byte) (j : ℕ) =>
      dbb ||| (hdr.payloadByte (j + start) >>> 3 &&& 0x01) <<< j) 0).getLsbD i =
        (decide (i < k) && (hdr.payloadByte (i + start) >>> 3).getLsbD 0) := by
    intro k hk
    induction k with
    | zero => simp
    | succ k ih =>
      rw [List.range_succ, List.foldl_append, List.foldl_cons, List.foldl_nil, BitVec.getLsbD_or,
        ih (by omega), BitVec.getLsbD_shiftLeft, hbit]
      rcases lt_trichotomy i k with hlt | rfl | hgt
      · simp [hlt, hlt.trans (Nat.lt_succ_self k)]
      · simp [hi]
      · simp [hgt.not_gt, (Nat.sub_pos_of_lt hgt).ne', Nat.not_lt.mpr (Nat.succ_le_of_lt hgt)]
  have h := hfold 8 le_rfl
  rw [decide_eq_true hi, Bool.true_and, BitVec.getLsbD_ushiftRight] at h
  exact h

/-- DBB2 is made again of its line and its flags. -/
lemma composedDbb2_eq {pkt : KlvancPacketSmpte12_2} {dbb2 : Byte}
    (hline : pkt.vitcLineSelect = dbb2 &&& 0x1f)
    (hdup : pkt.lineDuplicationFlag = ifSet dbb2 0x20 1)
    (hvalid : pkt.tcValidityFlag = ifSet dbb2 0x40 1)
    (huser : pkt.userBitsProcessFlag = ifSet dbb2 0x80 1) : pkt.composedDbb2 = dbb2 := by
  have h : ∀ b : Byte, (b &&& 0x1f) ||| (if ifSet b 0x20 1 ≠ 0 then 0x20 else 0) |||
      (if ifSet b 0x40 1 ≠ 0 then 0x40 else 0) |||
      (if ifSet b 0x80 1 ≠ 0 then 0x80 else 0) = b := by
    decide +kernel
  rw [KlvancPacketSmpte12_2.composedDbb2, hline, hdup, hvalid, huser]
  exact h dbb2

/-- A time code that has been decoded has lost DBB1 and DBB2 from its octets, and gets them
again. -/
lemma timeCode_octets_eq_iff {pkt : KlvancPacketSmpte12_2} (htc : pkt.HasTimeCode)
    (hdbb1 : pkt.dbb1 = parseDbb hdr 0) (hdbb2 : pkt.composedDbb2 = parseDbb hdr 8) :
    pkt.octets = (List.range 16).map hdr.payloadByte ↔
      pkt.timeCodeOctets = (List.range 16).map fun i => hdr.payloadByte i &&& 0xf7 := by
  have hlen : pkt.octets.length = 16 := KlvancPacketSmpte12_2.octets_length htc
  have hcells : ∀ {l : List Byte} {f : ℕ → Byte}, l.length = 16 →
      (l = (List.range 16).map f ↔ ∀ i < 8, l.getD i 0 = f i ∧ l.getD (i + 8) 0 = f (i + 8)) := by
    intro l f hl
    constructor
    · rintro rfl i hi
      rw [List.getD_eq_getElem _ _ (by omega), List.getD_eq_getElem _ _ (by omega),
        List.getElem_map, List.getElem_map, List.getElem_range, List.getElem_range]
      exact ⟨rfl, rfl⟩
    · intro h
      refine List.ext_getElem (by rw [hl, List.length_map, List.length_range]) fun i hi hi' => ?_
      rw [List.getElem_map, List.getElem_range, ← List.getD_eq_getElem l 0 hi]
      rcases lt_or_ge i 8 with hlt | hge
      · exact (h i hlt).1
      · have hupper := (h (i - 8) (by omega)).2
        rwa [Nat.sub_add_cancel hge] at hupper
  rw [hcells hlen, hcells rfl]
  refine forall₂_congr fun i hi => ?_
  obtain ⟨hlower, hupper⟩ := octets_getD htc hi
  have hlowerBit : (parseDbb hdr 0).getLsbD i = (hdr.payloadByte i).getLsbD 3 :=
    parseDbb_getLsbD 0 hi
  rw [hlower, hupper, hdbb1, hdbb2, withDbb_eq_iff (timeCodeOctets_bit pkt i) hlowerBit,
    withDbb_eq_iff (timeCodeOctets_bit pkt (i + 8)) (parseDbb_getLsbD 8 hi)]

/-- What is made again of the values and the flags of a time code. -/
lemma timeCodeOctets_eq_iff {pkt : KlvancPacketSmpte12_2} {b : ℕ → Byte}
    (hframes : pkt.frames = (b 0 >>> 4 &&& 0x0f) + ifSet (b 2) 0x10 10 + ifSet (b 2) 0x20 20)
    (hseconds : pkt.seconds = (b 4 >>> 4 &&& 0x0f) + ifSet (b 6) 0x10 10 + ifSet (b 6) 0x20 20 +
      ifSet (b 6) 0x40 40)
    (hminutes : pkt.minutes = (b 8 >>> 4 &&& 0x0f) + ifSet (b 10) 0x10 10 + ifSet (b 10) 0x20 20 +
      ifSet (b 10) 0x40 40)
    (hhours : pkt.hours = (b 12 >>> 4 &&& 0x0f) + ifSet (b 14) 0x10 10 + ifSet (b 14) 0x20 20)
    (hflags : pkt.flag14 = ifSet (b 2) 0x40 1 ∧ pkt.flag15 = ifSet (b 2) 0x80 1 ∧
      pkt.flag35 = ifSet (b 6) 0x80 1 ∧ pkt.flag55 = ifSet (b 10) 0x80 1 ∧
      pkt.flag74 = ifSet (b 14) 0x40 1 ∧ pkt.flag75 = ifSet (b 14) 0x80 1) :
    (pkt.timeCodeOctets = (List.range 16).map fun i => b i &&& 0xf7) ↔
      (∀ i ∈ [0, 4, 8, 12], CleanDigits b i) ∧
        (b 2).getLsbD 7 = (b 2).getLsbD 6 ∧ (b 14).getLsbD 7 = (b 14).getLsbD 6 := by
  obtain ⟨h14, h15, h35, h55, h74, h75⟩ := hflags
  have hbit : ∀ t : Byte, (ifSet t 0x40 1).getLsbD 0 = t.getLsbD 6 ∧
      (ifSet t 0x80 1).getLsbD 0 = t.getLsbD 7 := by
    decide +kernel
  have hrange : List.range 16 = [0, 1, 2, 3, 4, 5, 6, 7, 8, 9, 10, 11, 12, 13, 14, 15] := rfl
  have hforty : ∀ t : Byte, ifSet t 0x40 40 = if t.getLsbD 6 then 40 else 0 := fun t =>
    (ifSet_eq t 40).2.2.1
  rw [hforty] at hseconds hminutes
  have h₀ := @digits_iff b 0 pkt.frames false (pkt.flag14.getLsbD 0) (pkt.flag15.getLsbD 0)
    (hframes.trans (BitVec.add_zero _).symm)
  have h₄ := @digits_iff b 4 pkt.seconds _ (pkt.flag35.getLsbD 0) ((pkt.seconds / 40).getLsbD 0)
    hseconds
  have h₈ := @digits_iff b 8 pkt.minutes _ (pkt.flag55.getLsbD 0) ((pkt.minutes / 40).getLsbD 0)
    hminutes
  have h₁₂ := @digits_iff b 12 pkt.hours false (pkt.flag74.getLsbD 0) (pkt.flag75.getLsbD 0)
    (hhours.trans (BitVec.add_zero _).symm)
  have h₄' := fun hclean => tens_forty hclean hseconds
  have h₈' := fun hclean => tens_forty hclean hminutes
  rw [h14, h15, (hbit _).1, (hbit _).2] at h₀
  rw [h35, (hbit _).2] at h₄
  rw [h55, (hbit _).2] at h₈
  rw [h74, h75, (hbit _).1, (hbit _).2] at h₁₂
  simp only [KlvancPacketSmpte12_2.timeCodeOctets, h14, h15, h35, h55, h74, h75, hbit, hrange,
    List.map_cons, List.map_nil, List.cons.injEq, and_true, List.forall_mem_cons, List.not_mem_nil,
    false_imp_iff, implies_true]
  constructor
  · rintro ⟨e₀, e₁, e₂, e₃, e₄, e₅, e₆, e₇, e₈, e₉, e₁₀, e₁₁, e₁₂, e₁₃, e₁₄, e₁₅⟩
    obtain ⟨c₀, f₀, -⟩ := h₀.mp ⟨e₀, e₁, e₂, e₃⟩
    obtain ⟨c₄, -⟩ := h₄.mp ⟨e₄, e₅, e₆, e₇⟩
    obtain ⟨c₈, -⟩ := h₈.mp ⟨e₈, e₉, e₁₀, e₁₁⟩
    obtain ⟨c₁₂, f₁₂, -⟩ := h₁₂.mp ⟨e₁₂, e₁₃, e₁₄, e₁₅⟩
    exact ⟨⟨c₀, c₄, c₈, c₁₂⟩, f₀.symm, f₁₂.symm⟩
  · rintro ⟨⟨c₀, c₄, c₈, c₁₂⟩, f₀, f₁₂⟩
    obtain ⟨e₀, e₁, e₂, e₃⟩ := h₀.mpr ⟨c₀, f₀.symm, f₀⟩
    obtain ⟨e₄, e₅, e₆, e₇⟩ := h₄.mpr ⟨c₄, rfl, h₄' c₄⟩
    obtain ⟨e₈, e₉, e₁₀, e₁₁⟩ := h₈.mpr ⟨c₈, rfl, h₈' c₈⟩
    obtain ⟨e₁₂, e₁₃, e₁₄, e₁₅⟩ := h₁₂.mpr ⟨c₁₂, f₁₂.symm, f₁₂⟩
    exact ⟨e₀, e₁, e₂, e₃, e₄, e₅, e₆, e₇, e₈, e₉, e₁₀, e₁₁, e₁₂, e₁₃, e₁₄, e₁₅⟩

/-- A time code that has been decoded is made again if and only if its octets are clean. -/
lemma parseSMPTE12_2_octets_eq_iff (hlen : hdr.payloadLengthWords = 16) :
    ∃ pkt, parseSMPTE12_2 hdr = .ok pkt ∧
      (pkt.octets = (List.range 16).map hdr.payloadByte ↔ CleanTimeCode hdr.payloadByte) := by
  have hbit : ∀ i < 8, (hdr.payloadByte i).getLsbD 3 = (parseDbb hdr 0).getLsbD i :=
    fun i hi => (parseDbb_getLsbD 0 hi).symm
  have htype : (parseDbb hdr 0 = 0x00 ∨ parseDbb hdr 0 = 0x01 ∨ parseDbb hdr 0 = 0x02) ↔
      ∃ dbb1 : Byte, (dbb1 = 0x00 ∨ dbb1 = 0x01 ∨ dbb1 = 0x02) ∧
        ∀ i < 8, (hdr.payloadByte i).getLsbD 3 = dbb1.getLsbD i := by
    constructor
    · exact fun h => ⟨_, h, hbit⟩
    · rintro ⟨dbb1, h, hall⟩
      have heq : parseDbb hdr 0 = dbb1 :=
        BitVec.eq_of_getLsbD_eq fun i hi => (hbit i hi).symm.trans (hall i hi)
      rwa [heq]
  have hnone : ∀ pkt : KlvancPacketSmpte12_2, pkt.dbb1 = parseDbb hdr 0 →
      ¬(parseDbb hdr 0 = 0x00 ∨ parseDbb hdr 0 = 0x01 ∨ parseDbb hdr 0 = 0x02) →
      pkt.octets = [] := by
    intro pkt hdbb1 hnot
    rw [KlvancPacketSmpte12_2.octets, if_neg (by rwa [KlvancPacketSmpte12_2.HasTimeCode, hdbb1])]
  unfold parseSMPTE12_2
  rw [if_neg (not_not.mpr hlen)]
  dsimp only
  split_ifs with h
  · refine ⟨_, rfl, Iff.trans (timeCode_octets_eq_iff ?_ rfl ?_) ?_⟩
    · exact h
    · exact composedDbb2_eq rfl rfl rfl rfl
    · rw [timeCodeOctets_eq_iff rfl rfl rfl rfl ⟨rfl, rfl, rfl, rfl, rfl, rfl⟩]
      exact ⟨fun hrest => ⟨htype.mp h, hrest.1, hrest.2⟩, fun hclean =>
        ⟨hclean.digits, hclean.flags⟩⟩
  · refine ⟨_, rfl, iff_of_false ?_ ?_⟩
    · rw [hnone _ rfl h]
      intro heq
      have hlength := congrArg List.length heq
      rw [List.length_map, List.length_range] at hlength
      exact absurd hlength (by decide)
    · intro hclean
      exact h (htype.mpr hclean.type)

end Octets

/-! ### The words made again -/

namespace FixedService

/-- The octets of a payload are made again of what is decoded. -/
def Clean : FixedService → List Byte → Prop
  | afd, bytes => bytes = cleanAfd fun i => bytes.getD i 0
  | eia608, bytes => bytes = cleanEia608 fun i => bytes.getD i 0
  | klU64leCounter, bytes => bytes.length = 8
  | smpte12_2, bytes => bytes.length = 16 ∧ CleanTimeCode fun i => bytes.getD i 0

/-- A list of the length given is that of its cells. -/
lemma map_getD_eq_iff {bytes : List Byte} {n : ℕ} :
    ((List.range n).map fun i => bytes.getD i 0) = bytes ↔ bytes.length = n := by
  constructor
  · intro h
    rw [← h, List.length_map, List.length_range]
  · rintro rfl
    refine List.ext_getElem (by rw [List.length_map, List.length_range]) fun i hi hi' => ?_
    rw [List.getElem_map, List.getElem_range, List.getD_eq_getElem _ _ hi']

/-- The decoder of a service finds a packet of the service, which is made into the octets again if
they are clean, or it finds none, and then they are not. -/
lemma decode_octets (s : FixedService) {hdr : KlvancPacketHeader} {bytes : List Byte}
    (hcarry : hdr.payloadByte = fun i => bytes.getD i 0)
    (hlen : hdr.payloadLengthWords = bytes.length) :
    (∃ q, s.decode hdr = .ok q ∧ (q.did, q.sdid) = s.ids ∧ (q.octets = bytes ↔ s.Clean bytes)) ∨
      ∃ ret, s.decode hdr = .error ret ∧ ¬s.Clean bytes := by
  cases s with
  | afd =>
    obtain ⟨pkt, hparse, hoctets⟩ := @parseAFD_octets_eq hdr
    refine Or.inl ⟨.afd pkt, congrArg (Except.map FixedPacket.afd) hparse, rfl, ?_⟩
    rw [octets, hoctets, hcarry, Clean]
    exact eq_comm
  | eia608 =>
    obtain ⟨pkt, hparse, hoctets⟩ := @parseEIA608_octets_eq hdr
    refine Or.inl ⟨.eia608 pkt, congrArg (Except.map FixedPacket.eia608) hparse, rfl, ?_⟩
    rw [octets, hoctets, hcarry, Clean]
    exact eq_comm
  | klU64leCounter =>
    obtain ⟨pkt, hparse, hoctets⟩ := @parseKLU64LECounter_octets_eq hdr
    refine Or.inl ⟨.klU64leCounter pkt, congrArg (Except.map FixedPacket.klU64leCounter) hparse,
      rfl, ?_⟩
    rw [octets, hoctets, hcarry, Clean]
    exact map_getD_eq_iff
  | smpte12_2 =>
    by_cases h : bytes.length = 16
    · obtain ⟨pkt, hparse, hoctets⟩ := parseSMPTE12_2_octets_eq_iff (hlen.trans h)
      rw [hcarry, map_getD_eq_iff.mpr h] at hoctets
      refine Or.inl ⟨.smpte12_2 pkt, congrArg (Except.map FixedPacket.smpte12_2) hparse, rfl, ?_⟩
      rw [octets, hoctets, Clean]
      exact (and_iff_right h).symm
    · refine Or.inr ⟨-einval, ?_, fun hclean => h hclean.1⟩
      rw [decode, parseSMPTE12_2, if_pos (by rw [hlen]; exact h)]
      rfl

end FixedService

/-- The octets of a packet are found in its words. -/
lemma SdiPacket.bytes_eq_of_words {p q : SdiPacket} (h : p.words = q.words) :
    p.bytes = q.bytes := by
  have hbytes : ∀ p : SdiPacket, p.bytes = ((p.words.drop 6).dropLast).map lowByte := by
    intro p
    rw [words_drop_six, List.dropLast_concat, List.map_map]
    exact ((List.map_congr_left fun b _ => (addParity_octet b).2.2).trans (List.map_id _)).symm
  rw [hbytes, hbytes, h]

/-- The words made of a packet with the identifiers of another one are those of the other one if and
only if the octets are. -/
lemma FixedPacket.toWords_eq_words_iff {q : FixedPacket} {p : SdiPacket}
    (hids : (q.did, q.sdid) = (p.did, p.sdid)) :
    q.toWords = pure (0, some p.words) ↔ q.octets = p.bytes := by
  obtain ⟨hdid, hsdid⟩ := Prod.ext_iff.mp hids
  constructor
  · intro h
    by_cases hser : q.Serialised
    · rw [toWords_eq_words hser] at h
      have hval := congrArg Checked.val h
      exact SdiPacket.bytes_eq_of_words (Option.some.inj (Prod.ext_iff.mp hval).2)
    · rw [toWords_eq, octets_eq_nil_of_not_serialised hser] at h
      have hval := (Prod.ext_iff.mp (congrArg Checked.val h)).2
      have hnone : klvancSdiCreatePayload q.sdid q.did [] 10 = none :=
        if_pos (Or.inr (Or.inr (Or.inr rfl)))
      exact absurd (hnone.symm.trans hval) (Option.some_ne_none _).symm
  · intro h
    rw [toWords_eq, h, show q.did = p.did from hdid, show q.sdid = p.sdid from hsdid, p.create_eq]

namespace FixedService

/-- The decoder of the type of a service hands over what it finds. -/
lemma parseByType_fixedPackets (s : FixedService) {hdr : KlvancPacketHeader}
    (htype : hdr.type = s.type)
    {run : KlvancRun} (hreg : run.ctx.registered s.callback = true) :
    (parseByType run hdr).2.fixedPackets =
      run.fixedPackets ++ match s.decode hdr with | .ok q => [q] | .error _ => [] := by
  have hcall : ∀ (cb : KlvancCallbacks → Bool) {α : Type} (decode : KlvancPacketHeader → Except ℤ α)
      (mkCall : KlvancPacketHeader → α → KlvancCall) (mk : α → FixedPacket),
      run.ctx.registered cb = true →
      (∀ pkt, (run.call (mkCall hdr pkt)).fixedPackets = run.fixedPackets ++ [mk pkt]) →
      (runDecoder run hdr cb (fun hdr => pure (decode hdr)) mkCall).2.fixedPackets =
        run.fixedPackets ++
        match (decode hdr).map mk with | .ok q => [q] | .error _ => [] := by
    intro cb α decode mkCall mk hreg hpkt
    rw [runDecoder, if_pos hreg]
    dsimp only [Checked.pure_val, Checked.pure_faults]
    rw [KlvancRun.addFaults_nil]
    cases decode hdr with
    | ok pkt => exact hpkt pkt
    | error ret => exact (List.append_nil _).symm
  have happend : ∀ call, (run.call call).fixedPackets = run.fixedPackets ++ KlvancRun.fixedPackets
      { KlvancRun.start run.ctx with calls := [call] } := by
    intro call
    rw [KlvancRun.fixedPackets, KlvancRun.call_calls, List.filterMap_append, KlvancRun.fixedPackets,
      KlvancRun.fixedPackets]
  rw [parseByType, htype]
  cases s with
  | afd => exact hcall _ _ _ _ hreg fun _ => happend _
  | eia608 => exact hcall _ _ _ _ hreg fun _ => happend _
  | klU64leCounter => exact hcall _ _ _ _ hreg fun _ => happend _
  | smpte12_2 => exact hcall _ _ _ _ hreg fun _ => happend _

/-- The identifiers of a service are those of its type. -/
lemma type_of_ids (s : FixedService) {did sdid : Byte} (hids : (did, sdid) = s.ids) :
    lookupTypeByDID (did.setWidth 16) (sdid.setWidth 16) = s.type := by
  obtain ⟨rfl, rfl⟩ := Prod.ext_iff.mp hids
  cases s <;> rfl

/-- The words of a packet with the identifiers of a service are taken apart with at most one call of
its callback. The words made of what is handed over are those of the packet if and only if the
payload is clean. -/
theorem reencoded_iff (s : FixedService) {p : SdiPacket} (hids : (p.did, p.sdid) = s.ids)
    (lineNr : ℕ)
    {run : KlvancRun} (hreg : run.ctx.registered s.callback = true) :
    ∃ found, (klvancPacketParse lineNr p.words p.words.length run).2.fixedPackets =
        run.fixedPackets ++ found ∧ found.length ≤ 1 ∧
      ((∃ q ∈ found, q.toWords = pure (0, some p.words)) ↔ s.Clean p.bytes) := by
  have hcarry : (p.header lineNr p.words 0).payloadByte = fun i => p.bytes.getD i 0 :=
    funext (p.header_payloadByte lineNr p.words 0)
  have hlen : (p.header lineNr p.words 0).payloadLengthWords = p.bytes.length := List.length_map _
  have htype : (p.header lineNr p.words 0).type = s.type := s.type_of_ids hids
  have hreports : run.ctx.reports (p.header lineNr p.words 0) = true := Bool.true_or _
  obtain ⟨run', hprocess, hcallbacks, -, hcalls⟩ := processPacket_reported _ _ hreports
  have hreg' : run'.ctx.registered s.callback = true := by
    rw [KlvancContext.registered, hcallbacks]
    exact hreg
  have hbefore : run'.fixedPackets = run.fixedPackets := by
    rcases hcalls with hsame | hall
    · rw [KlvancRun.fixedPackets, hsame, KlvancRun.fixedPackets]
    · rw [KlvancRun.fixedPackets, hall, List.filterMap_append, KlvancRun.fixedPackets]
      exact List.append_nil _
  rw [klvancPacketParse_words, hprocess, s.parseByType_fixedPackets htype hreg', hbefore]
  refine ⟨_, rfl, ?_⟩
  rcases s.decode_octets hcarry hlen with ⟨q, hdecode, hq, hclean⟩ | ⟨ret, hdecode, hclean⟩
  · rw [hdecode]
    refine ⟨le_rfl, ?_⟩
    have hwords := FixedPacket.toWords_eq_words_iff (hq.trans hids.symm)
    rw [← hclean, ← hwords]
    constructor
    · rintro ⟨q', hmem, hto⟩
      rwa [List.mem_singleton.mp hmem] at hto
    · intro hto
      exact ⟨q, List.mem_singleton_self q, hto⟩
  · rw [hdecode]
    refine ⟨Nat.zero_le 1, iff_of_false ?_ hclean⟩
    rintro ⟨q, hq, -⟩
    exact List.not_mem_nil hq

/-- Captions in which the two reserved bits are set. -/
def reservedCaptions : SdiPacket := .ofBytes 0x61 0x02 [0xea, 0x94, 0x2c] rfl

/-- They are not made again of what is decoded. -/
theorem reencoded_iff_reservedCaptions : ∃ found,
    (klvancPacketParse 9 reservedCaptions.words reservedCaptions.words.length
      (KlvancRun.start fixedContext)).2.fixedPackets = found ∧
    ¬∃ q ∈ found, q.toWords = pure (0, some reservedCaptions.words) := by
  have hreg : (KlvancRun.start fixedContext).ctx.registered eia608.callback = true := rfl
  obtain ⟨found, hfound, -, hiff⟩ := @reencoded_iff eia608 reservedCaptions rfl 9 _ hreg
  refine ⟨found, hfound, hiff.not.mpr ?_⟩
  rw [Clean]
  decide

end FixedService

end Libklvanc
