import Libklvanc.Core.PacketRoundTrip
import Libklvanc.Services.FixedEncode

/-!
# The services of fixed layout survive encoding and parsing

What the decoders of `Fixed` find in the octets that the encoders of `FixedEncode` put out. All
fields of active format description, of EIA-608 captions and of the counter come back. A time code
comes back but for two pairs of flags, which its encoder writes in the order opposite to that of the
parser (`FixedPacket.survives_iff`).
-/

namespace Libklvanc

namespace KlvancRun

/-- The calls of the services' callbacks, in order. -/
def serviceCalls (run : KlvancRun) : List KlvancCall :=
  run.calls.filter fun
    | .all _ => false
    | _ => true

end KlvancRun

namespace FixedPacket

/-! ### What should come back -/

/-- The fields of a packet lie in the ranges that the encoder can put out. -/
def InRange : FixedPacket → Prop
  | .afd pkt => pkt.aspectRatio ≠ .undefined ∧ pkt.afd < 16 ∧ pkt.barDataFlags < 16
  | .eia608 pkt => (pkt.field = 0 ∨ pkt.field = 1) ∧ pkt.lineOffset < 32
  | .klU64leCounter _ => True
  | .smpte12_2 pkt => pkt.HasTimeCode ∧ pkt.frames < 40 ∧ pkt.seconds < 80 ∧ pkt.minutes < 80 ∧
      pkt.hours < 40 ∧ pkt.vitcLineSelect < 32 ∧
      ∀ flag ∈ [pkt.lineDuplicationFlag, pkt.tcValidityFlag, pkt.userBitsProcessFlag, pkt.flag14,
        pkt.flag15, pkt.flag35, pkt.flag55, pkt.flag74, pkt.flag75], flag = 0 ∨ flag = 1

/-- The callback of the service. -/
def callback : FixedPacket → KlvancCallbacks → Bool
  | .afd _ => (·.afd)
  | .eia608 _ => (·.eia608)
  | .klU64leCounter _ => (·.klI64leCounter)
  | .smpte12_2 _ => (·.smpte12_2)

/-- The call hands over the fields of the packet: the bars are those selected by the flags, and DBB2
is made of the line and its three flags. -/
def Delivers : FixedPacket → KlvancCall → Prop
  | .afd pkt, .afd _ q => q.aspectRatio = pkt.aspectRatio ∧ q.afd = pkt.afd ∧
      q.barDataFlags = pkt.barDataFlags ∧
      (pkt.barDataFlags = barsTopBottom → q.top = pkt.top ∧ q.bottom = pkt.bottom) ∧
      (pkt.barDataFlags = barsLeftRight → q.left = pkt.left ∧ q.right = pkt.right)
  | .eia608 pkt, .eia608 _ q => q.field = pkt.field ∧ q.lineOffset = pkt.lineOffset ∧
      q.ccData1 = pkt.ccData1 ∧ q.ccData2 = pkt.ccData2
  | .klU64leCounter pkt, .klI64leCounter _ q => q.counter = pkt.counter
  | .smpte12_2 pkt, .smpte12_2 _ q => q = { pkt with dbb2 := pkt.composedDbb2 }
  | _, _ => False

/-- The words of the packet are taken apart with one call of the callback of its service, which
hands over its fields. -/
def Survives (p : FixedPacket) : Prop :=
  ∃ words, p.toWords = pure (0, some words) ∧
    ∀ (lineNr : ℕ) (run : KlvancRun), run.ctx.registered p.callback = true →
      ∃ call, p.Delivers call ∧
        (klvancPacketParse lineNr words words.length run).2.serviceCalls =
          run.serviceCalls ++ [call]

/-- The flags that the encoder of time codes and the parser take in a different order are equal. -/
def FlagsAgree : FixedPacket → Prop
  | .smpte12_2 pkt => pkt.flag14 = pkt.flag15 ∧ pkt.flag74 = pkt.flag75
  | _ => True

/-! ### What comes back -/

/-- The ancillary data packet of a packet that is serialised. -/
def sdiPacket (p : FixedPacket) (h : p.Serialised) : SdiPacket where
  did := p.did
  sdid := p.sdid
  bytes := p.octets
  did_ne := p.did_ne
  sdid_ne := p.sdid_ne
  bytes_pos := (octets_length_of_serialised h).1
  bytes_le := (octets_length_of_serialised h).2

variable {p : FixedPacket}

lemma toWords_eq_words (h : p.Serialised) : p.toWords = pure (0, some (p.sdiPacket h).words) :=
  p.toWords_eq.trans (congrArg (fun words => pure (0, words)) (p.sdiPacket h).create_eq)

/-! ### Active format description -/

/-- The value of two octets of a packet. -/
lemma payloadBe16_eq {hdr : KlvancPacketHeader} {i : ℕ} {v : Word}
    (h₀ : hdr.payloadByte i = BitVec.ofNat 8 (v.toNat >>> (8 * 1)))
    (h₁ : hdr.payloadByte (i + 1) = BitVec.ofNat 8 (v.toNat >>> (8 * 0))) :
    hdr.payloadBe16 i = v := by
  rw [KlvancPacketHeader.payloadBe16, h₀, h₁, be16_bigEndian v.isLt, BitVec.ofNat_toNat,
    BitVec.setWidth_eq]

/-- The octets of the bars, and the words that the parser makes of them. -/
lemma payloadBe16_bars {pkt : KlvancPacketAfd} {hdr : KlvancPacketHeader}
    (hcarry : ∀ i, hdr.payloadByte i = pkt.octets.getD i 0) {v w : Word}
    (hbars : pkt.barOctets = Bits.bigEndian 2 v.toNat ++ Bits.bigEndian 2 w.toNat) :
    hdr.payloadBe16 4 = v ∧ hdr.payloadBe16 6 = w := by
  rw [KlvancPacketAfd.octets, hbars] at hcarry
  exact ⟨payloadBe16_eq (hcarry 4) (hcarry 5), payloadBe16_eq (hcarry 6) (hcarry 7)⟩

/-- The parser finds the fields of active format description in its octets. -/
lemma parseAFD_octets {pkt : KlvancPacketAfd} (h : InRange (.afd pkt)) {hdr : KlvancPacketHeader}
    (hcarry : ∀ i, hdr.payloadByte i = pkt.octets.getD i 0) :
    ∃ q, parseAFD hdr = .ok q ∧ Delivers (.afd pkt) (.afd hdr q) := by
  obtain ⟨haspect, hafd, hflags⟩ := h
  have hfirst : ∀ (a : BitVec 4) (wide : Bool),
      let b : Byte := (a.setWidth 32 <<< 3).setWidth 8 ||| (if wide then 0x04 else 0)
      (b >>> 3 &&& 0x0f).setWidth 32 = a.setWidth 32 ∧ (b &&& 0x04 ≠ 0 ↔ wide = true) := by
    decide
  have hfourth : ∀ f : BitVec 4,
      ((f.setWidth 32 <<< 4).setWidth 8 >>> 4 : Byte).setWidth 32 = f.setWidth 32 := by
    decide
  obtain ⟨a, ha⟩ := @exists_setWidth 32 4 pkt.afd (by norm_num) hafd
  obtain ⟨f, hf⟩ := @exists_setWidth 32 4 pkt.barDataFlags (by norm_num) hflags
  have h₀ : hdr.payloadByte 0 = (pkt.afd <<< 3).setWidth 8 |||
    (if pkt.aspectRatio = .aspect16x9 then 0x04 else 0) := hcarry 0
  have h₃ : hdr.payloadByte 3 = (pkt.barDataFlags <<< 4).setWidth 8 := hcarry 3
  obtain ⟨hvalue, hwide⟩ := hfirst a (pkt.aspectRatio = .aspect16x9)
  simp only [decide_eq_true_eq] at hvalue hwide
  rw [← ha, ← h₀] at hvalue hwide
  have hbarFlags : (hdr.payloadByte 3 >>> 4).setWidth 32 = pkt.barDataFlags := by
    rw [h₃, hf, hfourth]
  have hratio : (if hdr.payloadByte 0 &&& 0x04 ≠ 0 then AspectRatio.aspect16x9 else .aspect4x3) =
      pkt.aspectRatio := by
    cases hr : pkt.aspectRatio with
    | undefined => exact absurd hr haspect
    | aspect4x3 => rw [if_neg (by rw [hwide, hr]; decide)]
    | aspect16x9 => rw [if_pos (hwide.mpr hr)]
  unfold parseAFD
  dsimp only
  rw [hbarFlags, hvalue, hratio]
  split_ifs with htop hleft
  · obtain ⟨h₄, h₆⟩ := payloadBe16_bars hcarry (if_pos htop)
    have hne : pkt.barDataFlags ≠ barsLeftRight := by
      rw [htop]
      decide
    exact ⟨_, rfl, rfl, rfl, rfl, fun _ => ⟨h₄, h₆⟩, fun hleft => absurd hleft hne⟩
  · obtain ⟨h₄, h₆⟩ := payloadBe16_bars hcarry ((if_neg htop).trans (if_pos hleft))
    exact ⟨_, rfl, rfl, rfl, rfl, fun h => absurd h htop, fun _ => ⟨h₄, h₆⟩⟩
  · exact ⟨_, rfl, rfl, rfl, rfl, fun h => absurd h htop, fun h => absurd h hleft⟩

/-! ### EIA-608 captions and the counter -/

/-- The parser finds the fields of EIA-608 captions in their octets. -/
lemma parseEIA608_octets {pkt : KlvancPacketEia608} (h : InRange (.eia608 pkt))
    {hdr : KlvancPacketHeader} (hcarry : ∀ i, hdr.payloadByte i = pkt.octets.getD i 0) :
    ∃ q, parseEIA608 hdr = .ok q ∧ Delivers (.eia608 pkt) (.eia608 hdr q) := by
  obtain ⟨hfield, hoffset⟩ := h
  have hfirst : ∀ (l : BitVec 5) (first : Bool),
      let b : Byte := (if first then 0x80 else 0) ||| ((l.setWidth 32).setWidth 5).setWidth 8
      (b &&& 0x1f).setWidth 32 = l.setWidth 32 ∧ (b &&& 0x80 ≠ 0 ↔ first = true) := by
    decide
  obtain ⟨l, hl⟩ := @exists_setWidth 32 5 pkt.lineOffset (by norm_num) hoffset
  have h₀ : hdr.payloadByte 0 = (if pkt.field = 0 then 0x80 else 0) |||
    (pkt.lineOffset.setWidth 5).setWidth 8 := hcarry 0
  obtain ⟨hline, hset⟩ := hfirst l (pkt.field = 0)
  simp only [decide_eq_true_eq] at hline hset
  rw [← hl, ← h₀] at hline hset
  refine ⟨_, rfl, ?_, hline, hcarry 1, hcarry 2⟩
  rcases hfield with h | h
  · exact (if_pos (hset.mpr h)).trans h.symm
  · refine (if_neg ?_).trans h.symm
    rw [hset, h]
    decide

/-- An octet completes what is above it. -/
lemma shiftLeft_or_octet (c : BitVec 64) (s : ℕ) :
    (c >>> (s + 8)) <<< (s + 8) ||| ((c >>> s).setWidth 8).setWidth 64 <<< s = (c >>> s) <<< s := by
  ext j hj
  simp only [BitVec.getElem_or, BitVec.getElem_shiftLeft, BitVec.getElem_setWidth,
    BitVec.getLsbD_setWidth, BitVec.getLsbD_ushiftRight, BitVec.getElem_ushiftRight]
  rcases lt_or_ge j s with hlt | hge
  · simp [hlt, hlt.trans (Nat.lt_add_of_pos_right (by norm_num : 0 < 8))]
  · rcases lt_or_ge j (s + 8) with hlt' | hge'
    · simp [hge, hlt', hge.not_gt]
      omega
    · simp [hge, hge', hge.not_gt, hge'.not_gt]

/-- The first octets of a counter make up its upper part. -/
lemma foldl_octets {c : BitVec 64} {b : ℕ → Byte}
    (h : ∀ i < 8, b i = (c >>> (56 - 8 * i)).setWidth 8) {k : ℕ} (hk : k ≤ 8) :
    (List.range k).foldl (fun counter i => counter ||| (b i).setWidth 64 <<< (56 - 8 * i)) 0 =
      (c >>> (64 - 8 * k)) <<< (64 - 8 * k) := by
  induction k with
  | zero =>
    apply BitVec.eq_of_toNat_eq
    simp
  | succ k ih =>
    have hstep := shiftLeft_or_octet c (56 - 8 * k)
    rw [show 56 - 8 * k + 8 = 64 - 8 * k by omega, ← ih (by omega), ← h k (by omega)] at hstep
    rw [List.range_succ, List.foldl_append, List.foldl_cons, List.foldl_nil, hstep,
      show 64 - 8 * (k + 1) = 56 - 8 * k by omega]

/-- The parser finds the counter in its octets. -/
lemma parseKLU64LECounter_octets {pkt : KlvancPacketKlU64leCounter} {hdr : KlvancPacketHeader}
    (hcarry : ∀ i, hdr.payloadByte i = pkt.octets.getD i 0) :
    parseKLU64LECounter hdr = .ok pkt := by
  have hoctet : ∀ i < 8, hdr.payloadByte i = (pkt.counter >>> (56 - 8 * i)).setWidth 8 := by
    intro i hi
    rw [hcarry, KlvancPacketKlU64leCounter.octets, List.getD_eq_getElem _ _ (by simpa using hi),
      List.getElem_map, List.getElem_range]
  rw [parseKLU64LECounter, foldl_octets hoctet le_rfl]
  simp

/-! ### Ancillary time code -/

/-- An octet that carries bit `i` of `dbb`. -/
def withDbb (o dbb : Byte) (i : ℕ) : Byte := o ||| (dbb >>> i &&& 0x01) <<< 3

/-- The bit that is carried stands in the lower half of the octet. -/
lemma withDbb_cases (o dbb : Byte) (i : ℕ) :
    dbb >>> i &&& 0x01 = 0 ∧ withDbb o dbb i = o ∨
      dbb >>> i &&& 0x01 = 1 ∧ withDbb o dbb i = o ||| 0x08 := by
  have hbit := byte_and_one_eq (dbb >>> i)
  rw [withDbb]
  split_ifs at hbit
  · right
    rw [hbit]
    exact ⟨rfl, rfl⟩
  · left
    rw [hbit]
    exact ⟨rfl, BitVec.or_zero⟩

/-- The upper half of an octet does not change. -/
lemma withDbb_shiftRight (o dbb : Byte) (i : ℕ) : withDbb o dbb i >>> 4 = o >>> 4 := by
  have hlower : (0x08 : Byte) >>> 4 = 0 := rfl
  rcases withDbb_cases o dbb i with ⟨-, h⟩ | ⟨-, h⟩
  · rw [h]
  · rw [h, BitVec.ushiftRight_or_distrib, hlower]
    exact BitVec.or_zero

/-- The bits of the upper half of an octet do not change. -/
lemma ifSet_withDbb (o dbb : Byte) (i : ℕ) {mask value : Byte} (hmask : 0x08 &&& mask = 0) :
    ifSet (withDbb o dbb i) mask value = ifSet o mask value := by
  rcases withDbb_cases o dbb i with ⟨-, h⟩ | ⟨-, h⟩
  · rw [h]
  · have hzero : o &&& mask ||| 0 = o &&& mask := BitVec.or_zero
    rw [h, ifSet, BitVec.and_or_distrib_right, hmask, hzero, ifSet]

/-- The bit that is carried is found. -/
lemma withDbb_bit {o : Byte} (ho : o >>> 3 &&& 0x01 = 0) (dbb : Byte) (i : ℕ) :
    withDbb o dbb i >>> 3 &&& 0x01 = dbb >>> i &&& 0x01 := by
  rcases withDbb_cases o dbb i with ⟨hbit, h⟩ | ⟨hbit, h⟩
  · rw [h, hbit, ho]
  · rw [h, hbit, BitVec.ushiftRight_or_distrib, BitVec.and_or_distrib_right, ho]
    rfl

/-- A cell of a list in which one is modified. -/
lemma getD_modify {l : List Byte} {f : Byte → Byte} {i j : ℕ} (hj : j < l.length) :
    (l.modify i f).getD j 0 = if i = j then f (l.getD j 0) else l.getD j 0 := by
  rw [List.getD, List.getElem?_modify, List.getElem?_eq_getElem hj,
    List.getD_eq_getElem _ _ hj]
  rfl

/-- The cells of a buffer over which an octet has been distributed. -/
lemma storeDbb_getD (dbb : Byte) (start : ℕ) {buf : List Byte} {j : ℕ} (hj : j < buf.length) :
    (storeDbb dbb start buf).getD j 0 =
      if start ≤ j ∧ j < start + 8 then withDbb (buf.getD j 0) dbb (j - start)
      else buf.getD j 0 := by
  have hstored : ∀ k,
      let stored := (List.range k).foldl (fun buf i =>
        buf.modify (i + start) (· ||| (dbb >>> i &&& 0x01) <<< 3)) buf
      stored.length = buf.length ∧ stored.getD j 0 =
        if start ≤ j ∧ j < start + k then withDbb (buf.getD j 0) dbb (j - start)
        else buf.getD j 0 := by
    intro k
    induction k with
    | zero => exact ⟨rfl, (if_neg (by omega)).symm⟩
    | succ k ih =>
      obtain ⟨hlen, hcell⟩ := ih
      rw [List.range_succ, List.foldl_append, List.foldl_cons, List.foldl_nil]
      refine ⟨(List.length_modify _ _ _).trans hlen, ?_⟩
      rw [getD_modify (hlen.symm ▸ hj), hcell]
      by_cases hk : k + start = j
      · subst hk
        rw [if_pos rfl, if_neg (by omega), if_pos (by omega), Nat.add_sub_cancel]
        rfl
      · rw [if_neg hk]
        congr 1
        simp only [eq_iff_iff]
        omega
  exact (hstored 8).2

/-- The bits that are distributed over eight octets are collected again. -/
lemma parseDbb_eq {hdr : KlvancPacketHeader} {start : ℕ} {dbb : Byte} {o : ℕ → Byte}
    (ho : ∀ i < 8, o i >>> 3 &&& 0x01 = 0)
    (hcarry : ∀ i < 8, hdr.payloadByte (i + start) = withDbb (o i) dbb i) :
    parseDbb hdr start = dbb := by
  have hcollect : ∀ dbb : Byte,
      (List.range 8).foldl (fun (acc : Byte) (i : ℕ) => acc ||| (dbb >>> i &&& 0x01) <<< i) 0 =
        dbb := by
    decide +kernel
  have hread : ∀ (acc : Byte), ∀ i ∈ List.range 8,
      acc ||| (hdr.payloadByte (i + start) >>> 3 &&& 0x01) <<< i =
        acc ||| (dbb >>> i &&& 0x01) <<< i := by
    intro acc i hi
    rw [List.mem_range] at hi
    rw [hcarry i hi, withDbb_bit (ho i hi)]
  exact (List.foldl_ext _ _ _ hread).trans (hcollect dbb)

/-- A flag that is zero or one is its lowest bit. -/
lemma flag_eq {flag : Byte} (h : flag = 0 ∨ flag = 1) :
    (if flag.getLsbD 0 then 1 else 0) = flag := by
  rcases h with rfl | rfl
  · rfl
  · rfl

/-- The units of a time value leave bit 3 free. -/
lemma timeUnitsOctet_bit (value : Byte) : timeUnitsOctet value >>> 3 &&& 0x01 = 0 := by
  have hbit : (timeUnitsOctet value >>> 3).getLsbD 0 = false := by
    rw [BitVec.getLsbD_ushiftRight, timeUnitsOctet, BitVec.getLsbD_shiftLeft]
    rfl
  rw [byte_and_one_eq, hbit]
  rfl

/-- The tens of a time value leave bit 3 free. -/
lemma timeTensOctet_bit (b₇ b₆ : Bool) (value : Byte) :
    timeTensOctet b₇ b₆ value >>> 3 &&& 0x01 = 0 := by
  rw [timeTensOctet_eq]
  generalize (value / 20).getLsbD 0 = b₅
  generalize (value / 10).getLsbD 0 = b₄
  revert b₇ b₆ b₅ b₄
  decide

/-- The octets of a time code leave bit 3 free. -/
lemma timeCodeOctets_bit (pkt : KlvancPacketSmpte12_2) (i : ℕ) :
    pkt.timeCodeOctets.getD i 0 >>> 3 &&& 0x01 = 0 := by
  have hall : ∀ o ∈ pkt.timeCodeOctets, o >>> 3 &&& 0x01 = 0 := by
    simp only [KlvancPacketSmpte12_2.timeCodeOctets, List.forall_mem_cons, timeUnitsOctet_bit,
      timeTensOctet_bit]
    decide
  rcases lt_or_ge i pkt.timeCodeOctets.length with hlt | hge
  · rw [List.getD_eq_getElem _ _ hlt]
    exact hall _ (List.getElem_mem hlt)
  · rw [List.getD_eq_default _ _ hge]
    rfl

/-- The flags in front of the tens of a time value. -/
lemma ifSet_timeTensOctet (value : Byte) (b₇ b₆ : Bool) :
    ifSet (timeTensOctet b₇ b₆ value) 0x80 1 = (if b₇ then 1 else 0) ∧
      ifSet (timeTensOctet b₇ b₆ value) 0x40 1 = (if b₆ then 1 else 0) := by
  rw [timeTensOctet_eq]
  generalize (value / 20).getLsbD 0 = b₅
  generalize (value / 10).getLsbD 0 = b₄
  revert b₇ b₆ b₅ b₄
  decide

/-- The tens of a time value. -/
lemma ifSet_timeTensOctet_tens (value : Byte) (b₇ b₆ : Bool) :
    ifSet (timeTensOctet b₇ b₆ value) 0x10 10 = (if (value / 10).getLsbD 0 then 10 else 0) ∧
      ifSet (timeTensOctet b₇ b₆ value) 0x20 20 = (if (value / 20).getLsbD 0 then 20 else 0) ∧
      ifSet (timeTensOctet b₇ b₆ value) 0x40 40 = (if b₆ then 40 else 0) := by
  rw [timeTensOctet_eq]
  generalize (value / 20).getLsbD 0 = b₅
  generalize (value / 10).getLsbD 0 = b₄
  revert b₇ b₆ b₅ b₄
  decide

/-- A value below 80 is made up of its units and its tens. -/
lemma time_value_eq {value : Byte} (h : value < 80) :
    (timeUnitsOctet value >>> 4 &&& 0x0f) + (if (value / 10).getLsbD 0 then 10 else 0) +
      (if (value / 20).getLsbD 0 then 20 else 0) + (if (value / 40).getLsbD 0 then 40 else 0) =
      value := by
  revert value
  decide +kernel

/-- A value below 40 comes back from its units and its tens. -/
lemma time_value_lt_40 {value : Byte} (h : value < 40) (b₇ b₆ : Bool) :
    (timeUnitsOctet value >>> 4 &&& 0x0f) + ifSet (timeTensOctet b₇ b₆ value) 0x10 10 +
      ifSet (timeTensOctet b₇ b₆ value) 0x20 20 = value := by
  obtain ⟨h₁₀, h₂₀, -⟩ := ifSet_timeTensOctet_tens value b₇ b₆
  have hzero : value / 40 = 0 := by
    apply BitVec.eq_of_toNat_eq
    rw [BitVec.toNat_udiv]
    exact Nat.div_eq_of_lt h
  have hvalue := time_value_eq (BitVec.lt_trans h (by decide))
  rw [hzero] at hvalue
  rw [h₁₀, h₂₀]
  exact (BitVec.add_zero _).symm.trans hvalue

/-- A value below 80 comes back from its units and its tens. -/
lemma time_value_lt_80 {value : Byte} (h : value < 80) (b₇ : Bool) :
    (timeUnitsOctet value >>> 4 &&& 0x0f) +
      ifSet (timeTensOctet b₇ ((value / 40).getLsbD 0) value) 0x10 10 +
      ifSet (timeTensOctet b₇ ((value / 40).getLsbD 0) value) 0x20 20 +
      ifSet (timeTensOctet b₇ ((value / 40).getLsbD 0) value) 0x40 40 = value := by
  obtain ⟨h₁₀, h₂₀, h₄₀⟩ := ifSet_timeTensOctet_tens value b₇ ((value / 40).getLsbD 0)
  rw [h₁₀, h₂₀, h₄₀]
  exact time_value_eq h

/-- The line and the flags come back from DBB2. -/
lemma composedDbb2_fields {pkt : KlvancPacketSmpte12_2} (hline : pkt.vitcLineSelect < 32)
    (hdup : pkt.lineDuplicationFlag = 0 ∨ pkt.lineDuplicationFlag = 1)
    (hvalid : pkt.tcValidityFlag = 0 ∨ pkt.tcValidityFlag = 1)
    (huser : pkt.userBitsProcessFlag = 0 ∨ pkt.userBitsProcessFlag = 1) :
    pkt.composedDbb2 &&& 0x1f = pkt.vitcLineSelect ∧
      ifSet pkt.composedDbb2 0x20 1 = pkt.lineDuplicationFlag ∧
      ifSet pkt.composedDbb2 0x40 1 = pkt.tcValidityFlag ∧
      ifSet pkt.composedDbb2 0x80 1 = pkt.userBitsProcessFlag := by
  have hfields : ∀ (line : BitVec 5) (f₅ f₆ f₇ : Bool),
      let dbb2 : Byte := line.setWidth 8 ||| (if f₅ then 0x20 else 0) |||
        (if f₆ then 0x40 else 0) ||| (if f₇ then 0x80 else 0)
      dbb2 &&& 0x1f = line.setWidth 8 ∧ ifSet dbb2 0x20 1 = (if f₅ then 1 else 0) ∧
        ifSet dbb2 0x40 1 = (if f₆ then 1 else 0) ∧ ifSet dbb2 0x80 1 = (if f₇ then 1 else 0) := by
    decide
  have hflag : ∀ flag : Byte, flag = 0 ∨ flag = 1 → (if flag ≠ 0 then 1 else 0) = flag := by
    rintro flag (rfl | rfl)
    · rfl
    · rfl
  obtain ⟨line, heq⟩ := @exists_setWidth 8 5 pkt.vitcLineSelect (by norm_num) hline
  have h := hfields line (pkt.lineDuplicationFlag ≠ 0) (pkt.tcValidityFlag ≠ 0)
    (pkt.userBitsProcessFlag ≠ 0)
  simp only [decide_eq_true_eq, ← heq] at h
  rwa [hflag _ hdup, hflag _ hvalid, hflag _ huser] at h

/-- The time code that comes back: the flags of two pairs are exchanged. -/
def decodedTimeCode (pkt : KlvancPacketSmpte12_2) : KlvancPacketSmpte12_2 :=
  { pkt with
    dbb2 := pkt.composedDbb2
    flag14 := pkt.flag15
    flag15 := pkt.flag14
    flag74 := pkt.flag75
    flag75 := pkt.flag74 }

/-- The octets of a time code carry the bits of DBB1 and DBB2. -/
lemma octets_getD {pkt : KlvancPacketSmpte12_2} (h : pkt.HasTimeCode) {i : ℕ} (hi : i < 8) :
    pkt.octets.getD i 0 = withDbb (pkt.timeCodeOctets.getD i 0) pkt.dbb1 i ∧
      pkt.octets.getD (i + 8) 0 =
        withDbb (pkt.timeCodeOctets.getD (i + 8) 0) pkt.composedDbb2 i := by
  have hlen : pkt.timeCodeOctets.length = 16 := rfl
  rw [KlvancPacketSmpte12_2.octets, if_pos h]
  constructor
  · rw [storeDbb_getD _ _ (by rw [storeDbb_length]; omega), if_neg (by omega),
      storeDbb_getD _ _ (by omega), if_pos (by omega), Nat.sub_zero]
  · rw [storeDbb_getD _ _ (by rw [storeDbb_length]; omega), if_pos (by omega),
      storeDbb_getD _ _ (by omega), if_neg (by omega), Nat.add_sub_cancel]

/-- What the parser finds in the octets of a time code. -/
lemma parseSMPTE12_2_octets {pkt : KlvancPacketSmpte12_2} (h : InRange (.smpte12_2 pkt))
    {hdr : KlvancPacketHeader} (hlen : hdr.payloadLengthWords = 16)
    (hcarry : ∀ i, hdr.payloadByte i = pkt.octets.getD i 0) :
    parseSMPTE12_2 hdr = .ok (decodedTimeCode pkt) := by
  obtain ⟨htc, hframes, hseconds, hminutes, hhours, hline, hflags⟩ := h
  simp only [List.forall_mem_cons, List.not_mem_nil, false_imp_iff, implies_true,
    and_true] at hflags
  obtain ⟨hdup, hvalid, huser, h14, h15, h35, h55, h74, h75⟩ := hflags
  have hlower : ∀ i < 8, hdr.payloadByte i = withDbb (pkt.timeCodeOctets.getD i 0) pkt.dbb1 i :=
    fun i hi => (hcarry i).trans (octets_getD htc hi).1
  have hupper : ∀ i < 8, hdr.payloadByte (i + 8) =
      withDbb (pkt.timeCodeOctets.getD (i + 8) 0) pkt.composedDbb2 i :=
    fun i hi => (hcarry (i + 8)).trans (octets_getD htc hi).2
  have hdbb1 : parseDbb hdr 0 = pkt.dbb1 :=
    parseDbb_eq (fun i _ => timeCodeOctets_bit pkt i) hlower
  have hdbb2 : parseDbb hdr 8 = pkt.composedDbb2 :=
    parseDbb_eq (fun i _ => timeCodeOctets_bit pkt (i + 8)) hupper
  obtain ⟨hsel, hd5, hd6, hd7⟩ := composedDbb2_fields hline hdup hvalid huser
  have h₀ : hdr.payloadByte 0 = withDbb (timeUnitsOctet pkt.frames) pkt.dbb1 0 :=
    hlower 0 (by norm_num)
  have h₂ : hdr.payloadByte 2 = withDbb (timeTensOctet (pkt.flag14.getLsbD 0)
    (pkt.flag15.getLsbD 0) pkt.frames) pkt.dbb1 2 := hlower 2 (by norm_num)
  have h₄ : hdr.payloadByte 4 = withDbb (timeUnitsOctet pkt.seconds) pkt.dbb1 4 :=
    hlower 4 (by norm_num)
  have h₆ : hdr.payloadByte 6 = withDbb (timeTensOctet (pkt.flag35.getLsbD 0)
    ((pkt.seconds / 40).getLsbD 0) pkt.seconds) pkt.dbb1 6 := hlower 6 (by norm_num)
  have h₈ : hdr.payloadByte 8 = withDbb (timeUnitsOctet pkt.minutes) pkt.composedDbb2 0 :=
    hupper 0 (by norm_num)
  have h₁₀ : hdr.payloadByte 10 = withDbb (timeTensOctet (pkt.flag55.getLsbD 0)
    ((pkt.minutes / 40).getLsbD 0) pkt.minutes) pkt.composedDbb2 2 := hupper 2 (by norm_num)
  have h₁₂ : hdr.payloadByte 12 = withDbb (timeUnitsOctet pkt.hours) pkt.composedDbb2 4 :=
    hupper 4 (by norm_num)
  have h₁₄ : hdr.payloadByte 14 = withDbb (timeTensOctet (pkt.flag74.getLsbD 0)
    (pkt.flag75.getLsbD 0) pkt.hours) pkt.composedDbb2 6 := hupper 6 (by norm_num)
  have htype : pkt.dbb1 = 0x00 ∨ pkt.dbb1 = 0x01 ∨ pkt.dbb1 = 0x02 := htc
  unfold parseSMPTE12_2
  rw [if_neg (not_not.mpr hlen)]
  dsimp only
  rw [hdbb1, hdbb2, if_pos htype, hsel, hd5, hd6, hd7, h₀, h₂, h₄, h₆, h₈, h₁₀, h₁₂, h₁₄]
  simp (disch := decide) only [withDbb_shiftRight, ifSet_withDbb, (ifSet_timeTensOctet _ _ _).1,
    (ifSet_timeTensOctet _ _ _).2, time_value_lt_40 hframes, time_value_lt_40 hhours,
    time_value_lt_80 hseconds, time_value_lt_80 hminutes]
  rw [flag_eq h14, flag_eq h15, flag_eq h35, flag_eq h55, flag_eq h74, flag_eq h75]
  rfl

/-! ### The whole way -/

/-- A decoder that finds a packet hands it to its callback. -/
lemma runDecoder_ok {α : Type} {run : KlvancRun} {hdr : KlvancPacketHeader}
    {cb : KlvancCallbacks → Bool} {decode : KlvancPacketHeader → Except ℤ α}
    {mkCall : KlvancPacketHeader → α → KlvancCall} {pkt : α}
    (hreg : run.ctx.registered cb = true) (hdecode : decode hdr = .ok pkt) :
    (runDecoder run hdr cb (fun hdr => pure (decode hdr)) mkCall).2 =
      run.call (mkCall hdr pkt) := by
  rw [runDecoder, if_pos hreg]
  dsimp only [Checked.pure_val, Checked.pure_faults]
  rw [hdecode, KlvancRun.addFaults_nil]

/-- The call that is made for a packet delivers its fields, but for the flags of a time code. -/
lemma parseByType_header {p : FixedPacket} (h : p.InRange) (hser : p.Serialised) (lineNr : ℕ)
    (raw : List Word) :
    ∃ call, (∀ hdr, call ≠ .all hdr) ∧ (p.Delivers call ↔ p.FlagsAgree) ∧
      ∀ run : KlvancRun, run.ctx.registered p.callback = true →
        (parseByType run ((p.sdiPacket hser).header lineNr raw 0)).2 = run.call call := by
  have hcarry := (p.sdiPacket hser).header_payloadByte lineNr raw 0
  have hlen : ((p.sdiPacket hser).header lineNr raw 0).payloadLengthWords = p.octets.length :=
    List.length_map _
  have htype : ((p.sdiPacket hser).header lineNr raw 0).type =
    lookupTypeByDID (p.did.setWidth 16) (p.sdid.setWidth 16) := rfl
  generalize (p.sdiPacket hser).header lineNr raw 0 = hdr at hcarry hlen htype
  cases p with
  | afd pkt =>
    obtain ⟨q, hparse, hdelivers⟩ := parseAFD_octets h hcarry
    refine ⟨.afd hdr q, fun _ => KlvancCall.noConfusion, iff_of_true hdelivers trivial, ?_⟩
    intro run hreg
    have : hdr.type = .afd := htype
    rw [parseByType, this]
    exact runDecoder_ok hreg hparse
  | eia608 pkt =>
    obtain ⟨q, hparse, hdelivers⟩ := parseEIA608_octets h hcarry
    refine ⟨.eia608 hdr q, fun _ => KlvancCall.noConfusion, iff_of_true hdelivers trivial, ?_⟩
    intro run hreg
    have : hdr.type = .eia608 := htype
    rw [parseByType, this]
    exact runDecoder_ok hreg hparse
  | klU64leCounter pkt =>
    have hparse := parseKLU64LECounter_octets hcarry
    refine ⟨.klI64leCounter hdr pkt, fun _ => KlvancCall.noConfusion, iff_of_true rfl trivial, ?_⟩
    intro run hreg
    have : hdr.type = .klUint64Counter := htype
    rw [parseByType, this]
    exact runDecoder_ok hreg hparse
  | smpte12_2 pkt =>
    have hparse := parseSMPTE12_2_octets h
      (hlen.trans (KlvancPacketSmpte12_2.octets_length hser)) hcarry
    refine ⟨.smpte12_2 hdr (decodedTimeCode pkt), fun _ => KlvancCall.noConfusion, ?_, ?_⟩
    · simp only [Delivers, decodedTimeCode, FlagsAgree, KlvancPacketSmpte12_2.mk.injEq]
      tauto
    · intro run hreg
      have : hdr.type = .smpteS12_2 := htype
      rw [parseByType, this]
      exact runDecoder_ok hreg hparse

/-- A call that is not one of `all` is one of a service. -/
lemma serviceCalls_call {run : KlvancRun} {call : KlvancCall} (h : ∀ hdr, call ≠ .all hdr) :
    (run.call call).serviceCalls = run.serviceCalls ++ [call] := by
  rw [KlvancRun.serviceCalls, KlvancRun.call_calls, List.filter_append]
  cases call with
  | all hdr => exact absurd rfl (h hdr)
  | _ => rfl

/-- A packet in the ranges of its encoder is serialised. -/
lemma InRange.serialised {p : FixedPacket} (h : p.InRange) : p.Serialised := by
  cases p with
  | smpte12_2 pkt => exact h.1
  | _ => trivial

/-- The words of a packet are taken apart with one call of the callback of its service. -/
lemma klvancPacketParse_call {p : FixedPacket} (h : p.InRange) (lineNr : ℕ) :
    ∃ call, (p.Delivers call ↔ p.FlagsAgree) ∧
      ∀ run : KlvancRun, run.ctx.registered p.callback = true →
        (klvancPacketParse lineNr (p.sdiPacket h.serialised).words
          (p.sdiPacket h.serialised).words.length run).2.serviceCalls =
            run.serviceCalls ++ [call] := by
  obtain ⟨call, hservice, hdelivers, hcall⟩ :=
    parseByType_header h h.serialised lineNr (p.sdiPacket h.serialised).words
  refine ⟨call, hdelivers, fun run hreg => ?_⟩
  have hreports : run.ctx.reports ((p.sdiPacket h.serialised).header lineNr
    (p.sdiPacket h.serialised).words 0) = true := Bool.true_or _
  obtain ⟨run', hprocess, hcallbacks, -, hcalls⟩ := processPacket_reported _ _ hreports
  have hreg' : run'.ctx.registered p.callback = true := by
    rw [KlvancContext.registered, hcallbacks]
    exact hreg
  have hbefore : run'.serviceCalls = run.serviceCalls := by
    rcases hcalls with hsame | hall
    · rw [KlvancRun.serviceCalls, hsame, KlvancRun.serviceCalls]
    · rw [KlvancRun.serviceCalls, hall, List.filter_append, KlvancRun.serviceCalls]
      exact List.append_nil _
  rw [klvancPacketParse_words, hprocess, hcall run' hreg', serviceCalls_call hservice, hbefore]

/-- A context with the callbacks of the services of fixed layout. -/
def fixedContext : KlvancContext :=
  { KlvancContext.create with
    callbacks := some { afd := true, eia608 := true, klI64leCounter := true, smpte12_2 := true } }

lemma fixedContext_registered (p : FixedPacket) : fixedContext.registered p.callback = true := by
  cases p <;> rfl

/-- Only a packet whose flags agree survives. -/
lemma Survives.flagsAgree {p : FixedPacket} (hsurvives : p.Survives) (h : p.InRange) :
    p.FlagsAgree := by
  obtain ⟨words, hto, hparse⟩ := hsurvives
  have heq : words = (p.sdiPacket h.serialised).words := by
    rw [toWords_eq_words h.serialised] at hto
    have hval := congrArg Checked.val hto
    simpa using hval.symm
  subst heq
  obtain ⟨call, hdelivers, hcall⟩ := klvancPacketParse_call h 9
  have hreg : (KlvancRun.start fixedContext).ctx.registered p.callback = true :=
    fixedContext_registered p
  obtain ⟨call', hdelivers', hcall'⟩ := hparse 9 _ hreg
  rw [hcall _ hreg, List.append_cancel_left_eq, List.singleton_inj] at hcall'
  subst hcall'
  exact hdelivers.mp hdelivers'

/-- A packet in the ranges of its encoder survives encoding and parsing if and only if it is not a
time code with flags 14 and 15, or 74 and 75, that differ. -/
theorem survives_iff {p : FixedPacket} (h : p.InRange) : p.Survives ↔ p.FlagsAgree := by
  constructor
  · intro hsurvives
    exact hsurvives.flagsAgree h
  · intro hagree
    refine ⟨_, toWords_eq_words h.serialised, fun lineNr run hreg => ?_⟩
    obtain ⟨call, hdelivers, hcall⟩ := klvancPacketParse_call h lineNr
    exact ⟨call, hdelivers.mpr hagree, hcall run hreg⟩

end FixedPacket

/-- The time code 23:59:58:29 on line 9, with the flags given. -/
def lateTimeCode (flag14 flag15 : Byte) : KlvancPacketSmpte12_2 where
  dbb1 := 1
  vitcLineSelect := 9
  tcValidityFlag := 1
  frames := 29
  seconds := 58
  minutes := 59
  hours := 23
  flag14 := flag14
  flag15 := flag15

lemma lateTimeCode_inRange {flag14 flag15 : Byte} (h14 : flag14 = 0 ∨ flag14 = 1)
    (h15 : flag15 = 0 ∨ flag15 = 1) :
    FixedPacket.InRange (.smpte12_2 (lateTimeCode flag14 flag15)) := by
  simp [FixedPacket.InRange, lateTimeCode, KlvancPacketSmpte12_2.HasTimeCode]
  exact ⟨h14, h15⟩

/-- A time code without the flags survives. -/
theorem FixedPacket.survives_iff_noFlags : FixedPacket.Survives (.smpte12_2 (lateTimeCode 0 0)) :=
  (FixedPacket.survives_iff (lateTimeCode_inRange (Or.inl rfl) (Or.inl rfl))).mpr ⟨rfl, rfl⟩

/-- The drop frame flag comes back as the color frame flag. -/
theorem FixedPacket.not_survives_dropFrame : ¬∀ p : FixedPacket, p.InRange → p.Survives := by
  intro h
  have hrange : InRange (.smpte12_2 (lateTimeCode 1 0)) :=
    lateTimeCode_inRange (Or.inr rfl) (Or.inl rfl)
  obtain ⟨hflag, -⟩ := (h _ hrange).flagsAgree hrange
  exact absurd hflag (by decide)

end Libklvanc
