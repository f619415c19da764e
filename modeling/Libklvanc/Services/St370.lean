import Libklvanc.Services.FixedRoundTrip
import Libklvanc.Services.FrameRate

/-!
# Ancillary time code from an ST 370 time code

`klvanc_create_SMPTE_12_2_from_ST370` unpacks the 32 bits of a time code pack (SMPTE ST 314M-2005,
Sec 4.4.2.2.1). The frame duration says where the field bit is, and whether there is a drop frame
flag; it is recognised by its value (`isFieldRate_reduced_iff`). Whatever the 32 bits are, the
packet is one that its encoder can write, and its time comes back from the parser. The flags do not:
the drop frame flag, and the field bit at 25 and 50 frames a second, are put where the parser takes
them for another flag (`klvancCreateSMPTE12_2FromST370_survives_iff`).
-/

namespace Libklvanc

/-! ### The packet -/

/-- `bcd2uint`: two decimal digits, or 0 if one of the two is none. -/
def bcd2uint (bcd : Byte) : Byte :=
  let low := bcd &&& 0xf
  let high := bcd >>> 4
  if 9 < low ∨ 9 < high then 0 else low + 10 * high

/-- The frame durations for which the field bit is that of 25 and 50 frames a second. -/
def isFieldRate (frateNum frateDen : ℤ) : Bool :=
  decide (frateNum = 1 ∧ frateDen = 50 ∨ frateNum = 1 ∧ frateDen = 25)

/-- The packet of an ST 370 time code, once the frame duration is reduced. -/
def st370Packet (st370Tc : BitVec 32) (fieldRate : Bool) : KlvancPacketSmpte12_2 :=
  let timecode : KlvancPacketSmpte12_2 :=
    { frames := bcd2uint ((st370Tc >>> 24 &&& 0x3f).setWidth 8)
      seconds := bcd2uint ((st370Tc >>> 16 &&& 0x7f).setWidth 8)
      minutes := bcd2uint ((st370Tc >>> 8 &&& 0x7f).setWidth 8)
      hours := bcd2uint ((st370Tc &&& 0x3f).setWidth 8) }
  if fieldRate then
    if st370Tc &&& 0x00800000 ≠ 0 then { timecode with dbb1 := 0x02, flag75 := 0x01 }
    else { timecode with dbb1 := 0x01 }
  else
    let timecode : KlvancPacketSmpte12_2 :=
      if st370Tc &&& 0x00000080 ≠ 0 then { timecode with dbb1 := 0x02, flag35 := 0x01 }
      else { timecode with dbb1 := 0x01 }
    if st370Tc &&& 0x40000000 ≠ 0 then { timecode with flag14 := 0x01 } else timecode

/-- `klvanc_create_SMPTE_12_2_from_ST370`. -/
def klvancCreateSMPTE12_2FromST370 (st370Tc : BitVec 32) (frateNum frateDen : ℤ) :
    Checked Fault (ℤ × KlvancPacketSmpte12_2) := do
  let gcdVal := gcd frateNum frateDen
  let frateNum ← intDiv frateNum gcdVal
  let frateDen ← intDiv frateDen gcdVal
  pure (0, st370Packet st370Tc (isFieldRate frateNum frateDen))

/-- `struct s12_lines`. -/
structure S12Lines where
  payloadType : ℤ
  linecount : ℤ
  interlaced : ℤ
  preferredLine : ℤ

/-- The table of `klvanc_SMPTE_12_2_preferred_line`. -/
def s12Lines : List S12Lines :=
  [⟨0x01, 1080, 1, 9⟩, ⟨0x01, 1080, 0, 9⟩, ⟨0x01, 720, 0, 9⟩, ⟨0x01, 486, 1, 12⟩,
    ⟨0x01, 576, 1, 8⟩, ⟨0x02, 1080, 1, 571⟩, ⟨0x02, 1080, 0, 9⟩, ⟨0x02, 720, 0, 9⟩,
    ⟨0x02, 486, 1, 275⟩, ⟨0x02, 576, 1, 321⟩]

/-- `klvanc_SMPTE_12_2_preferred_line`; `ATC_VITC1` is compared with twice. -/
def klvancSMPTE12_2PreferredLine (dbb1 lineCount interlaced : ℤ) : ℤ :=
  match s12Lines.find? fun l =>
    dbb1 = l.payloadType ∧ lineCount = l.linecount ∧ interlaced = l.interlaced with
  | some l => l.preferredLine
  | none => if dbb1 ≠ 0x01 ∧ dbb1 ≠ 0x01 ∧ dbb1 ≠ 0x00 then 11 else -1

/-- The formats of the table. -/
def s12Formats : List (ℤ × ℤ) := [(1080, 1), (1080, 0), (720, 0), (486, 1), (576, 1)]

/-- There is no line for a linear time code, and none for the first field in an unknown format; the
second field has a line in every format. -/
theorem klvancSMPTE12_2PreferredLine_eq_neg_one_iff (dbb1 lineCount interlaced : ℤ) :
    klvancSMPTE12_2PreferredLine dbb1 lineCount interlaced = -1 ↔
      dbb1 = 0x00 ∨ dbb1 = 0x01 ∧ (lineCount, interlaced) ∉ s12Formats := by
  have hpositive : ∀ l ∈ s12Lines, l.preferredLine ≠ -1 ∧ l.payloadType ≠ 0 ∧
      (l.linecount, l.interlaced) ∈ s12Formats := by
    simp [s12Lines, s12Formats]
  have hformats : ∀ f ∈ s12Formats, ∃ l ∈ s12Lines, l.payloadType = 1 ∧ l.linecount = f.1 ∧
      l.interlaced = f.2 := by
    simp [s12Lines, s12Formats]
  rw [klvancSMPTE12_2PreferredLine]
  cases hfind : s12Lines.find? fun l =>
    decide (dbb1 = l.payloadType ∧ lineCount = l.linecount ∧ interlaced = l.interlaced) with
  | some l =>
    obtain ⟨hline, htype, hformat⟩ := hpositive l (List.mem_of_find?_eq_some hfind)
    have hkey := List.find?_some hfind
    rw [decide_eq_true_eq] at hkey
    obtain ⟨rfl, rfl, rfl⟩ := hkey
    refine iff_of_false hline ?_
    rintro (h | ⟨-, h⟩)
    · exact htype h
    · exact h hformat
  | none =>
    have hnone := List.find?_eq_none.mp hfind
    have hunknown : dbb1 = 0x01 → (lineCount, interlaced) ∉ s12Formats := by
      rintro rfl hmem
      obtain ⟨l, hl, htype, hcount, hinterlaced⟩ := hformats _ hmem
      exact hnone l hl (decide_eq_true ⟨htype.symm, hcount.symm, hinterlaced.symm⟩)
    dsimp only
    split_ifs with h
    · refine iff_of_false (by norm_num) ?_
      rintro (h' | ⟨h', -⟩)
      · exact h.2.2 h'
      · exact h.1 h'
    · refine iff_of_true rfl ?_
      by_cases hzero : dbb1 = 0x00
      · exact Or.inl hzero
      · have hone : dbb1 = 0x01 := by_contra fun hne => h ⟨hne, hne, hzero⟩
        exact Or.inr ⟨hone, hunknown hone⟩

/-! ### The frame duration -/

/-- The frame duration is a 25th or a 50th of a second. -/
def HasFieldRate (num den : ℕ) : Prop :=
  den ≠ 0 ∧ ((num : ℚ) / den = 1 / 50 ∨ (num : ℚ) / den = 1 / 25)

/-- A fraction other than 0/0 is recognised by its value. -/
lemma isFieldRate_reduced_iff {num den : ℕ} (hpos : 0 < num.gcd den) :
    isFieldRate ((num / num.gcd den : ℕ) : ℤ) ((den / num.gcd den : ℕ) : ℤ) = true ↔
      HasFieldRate num den := by
  have h : ∀ d : ℕ, 0 < d → (((num / num.gcd den : ℕ) : ℤ) = 1 ∧ ((den / num.gcd den : ℕ) : ℤ) = d ↔
      den ≠ 0 ∧ (num : ℚ) / den = 1 / d) := by
    intro d hd
    have hreduced := @reduced_eq_iff num den 1 d hpos hd (Nat.coprime_one_left d)
    rw [Nat.cast_one] at hreduced
    rw [← hreduced]
    norm_cast
  have h₅₀ := h 50 (by norm_num)
  have h₂₅ := h 25 (by norm_num)
  push_cast at h₅₀ h₂₅
  rw [isFieldRate, decide_eq_true_eq, HasFieldRate, and_or_left]
  exact or_congr h₅₀ h₂₅

/-- The packet of a time code with a frame duration other than 0/0. -/
lemma klvancCreateSMPTE12_2FromST370_eq (tc : BitVec 32) {num den : ℕ} (hpos : 0 < num.gcd den) :
    klvancCreateSMPTE12_2FromST370 tc num den =
      pure (0, st370Packet tc
        (isFieldRate ((num / num.gcd den : ℕ) : ℤ) ((den / num.gcd den : ℕ) : ℤ))) := by
  unfold klvancCreateSMPTE12_2FromST370
  simp only [gcd_natCast, intDiv_natCast _ hpos, pure_bind]

/-! ### The time -/

/-- A number below the limit of a mask. -/
lemma and_setWidth_lt (tc mask : BitVec 32) (hmask : mask.toNat < 255) :
    (tc &&& mask).setWidth 8 < BitVec.ofNat 8 (mask.toNat + 1) := by
  have hle : (tc &&& mask).toNat ≤ mask.toNat := by
    rw [BitVec.toNat_and]
    exact Nat.and_le_right
  rw [BitVec.lt_def, BitVec.toNat_setWidth, BitVec.toNat_ofNat]
  omega

/-- Two digits, the first of which has two bits. -/
lemma bcd2uint_lt_40 (tc : BitVec 32) : bcd2uint ((tc &&& 0x3f).setWidth 8) < 40 := by
  have h : ∀ b : Byte, b < 64 → bcd2uint b < 40 := by decide
  exact h _ (and_setWidth_lt tc 0x3f (by decide))

/-- Two digits, the first of which has three bits. -/
lemma bcd2uint_lt_80 (tc : BitVec 32) : bcd2uint ((tc &&& 0x7f).setWidth 8) < 80 := by
  have h : ∀ b : Byte, b < 128 → bcd2uint b < 80 := by decide
  exact h _ (and_setWidth_lt tc 0x7f (by decide))

/-- The time is that of the digits. -/
def KlvancPacketSmpte12_2.HasTimeOf (pkt : KlvancPacketSmpte12_2) (tc : BitVec 32) : Prop :=
  pkt.frames = bcd2uint ((tc >>> 24 &&& 0x3f).setWidth 8) ∧
    pkt.seconds = bcd2uint ((tc >>> 16 &&& 0x7f).setWidth 8) ∧
    pkt.minutes = bcd2uint ((tc >>> 8 &&& 0x7f).setWidth 8) ∧
    pkt.hours = bcd2uint ((tc &&& 0x3f).setWidth 8)

/-! ### What the packet has -/

section Packet

variable (tc : BitVec 32) (fieldRate : Bool)

/-- The time is that of the digits, whatever the frame duration. -/
lemma st370Packet_time : (st370Packet tc fieldRate).HasTimeOf tc := by
  rw [st370Packet]
  split_ifs <;> exact ⟨rfl, rfl, rfl, rfl⟩

/-- A bit of the time code. -/
lemma and_ne_zero_iff {mask : BitVec 32} {i : ℕ} (hmask : mask = BitVec.twoPow 32 i)
    (hne : mask ≠ 0) :
    tc &&& mask ≠ 0 ↔ tc.getLsbD i = true := by
  rw [hmask] at hne
  rw [hmask, BitVec.and_twoPow]
  cases tc.getLsbD i with
  | false => simp
  | true => simpa using hne

/-- The flags that the encoder takes for others: the drop frame flag, or the field bit at 25 and 50
frames a second. -/
lemma st370Packet_flags :
    (st370Packet tc fieldRate).flag15 = 0 ∧ (st370Packet tc fieldRate).flag74 = 0 ∧
      (st370Packet tc fieldRate).flag14 = (if !fieldRate && tc.getLsbD 30 then 1 else 0) ∧
      (st370Packet tc fieldRate).flag75 = (if fieldRate && tc.getLsbD 23 then 1 else 0) := by
  have h₃₀ := @and_ne_zero_iff tc 0x40000000 30 (by decide) (by decide)
  have h₂₃ := @and_ne_zero_iff tc 0x00800000 23 (by decide) (by decide)
  rw [st370Packet]
  dsimp only
  cases fieldRate with
  | false =>
    rw [if_neg Bool.false_ne_true]
    by_cases hdrop : tc.getLsbD 30 = true
    · rw [if_pos (h₃₀.mpr hdrop), hdrop]
      by_cases hfield : tc &&& 0x00000080 ≠ 0
      · rw [if_pos hfield]
        exact ⟨rfl, rfl, rfl, rfl⟩
      · rw [if_neg hfield]
        exact ⟨rfl, rfl, rfl, rfl⟩
    · rw [if_neg (mt h₃₀.mp hdrop), Bool.eq_false_of_not_eq_true hdrop]
      by_cases hfield : tc &&& 0x00000080 ≠ 0
      · rw [if_pos hfield]
        exact ⟨rfl, rfl, rfl, rfl⟩
      · rw [if_neg hfield]
        exact ⟨rfl, rfl, rfl, rfl⟩
  | true =>
    rw [if_pos rfl]
    by_cases hfield : tc.getLsbD 23 = true
    · rw [if_pos (h₂₃.mpr hfield), hfield]
      exact ⟨rfl, rfl, rfl, rfl⟩
    · rw [if_neg (mt h₂₃.mp hfield), Bool.eq_false_of_not_eq_true hfield]
      exact ⟨rfl, rfl, rfl, rfl⟩

/-- The other fields that the encoder reads. -/
lemma st370Packet_rest : (st370Packet tc fieldRate).HasTimeCode ∧
    (st370Packet tc fieldRate).vitcLineSelect = 0 ∧
    (st370Packet tc fieldRate).lineDuplicationFlag = 0 ∧
    (st370Packet tc fieldRate).tcValidityFlag = 0 ∧
    (st370Packet tc fieldRate).userBitsProcessFlag = 0 ∧
    ((st370Packet tc fieldRate).flag35 = 0 ∨ (st370Packet tc fieldRate).flag35 = 1) ∧
    (st370Packet tc fieldRate).flag55 = 0 := by
  rw [st370Packet, KlvancPacketSmpte12_2.HasTimeCode]
  split_ifs <;> refine ⟨?_, rfl, rfl, rfl, rfl, ?_, rfl⟩ <;> simp

/-- The packet is in the ranges of the encoder. -/
lemma st370Packet_inRange : FixedPacket.InRange (.smpte12_2 (st370Packet tc fieldRate)) := by
  obtain ⟨hframes, hseconds, hminutes, hhours⟩ := st370Packet_time tc fieldRate
  obtain ⟨h15, h74, h14, h75⟩ := st370Packet_flags tc fieldRate
  obtain ⟨htc, hline, hdup, hvalid, huser, h35, h55⟩ := st370Packet_rest tc fieldRate
  refine ⟨htc, ?_, ?_, ?_, ?_, ?_, ?_⟩
  · rw [hframes]
    exact bcd2uint_lt_40 _
  · rw [hseconds]
    exact bcd2uint_lt_80 _
  · rw [hminutes]
    exact bcd2uint_lt_80 _
  · rw [hhours]
    exact bcd2uint_lt_40 _
  · rw [hline]
    decide
  · simp only [List.forall_mem_cons, List.not_mem_nil, false_imp_iff, implies_true, and_true]
    refine ⟨Or.inl hdup, Or.inl hvalid, Or.inl huser, ?_, Or.inl h15, h35, Or.inl h55,
      Or.inl h74, ?_⟩
    · rw [h14]
      split_ifs <;> simp
    · rw [h75]
      split_ifs <;> simp

end Packet

/-! ### The whole way -/

/-- A call of `all` is none of a service. -/
lemma serviceCalls_reported {run run' : KlvancRun} {hdr : KlvancPacketHeader}
    (h : run'.calls = run.calls ∨ run'.calls = run.calls ++ [.all hdr]) :
    run'.serviceCalls = run.serviceCalls := by
  rcases h with hsame | hall
  · rw [KlvancRun.serviceCalls, hsame, KlvancRun.serviceCalls]
  · rw [KlvancRun.serviceCalls, hall, List.filter_append, KlvancRun.serviceCalls]
    exact List.append_nil _

/-- The call that is made for the words of a time code. -/
lemma klvancPacketParse_timeCode {pkt : KlvancPacketSmpte12_2}
    (h : FixedPacket.InRange (.smpte12_2 pkt)) : ∃ words,
    klvancConvertSMPTE12_2ToWords pkt = pure (0, some words) ∧
      ∀ (lineNr : ℕ) (run : KlvancRun), run.ctx.registered (·.smpte12_2) = true → ∃ hdr,
        (klvancPacketParse lineNr words words.length run).2.serviceCalls =
          run.serviceCalls ++ [.smpte12_2 hdr (FixedPacket.decodedTimeCode pkt)] := by
  have hser : (FixedPacket.smpte12_2 pkt).Serialised := h.serialised
  refine ⟨_, FixedPacket.toWords_eq_words hser, fun lineNr run hreg => ?_⟩
  rw [klvancPacketParse_words]
  have hcarry := ((FixedPacket.smpte12_2 pkt).sdiPacket hser).header_payloadByte lineNr
    ((FixedPacket.smpte12_2 pkt).sdiPacket hser).words 0
  have hlen : (((FixedPacket.smpte12_2 pkt).sdiPacket hser).header lineNr
      ((FixedPacket.smpte12_2 pkt).sdiPacket hser).words 0).payloadLengthWords =
    (FixedPacket.smpte12_2 pkt).octets.length := List.length_map _
  have hparse := FixedPacket.parseSMPTE12_2_octets h
    (hlen.trans (KlvancPacketSmpte12_2.octets_length hser)) hcarry
  have htype : (((FixedPacket.smpte12_2 pkt).sdiPacket hser).header lineNr
    ((FixedPacket.smpte12_2 pkt).sdiPacket hser).words 0).type = .smpteS12_2 := rfl
  have hreports : run.ctx.reports (((FixedPacket.smpte12_2 pkt).sdiPacket hser).header lineNr
    ((FixedPacket.smpte12_2 pkt).sdiPacket hser).words 0) = true := Bool.true_or _
  obtain ⟨run', hprocess, hcallbacks, -, hcalls⟩ := processPacket_reported _ _ hreports
  have hreg' : run'.ctx.registered (·.smpte12_2) = true := by
    rw [KlvancContext.registered, hcallbacks]
    exact hreg
  refine ⟨((FixedPacket.smpte12_2 pkt).sdiPacket hser).header lineNr
    ((FixedPacket.smpte12_2 pkt).sdiPacket hser).words 0, ?_⟩
  rw [hprocess, parseByType, htype]
  dsimp only
  rw [FixedPacket.runDecoder_ok hreg' hparse,
    FixedPacket.serviceCalls_call fun _ => KlvancCall.noConfusion, serviceCalls_reported hcalls]

/-- A time code survives if and only if the flags that are exchanged agree. -/
lemma survives_timeCode_iff {pkt : KlvancPacketSmpte12_2}
    (h : FixedPacket.InRange (.smpte12_2 pkt)) :
    FixedPacket.Survives (.smpte12_2 pkt) ↔ FixedPacket.FlagsAgree (.smpte12_2 pkt) := by
  refine ⟨fun hsurvives => hsurvives.flagsAgree h, fun ⟨h₁, h₂⟩ => ?_⟩
  obtain ⟨words, hwords, hparse⟩ := klvancPacketParse_timeCode h
  refine ⟨words, hwords, fun lineNr run hreg => ?_⟩
  obtain ⟨hdr, hcalls⟩ := hparse lineNr run hreg
  refine ⟨_, ?_, hcalls⟩
  rw [FixedPacket.Delivers, FixedPacket.decodedTimeCode, h₁, h₂]

/-- The call divides by zero for 0/0. -/
lemma not_safe_klvancCreateSMPTE12_2FromST370 (tc : BitVec 32) {num den : ℕ}
    (hzero : num.gcd den = 0) : ¬(klvancCreateSMPTE12_2FromST370 tc num den).Safe := by
  have hdiv : ∀ a : ℤ, intDiv a ((0 : ℕ) : ℤ) = Checked.fault .divisionByZero 0 := fun a => rfl
  unfold klvancCreateSMPTE12_2FromST370
  simp only [gcd_natCast, hzero, hdiv, Checked.safe_bind, Checked.not_safe_fault, false_and,
    not_false_eq_true]

/-- The flags of the packet agree if the one that would be taken for another is clear. -/
lemma st370Packet_flagsAgree_iff (tc : BitVec 32) (fieldRate : Bool) :
    FixedPacket.FlagsAgree (.smpte12_2 (st370Packet tc fieldRate)) ↔
      (fieldRate = true → tc.getLsbD 23 = false) ∧ (¬fieldRate = true → tc.getLsbD 30 = false) := by
  obtain ⟨h15, h74, h14, h75⟩ := st370Packet_flags tc fieldRate
  rw [FixedPacket.FlagsAgree, h15, h74, h14, h75]
  cases fieldRate <;> cases tc.getLsbD 30 <;> cases tc.getLsbD 23 <;> decide

/-- An ST 370 time code with a frame duration other than 0/0 makes a packet that can be written, and
its time comes back from the parser. The packet comes back as a whole if and only if, at 25 and 50
frames a second, the field bit is clear, and at other frame rates, the drop frame flag is. For 0/0
the function divides by zero. -/
theorem klvancCreateSMPTE12_2FromST370_survives_iff (tc : BitVec 32) (num den : ℕ) :
    ((klvancCreateSMPTE12_2FromST370 tc num den).Safe ↔ ¬(num = 0 ∧ den = 0)) ∧
      (¬(num = 0 ∧ den = 0) → ∃ pkt words,
        klvancCreateSMPTE12_2FromST370 tc num den = pure (0, pkt) ∧
        klvancConvertSMPTE12_2ToWords pkt = pure (0, some words) ∧
        (∀ (lineNr : ℕ) (run : KlvancRun), run.ctx.registered (·.smpte12_2) = true → ∃ hdr q,
          (klvancPacketParse lineNr words words.length run).2.serviceCalls =
            run.serviceCalls ++ [.smpte12_2 hdr q] ∧ q.HasTimeOf tc ∧ q.dbb1 = pkt.dbb1) ∧
        (FixedPacket.Survives (.smpte12_2 pkt) ↔
          (HasFieldRate num den → tc.getLsbD 23 = false) ∧
            (¬HasFieldRate num den → tc.getLsbD 30 = false))) := by
  rw [← Nat.gcd_eq_zero_iff]
  constructor
  · constructor
    · exact fun hsafe hzero => not_safe_klvancCreateSMPTE12_2FromST370 tc hzero hsafe
    · intro hne
      rw [klvancCreateSMPTE12_2FromST370_eq tc (Nat.pos_of_ne_zero hne)]
      exact Checked.safe_pure _
  · intro hne
    have hpos : 0 < num.gcd den := Nat.pos_of_ne_zero hne
    have hrate := isFieldRate_reduced_iff hpos
    rw [klvancCreateSMPTE12_2FromST370_eq tc hpos]
    generalize isFieldRate ((num / num.gcd den : ℕ) : ℤ) ((den / num.gcd den : ℕ) : ℤ) =
      fieldRate at hrate ⊢
    have hrange := st370Packet_inRange tc fieldRate
    obtain ⟨words, hwords, hparse⟩ := klvancPacketParse_timeCode hrange
    refine ⟨st370Packet tc fieldRate, words, rfl, hwords, fun lineNr run hreg => ?_, ?_⟩
    · obtain ⟨hdr, hcalls⟩ := hparse lineNr run hreg
      exact ⟨hdr, _, hcalls, st370Packet_time tc fieldRate, rfl⟩
    · rw [survives_timeCode_iff hrange, st370Packet_flagsAgree_iff, hrate]

end Libklvanc
