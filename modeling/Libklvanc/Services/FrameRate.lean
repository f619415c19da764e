import Libklvanc.Services.Bitstream

/-!
# Setting the frame rate of a caption distribution packet

`klvanc_set_framerate_EIA_708B` reduces the fraction it is given with Euclid's loop and compares it
with eight reduced fractions. This is to compare rational numbers (`reduced_eq_iff`): a frame rate
is recognised by its value. The greatest common divisor is zero for the fraction 0/0 only, and then
the packet does not get a frame rate and the caller no error: the function divides by zero
(`klvancSetFramerateEia708b_iff`).
-/

namespace Libklvanc

/-- The packet made by `klvanc_create_eia708_cdp`. -/
def klvancCreateEia708Cdp : KlvancPacketEia708b where
  payload := []
  payloadLengthBytes := 0
  checksumValid := false
  header :=
    { cdpIdentifier := 0x9669, cdpLength := 0, cdpFrameRate := 0, timeCodePresent := 0
      ccdataPresent := 0, svcinfoPresent := 0, svcInfoStart := 0, svcInfoChange := 0
      svcInfoComplete := 0, captionServiceActive := 0, cdpHdrSequenceCntr := 0 }
  tc := {}
  ccdata := { ccdataId := 0x72 }
  ccsvc := { ccsvcinfoId := 0x73 }
  footer := { cdpFooterId := 0x74 }

/-- `gcd`. -/
def gcd (a b : ℤ) : ℤ :=
  if 0 < b then gcd b (a.tmod b) else a
termination_by b.toNat
decreasing_by
  have hlt : a.tmod b < b := Int.tmod_lt_of_pos a ‹_›
  omega

/-- The quotient of two `int`. -/
def intDiv (a b : ℤ) : Checked Fault ℤ :=
  if b = 0 then Checked.fault .divisionByZero 0 else pure (a.tdiv b)

/-- The comparisons of `klvanc_set_framerate_EIA_708B`. -/
def frameRateCode (num den : ℤ) : Option Byte :=
  if num = 1001 ∧ den = 24000 then some 0x01
  else if num = 1 ∧ den = 24 then some 0x02
  else if num = 1 ∧ den = 25 then some 0x03
  else if num = 1001 ∧ den = 30000 then some 0x04
  else if num = 1 ∧ den = 30 then some 0x05
  else if num = 1 ∧ den = 50 then some 0x06
  else if num = 1001 ∧ den = 60000 then some 0x07
  else if num = 1 ∧ den = 60 then some 0x08
  else none

/-- The packet with the frame rate `code`. -/
def KlvancPacketEia708b.withFrameRate (pkt : KlvancPacketEia708b) (code : Byte) :
    KlvancPacketEia708b :=
  { pkt with header := { pkt.header with cdpFrameRate := code } }

/-- `klvanc_set_framerate_EIA_708B`: what it returns and the packet after the call. -/
def klvancSetFramerateEia708b (pkt : KlvancPacketEia708b) (num den : ℤ) :
    Checked Fault (ℤ × KlvancPacketEia708b) := do
  let gcdVal := gcd num den
  let num ← intDiv num gcdVal
  let den ← intDiv den gcdVal
  match frameRateCode num den with
  | some code => pure (0, pkt.withFrameRate code)
  | none => pure (-1, pkt)

/-- The frame duration of each code, as a fraction. -/
def frameDurations : List (Byte × ℕ × ℕ) :=
  [(0x01, 1001, 24000), (0x02, 1, 24), (0x03, 1, 25), (0x04, 1001, 30000), (0x05, 1, 30),
    (0x06, 1, 50), (0x07, 1001, 60000), (0x08, 1, 60)]

/-! ### Euclid's loop -/

/-- The loop computes the greatest common divisor. -/
theorem gcd_natCast (a b : ℕ) : gcd (a : ℤ) b = (Nat.gcd a b : ℤ) := by
  induction b using Nat.strong_induction_on generalizing a with
  | _ b ih =>
    rw [gcd]
    rcases Nat.eq_zero_or_pos b with rfl | hpos
    · simp
    · have hmod : (a : ℤ).tmod b = ((a % b : ℕ) : ℤ) := (Int.ofNat_tmod a b).symm
      rw [if_pos (Int.natCast_pos.mpr hpos), hmod, ih _ (Nat.mod_lt a hpos) b, Nat.gcd_comm b,
        ← Nat.gcd_rec, Nat.gcd_comm]

/-- A divisor other than zero divides. -/
lemma intDiv_natCast (a : ℕ) {b : ℕ} (h : 0 < b) :
    intDiv (a : ℤ) b = pure (((a / b : ℕ) : ℤ)) := by
  rw [intDiv, if_neg (Int.natCast_ne_zero.mpr h.ne'), Int.ofNat_tdiv]

/-! ### Reduced fractions -/

/-- Comparing the components of reduced fractions is comparing rational numbers. -/
theorem reduced_eq_iff {num den n d : ℕ} (hpos : 0 < num.gcd den) (hd : 0 < d)
    (hcoprime : n.Coprime d) :
    num / num.gcd den = n ∧ den / num.gcd den = d ↔ den ≠ 0 ∧ (num : ℚ) / den = n / d := by
  have hgcd : ((num.gcd den : ℕ) : ℚ) ≠ 0 := Nat.cast_ne_zero.mpr hpos.ne'
  have hvalue : ((num / num.gcd den : ℕ) : ℚ) / ((den / num.gcd den : ℕ) : ℚ) = num / den := by
    rw [Nat.cast_div (Nat.gcd_dvd_left _ _) hgcd, Nat.cast_div (Nat.gcd_dvd_right _ _) hgcd,
      div_div_div_cancel_right₀ hgcd]
  constructor
  · rintro ⟨hn, hd'⟩
    refine ⟨?_, ?_⟩
    · intro hzero
      rw [hzero, Nat.zero_div] at hd'
      exact hd.ne hd'
    · rw [← hvalue, hn, hd']
  · rintro ⟨hne, heq⟩
    have hdpos : 0 < den / num.gcd den :=
      Nat.div_pos (Nat.le_of_dvd (Nat.pos_of_ne_zero hne) (Nat.gcd_dvd_right _ _)) hpos
    rw [← hvalue] at heq
    obtain ⟨h₁, h₂⟩ := @Rat.div_int_inj (num / num.gcd den : ℕ) (den / num.gcd den : ℕ) n d
      (Int.natCast_pos.mpr hdpos) (Int.natCast_pos.mpr hd)
      (Nat.coprime_div_gcd_div_gcd hpos) hcoprime (by simpa only [Int.cast_natCast] using heq)
    exact ⟨Int.natCast_inj.mp h₁, Int.natCast_inj.mp h₂⟩

/-- The comparisons find the code with this duration. -/
lemma frameRateCode_eq_some_iff (num den : ℕ) (code : Byte) :
    frameRateCode num den = some code ↔ (code, num, den) ∈ frameDurations := by
  unfold frameRateCode frameDurations
  constructor
  · intro h
    split_ifs at h with h₁ h₂ h₃ h₄ h₅ h₆ h₇ h₈ <;> rw [Option.some_inj] at h <;> norm_cast at * <;>
      simp_all
  · intro h
    simp only [List.mem_cons, Prod.mk.injEq, List.not_mem_nil, or_false] at h
    rcases h with h | h | h | h | h | h | h | h <;> obtain ⟨rfl, rfl, rfl⟩ := h <;> rfl

/-- The durations are reduced fractions. -/
lemma frameDurations_reduced :
    ∀ f ∈ frameDurations, 0 < f.2.2 ∧ f.2.1.Coprime f.2.2 := by
  decide

/-! ### Setting the frame rate -/

/-- The fraction has the duration of the frame rate `code`. -/
def HasFrameRate (num den : ℕ) (code : Byte) : Prop :=
  ∃ n d, (code, n, d) ∈ frameDurations ∧ den ≠ 0 ∧ (num : ℚ) / den = n / d

/-- A fraction other than 0/0 is recognised by its value. -/
lemma frameRateCode_reduced_iff {num den : ℕ} (hpos : 0 < num.gcd den) (code : Byte) :
    frameRateCode ((num / num.gcd den : ℕ) : ℤ) ((den / num.gcd den : ℕ) : ℤ) = some code ↔
      HasFrameRate num den code := by
  rw [frameRateCode_eq_some_iff]
  constructor
  · intro h
    obtain ⟨hd, hcoprime⟩ := frameDurations_reduced _ h
    exact ⟨_, _, h, (reduced_eq_iff hpos hd hcoprime).mp ⟨rfl, rfl⟩⟩
  · rintro ⟨n, d, h, hvalue⟩
    obtain ⟨hd, hcoprime⟩ := frameDurations_reduced _ h
    obtain ⟨hn, hd'⟩ := (reduced_eq_iff hpos hd hcoprime).mpr hvalue
    rw [hn, hd']
    exact h

/-- What the call returns for a fraction other than 0/0. -/
lemma klvancSetFramerateEia708b_eq (pkt : KlvancPacketEia708b) {num den : ℕ}
    (hpos : 0 < num.gcd den) :
    klvancSetFramerateEia708b pkt num den =
      match frameRateCode ((num / num.gcd den : ℕ) : ℤ) ((den / num.gcd den : ℕ) : ℤ) with
      | some code => pure (0, pkt.withFrameRate code)
      | none => pure (-1, pkt) := by
  unfold klvancSetFramerateEia708b
  simp only [gcd_natCast, intDiv_natCast _ hpos, pure_bind]

/-- The call divides by zero for 0/0. -/
lemma not_safe_klvancSetFramerateEia708b (pkt : KlvancPacketEia708b) {num den : ℕ}
    (hzero : num.gcd den = 0) : ¬(klvancSetFramerateEia708b pkt num den).Safe := by
  have hdiv : ∀ a : ℤ, intDiv a ((0 : ℕ) : ℤ) = Checked.fault .divisionByZero 0 := fun a => rfl
  unfold klvancSetFramerateEia708b
  simp only [gcd_natCast, hzero, hdiv, Checked.safe_bind, Checked.not_safe_fault, false_and,
    not_false_eq_true]

/-- Nothing is divided by zero; the call returns 0 and sets the code of the fraction's value if it
has one, and returns -1 and leaves the packet alone if not; and a common factor makes no
difference. -/
def SetsFrameRate (pkt : KlvancPacketEia708b) (num den : ℕ) : Prop :=
  (klvancSetFramerateEia708b pkt num den).Safe ∧
    (∀ code, (klvancSetFramerateEia708b pkt num den).val = (0, pkt.withFrameRate code) ↔
      HasFrameRate num den code) ∧
    ((¬∃ code, HasFrameRate num den code) →
      (klvancSetFramerateEia708b pkt num den).val = (-1, pkt)) ∧
    ∀ k : ℕ, 0 < k → klvancSetFramerateEia708b pkt ((k * num : ℕ) : ℤ) ((k * den : ℕ) : ℤ) =
      klvancSetFramerateEia708b pkt num den

/-- The frame rate is set as it should be exactly when the fraction is not 0/0. -/
theorem setsFrameRate_iff (pkt : KlvancPacketEia708b) (num den : ℕ) :
    SetsFrameRate pkt num den ↔ ¬(num = 0 ∧ den = 0) := by
  rw [← Nat.gcd_eq_zero_iff]
  constructor
  · rintro ⟨hsafe, -⟩ hzero
    exact not_safe_klvancSetFramerateEia708b pkt hzero hsafe
  · intro hne
    have hpos : 0 < num.gcd den := Nat.pos_of_ne_zero hne
    have hrun := klvancSetFramerateEia708b_eq pkt hpos
    refine ⟨?_, ?_, ?_, ?_⟩
    · rw [hrun]
      split <;> exact Checked.safe_pure _
    · intro code
      rw [← frameRateCode_reduced_iff hpos, hrun]
      split
      · next code' hcode =>
        rw [hcode, Option.some_inj, Checked.pure_val, Prod.mk.injEq]
        constructor
        · rintro ⟨-, h⟩
          exact congrArg (fun p : KlvancPacketEia708b => p.header.cdpFrameRate) h
        · rintro rfl
          exact ⟨rfl, rfl⟩
      · next hnone =>
        rw [hnone, Checked.pure_val]
        simp
    · intro hnone
      rw [hrun]
      split
      · next code hcode => exact absurd ⟨code, (frameRateCode_reduced_iff hpos code).mp hcode⟩ hnone
      · rfl
    · intro k hk
      have hpos' : 0 < (k * num).gcd (k * den) := by
        rw [Nat.gcd_mul_left]
        exact Nat.mul_pos hk hpos
      rw [klvancSetFramerateEia708b_eq pkt hpos', hrun, Nat.gcd_mul_left,
        Nat.mul_div_mul_left _ _ hk, Nat.mul_div_mul_left _ _ hk]

/-- For 0/0 the call divides by zero. -/
theorem not_setsFrameRate_zero : ¬SetsFrameRate klvancCreateEia708Cdp 0 0 := by
  rintro ⟨hsafe, -⟩
  exact not_safe_klvancSetFramerateEia708b _ (Nat.gcd_zero_left 0) hsafe

/-- 59.94 frames per second, as 2002/120000. -/
example : frameRateCode (2002 / 2) (120000 / 2) = some 0x07 := by decide

end Libklvanc
