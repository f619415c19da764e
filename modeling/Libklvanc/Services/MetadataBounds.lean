import Libklvanc.Services.Bitstream
import Libklvanc.Core.PacketRoundTrip

/-!
# Safety of the SMPTE 2108-1 parser

The loop over the frames of a packet checks that as many octets are left as the frame announces, but
reads as many as its type asks for, and it does not count the frames. `FrameStart` says where the
frames of a payload start. The parser is safe exactly when every frame that starts has a place in
the array and, unless it is cut off, holds what is read of it (`parseSMPTE2108_1_safe_iff`).
-/

namespace Libklvanc

open KlbsDecoder

/-! ### Where the frames start -/

/-- The octets read of a frame behind its type and its length: the SEI type and length, and the
body. -/
def frameOctets (frameType frameLength : Byte) : ℕ :=
  2 + if frameType = 0x00 then 24 else if frameType = 0x01 then 4 else frameLength.toNat - 2

/-- In the payload `l`, whose first frame is numbered `k`, frame number `j` starts with `l'`. -/
inductive FrameStart (k : ℕ) (l : List Byte) : ℕ → List Byte → Prop
  | first : FrameStart k l k l
  | next {j : ℕ} {frameType frameLength : Byte} {rest : List Byte}
      (h : FrameStart k l j (frameType :: frameLength :: rest))
      (hle : frameLength.toNat ≤ rest.length) :
      FrameStart k l (j + 1) (rest.drop (frameOctets frameType frameLength))

/-- The frame number `j` that starts with `l` has a place in the array and, unless it is cut off,
holds what is read of it. -/
def FrameFits (j : ℕ) (l : List Byte) : Prop :=
  ∀ frameType frameLength rest, l = frameType :: frameLength :: rest →
    j < maxS2108_1Frames ∧ (frameLength.toNat ≤ rest.length →
      frameOctets frameType frameLength ≤ rest.length ∧
        (frameType ≠ 0x00 → frameType ≠ 0x01 → 2 ≤ frameLength.toNat))

/-- All frames fit. -/
def FramesFit (k : ℕ) (l : List Byte) : Prop := ∀ j l', FrameStart k l j l' → FrameFits j l'

/-- The frames behind the first one. -/
lemma FrameStart.behind {k j : ℕ} {frameType frameLength : Byte} {rest l' : List Byte}
    (hle : frameLength.toNat ≤ rest.length)
    (h : FrameStart (k + 1) (rest.drop (frameOctets frameType frameLength)) j l') :
    FrameStart k (frameType :: frameLength :: rest) j l' := by
  induction h with
  | first => exact .next .first hle
  | next _ hle' ih => exact .next ih hle'

/-- A frame is the first one or behind it. -/
lemma FrameStart.eq_or_behind {k j : ℕ} {l l' : List Byte} (h : FrameStart k l j l') :
    j = k ∧ l' = l ∨ ∃ frameType frameLength rest, l = frameType :: frameLength :: rest ∧
      frameLength.toNat ≤ rest.length ∧
      FrameStart (k + 1) (rest.drop (frameOctets frameType frameLength)) j l' := by
  induction h with
  | first => exact Or.inl ⟨rfl, rfl⟩
  | next _ hle ih =>
    rcases ih with ⟨rfl, heq⟩ | ⟨frameType, frameLength, rest, rfl, hle', hstart⟩
    · exact Or.inr ⟨_, _, _, heq.symm, hle, .first⟩
    · exact Or.inr ⟨frameType, frameLength, rest, rfl, hle', .next hstart hle⟩

/-- All frames fit if the first one does, and those behind it. -/
lemma framesFit_iff {k : ℕ} {l : List Byte} :
    FramesFit k l ↔ FrameFits k l ∧ ∀ frameType frameLength rest,
      l = frameType :: frameLength :: rest → frameLength.toNat ≤ rest.length →
        FramesFit (k + 1) (rest.drop (frameOctets frameType frameLength)) := by
  constructor
  · intro h
    refine ⟨h k l .first, fun frameType frameLength rest hl hle j l' hstart => ?_⟩
    subst hl
    exact h j l' (hstart.behind hle)
  · rintro ⟨hfirst, hbehind⟩ j l' hstart
    rcases hstart.eq_or_behind with ⟨rfl, rfl⟩ | ⟨frameType, frameLength, rest, hl, hle, hstart⟩
    · exact hfirst
    · exact hbehind frameType frameLength rest hl hle j l' hstart

/-! ### One frame -/

/-- The number of bits that the body of a frame takes; for another type it is a `uint32_t`. -/
def bodyBits (frameType frameLength : Byte) : ℕ :=
  if frameType = 0x00 then 192 else if frameType = 0x01 then 32
  else 8 * (frameLength.toNat + 2 ^ 32 - 2) % 2 ^ 32

/-- The body of a frame takes its bits. -/
lemma parseS2108_1Body_takes (frameType frameLength : Byte) :
    (parseS2108_1Body frameType frameLength).Takes (bodyBits frameType frameLength) := by
  unfold parseS2108_1Body bodyBits
  split_ifs with h₀ h₁
  · have hprimary : ∀ w, (readBits 16 w >>= fun x => readBits 16 w >>= fun y => pure (x, y)).Takes
        (w + w) :=
      fun w => (Takes.readBits 16 w).bind fun x => (Takes.readBits 16 w).bind_pure fun y => (x, y)
    have hbody := (Takes.mapM hprimary (List.replicate 3 16)).bind fun displayPrimaries =>
      (Takes.readBits 16 16).bind fun whitePointX => (Takes.readBits 16 16).bind fun whitePointY =>
        (Takes.readBits 32 32).bind fun maxDisplayMasteringLuminance =>
          (Takes.readBits 32 32).bind_pure fun minDisplayMasteringLuminance =>
            Smpte2108_1Body.static1
              { displayPrimaries, whitePointX, whitePointY, maxDisplayMasteringLuminance,
                minDisplayMasteringLuminance }
    convert hbody using 1
    simp
  · exact (Takes.readBits 16 16).bind fun _ => (Takes.readBits 16 16).bind fun _ => .pure _
  · generalize 8 * (frameLength.toNat + 2 ^ 32 - 2) % 2 ^ 32 = k
    exact (Takes.skipBits k).bind_pure fun _ => Smpte2108_1Body.other

/-- In a payload of up to 255 octets the bits of a body fit exactly when its octets do and their
number has not wrapped. -/
lemma bodyBits_le_iff {frameType frameLength : Byte} {n : ℕ} (hle : frameLength.toNat ≤ n)
    (hn : n ≤ 255) :
    16 + bodyBits frameType frameLength ≤ 8 * n ↔ frameOctets frameType frameLength ≤ n ∧
      (frameType ≠ 0x00 → frameType ≠ 0x01 → 2 ≤ frameLength.toNat) := by
  unfold bodyBits frameOctets
  split_ifs with h₀ h₁
  · have hlen : ∀ h : frameType ≠ 0x00, frameType ≠ 0x01 → 2 ≤ frameLength.toNat := fun h =>
      absurd h₀ h
    have hiff : 16 + 192 ≤ 8 * n ↔ 2 + 24 ≤ n := by omega
    rw [hiff, and_iff_left hlen]
  · have hlen : frameType ≠ 0x00 → ∀ h : frameType ≠ 0x01, 2 ≤ frameLength.toNat := fun _ h =>
      absurd h₁ h
    have hiff : 16 + 32 ≤ 8 * n ↔ 2 + 4 ≤ n := by omega
    rw [hiff, and_iff_left hlen]
  · norm_num
    constructor
    · intro h
      have h2 : 2 ≤ frameLength.toNat := by omega
      exact ⟨by omega, fun _ _ => h2⟩
    · rintro ⟨h, hlen⟩
      have h2 := hlen h₀ h₁
      omega

/-- The octets of a whole frame, in bits. -/
lemma bodyBits_eq {frameType frameLength : Byte}
    (hlen : frameType ≠ 0x00 → frameType ≠ 0x01 → 2 ≤ frameLength.toNat) :
    16 + bodyBits frameType frameLength = 8 * frameOctets frameType frameLength := by
  have hlt := frameLength.isLt
  unfold bodyBits frameOctets
  split_ifs with h₀ h₁
  · rfl
  · rfl
  · have h2 := hlen h₀ h₁
    norm_num at hlt ⊢
    omega

/-! ### The loop -/

/-- One round of the loop, behind the check that a type and a length are left. -/
def parseS2108_1Round (numFrames fuel : ℕ) : KlbsDecoder (List KlvancS2108_1Frame) :=
  storeAt .frames maxS2108_1Frames numFrames >>= fun _ => readBits 8 8 >>= fun frameType =>
    readBits 8 8 >>= fun frameLength => byteCountFree >>= fun free =>
      if free < frameLength.toNat then pure []
      else skipBits 16 >>= fun _ => parseS2108_1Body frameType frameLength >>= fun body =>
        parseS2108_1Frames (numFrames + 1) fuel >>= fun rest =>
          pure ({ frameType, frameLength, body } :: rest)

lemma parseS2108_1Frames_succ (numFrames fuel : ℕ) :
    parseS2108_1Frames numFrames (fuel + 1) = (byteCountFree >>= fun free =>
      if free < 2 then pure [] else parseS2108_1Round numFrames fuel) := rfl

lemma parseS2108_1Frames_progresses (numFrames fuel : ℕ) :
    (parseS2108_1Frames numFrames fuel).Progresses := by
  induction fuel generalizing numFrames with
  | zero => exact .pure []
  | succ fuel ih =>
    rw [parseS2108_1Frames_succ]
    refine .byteCountFree_bind fun free => .ite (.pure []) ?_
    refine (storeAt_progresses _ _ _).bind fun _ => (Progresses.readBits 8 8).bind fun frameType =>
      (Progresses.readBits 8 8).bind fun frameLength => .byteCountFree_bind fun free =>
        .ite (.pure []) ?_
    exact (Progresses.skipBits 16).bind fun _ =>
      (parseS2108_1Body_takes frameType frameLength).progresses.bind fun body =>
        (ih (numFrames + 1)).bind fun rest => .pure _

/-- Two octets are a type and a length. -/
lemma exists_frame_head {l : List Byte} (h : ¬l.length < 2) :
    ∃ frameType frameLength rest, l = frameType :: frameLength :: rest := by
  obtain ⟨frameType, tail, rfl⟩ := List.exists_cons_of_length_pos (by omega : 0 < l.length)
  rw [List.length_cons] at h
  obtain ⟨frameLength, rest, rfl⟩ := List.exists_cons_of_length_pos (by omega : 0 < tail.length)
  exact ⟨frameType, frameLength, rest, rfl⟩

section Loop

variable {k fuel : ℕ} {ctx : KlbsContext} {l rest : List Byte} {frameType frameLength : Byte}

/-- Where no type and length are left, the loop ends. -/
lemma parseS2108_1Frames_stop (hreads : ctx.Reads (Bits.ofBytes l)) (hlt : l.length < 2) :
    (parseS2108_1Frames k (fuel + 1)).run.run ctx = (.ok [], ctx) := by
  rw [parseS2108_1Frames_succ, byteCountFree_bind_run _ hreads, if_pos hlt]
  rfl

/-- The type and the length of a frame that has a place in the array. -/
lemma parseS2108_1Frames_open
    (hreads : ctx.Reads (Bits.ofBytes (frameType :: frameLength :: rest)))
    (hk : k < maxS2108_1Frames) :
    ∃ ctx', ctx.Reaches ctx' rest ∧ ∀ fuel,
      (parseS2108_1Frames k (fuel + 1)).run.run ctx =
        (if rest.length < frameLength.toNat then pure []
          else skipBits 16 >>= fun _ => parseS2108_1Body frameType frameLength >>= fun body =>
            parseS2108_1Frames (k + 1) fuel >>= fun rest =>
              pure ({ frameType, frameLength, body } :: rest) :
          KlbsDecoder (List KlvancS2108_1Frame)).run.run ctx' := by
  obtain ⟨ctx₁, hrun₁, h₁⟩ := readBits_octet hreads
  obtain ⟨ctx₂, hrun₂, h₂⟩ := readBits_octet h₁.reads
  refine ⟨ctx₂, h₁.trans h₂, fun fuel => ?_⟩
  rw [parseS2108_1Frames_succ, byteCountFree_bind_run _ hreads, if_neg (by simp), parseS2108_1Round,
    storeAt_of_lt hk, pure_bind, run_bind_of_ok hrun₁, run_bind_of_ok hrun₂,
    byteCountFree_bind_run _ h₂.reads]

/-- A frame without a place in the array is stored behind it. -/
lemma parseS2108_1Frames_faults
    (hreads : ctx.Reads (Bits.ofBytes (frameType :: frameLength :: rest)))
    (hk : maxS2108_1Frames ≤ k) :
    ((parseS2108_1Frames k (fuel + 1)).run.run ctx).2.faults ≠ [] := by
  rw [parseS2108_1Frames_succ, byteCountFree_bind_run _ hreads, if_neg (by simp)]
  refine (storeAt_faulty hk).bind_left (fun _ => ?_) ctx
  refine (Progresses.readBits 8 8).bind fun frameType => (Progresses.readBits 8 8).bind fun
    frameLength => .byteCountFree_bind fun free => .ite (.pure []) ?_
  exact (Progresses.skipBits 16).bind fun _ =>
    (parseS2108_1Body_takes frameType frameLength).progresses.bind fun body =>
      (parseS2108_1Frames_progresses (k + 1) fuel).bind fun rest => .pure _

/-- A frame that is cut off ends the loop. -/
lemma parseS2108_1Frames_cut
    (hreads : ctx.Reads (Bits.ofBytes (frameType :: frameLength :: rest)))
    (hk : k < maxS2108_1Frames) (hcut : rest.length < frameLength.toNat) :
    ∃ ctx', ctx.Reaches ctx' rest ∧ ∀ fuel,
      (parseS2108_1Frames k (fuel + 1)).run.run ctx = (.ok [], ctx') := by
  obtain ⟨ctx', hreach, hrun⟩ := parseS2108_1Frames_open hreads hk
  refine ⟨ctx', hreach, fun fuel => ?_⟩
  rw [hrun, if_pos hcut]
  rfl

/-- A frame that holds less than is read of it is read past the end. -/
lemma parseS2108_1Frames_past
    (hreads : ctx.Reads (Bits.ofBytes (frameType :: frameLength :: rest)))
    (hk : k < maxS2108_1Frames) (hle : frameLength.toNat ≤ rest.length)
    (hlt : 8 * rest.length < 16 + bodyBits frameType frameLength) :
    ((parseS2108_1Frames k (fuel + 1)).run.run ctx).2.Past := by
  obtain ⟨ctx', hreach, hrun⟩ := parseS2108_1Frames_open hreads hk
  have hframe : (skipBits 16 >>= fun _ => parseS2108_1Body frameType frameLength).Takes
      (16 + bodyBits frameType frameLength) :=
    (Takes.skipBits 16).bind fun _ => parseS2108_1Body_takes frameType frameLength
  rw [hrun, if_neg (not_lt.mpr hle), ← bind_assoc]
  refine hframe.past_bind (fun body => ?_) hreach.reads (by rwa [Bits.ofBytes_length])
  exact (parseS2108_1Frames_progresses (k + 1) fuel).bind fun rest => .pure _

/-- Behind a whole frame the loop goes on. -/
lemma parseS2108_1Frames_whole
    (hreads : ctx.Reads (Bits.ofBytes (frameType :: frameLength :: rest)))
    (hk : k < maxS2108_1Frames) (hle : frameLength.toNat ≤ rest.length)
    (hfit : frameOctets frameType frameLength ≤ rest.length)
    (hlen : frameType ≠ 0x00 → frameType ≠ 0x01 → 2 ≤ frameLength.toNat) :
    ∃ body ctx', ctx.Reaches ctx' (rest.drop (frameOctets frameType frameLength)) ∧ ∀ fuel,
      (parseS2108_1Frames k (fuel + 1)).run.run ctx =
        (parseS2108_1Frames (k + 1) fuel >>= fun rest =>
          pure ({ frameType, frameLength, body } :: rest)).run.run ctx' := by
  obtain ⟨ctx₁, h₁, hrun₁⟩ := parseS2108_1Frames_open hreads hk
  have hframe : (skipBits 16 >>= fun _ => parseS2108_1Body frameType frameLength).Takes
      (8 * frameOctets frameType frameLength) := by
    rw [← bodyBits_eq hlen]
    exact (Takes.skipBits 16).bind fun _ => parseS2108_1Body_takes frameType frameLength
  obtain ⟨body, ctx₂, hrun₂, h₂⟩ := hframe.reaches h₁.reads hfit
  refine ⟨body, ctx₂, h₁.trans h₂, fun fuel => ?_⟩
  rw [hrun₁, if_neg (not_lt.mpr hle), ← bind_assoc, run_bind_of_ok hrun₂]

/-- When all frames fit, the loop ends by itself inside the payload, and its frames have places in
the array and lengths that do not wrap: however many rounds `fuel` allows, it does not use them
up. -/
lemma parseS2108_1Frames_of_fit (hreads : ctx.Reads (Bits.ofBytes l)) (hfit : FramesFit k l)
    (hk : k ≤ maxS2108_1Frames) :
    ∃ frames ctx' l', ctx.Reaches ctx' l' ∧ k + frames.length ≤ maxS2108_1Frames ∧
      (∀ f ∈ frames, f.frameType ≠ 0x00 → f.frameType ≠ 0x01 → 2 ≤ f.frameLength.toNat) ∧
      ∀ fuel, l.length < fuel → (parseS2108_1Frames k fuel).run.run ctx = (.ok frames, ctx') := by
  induction hn : l.length using Nat.strong_induction_on generalizing k l ctx with
  | _ n ih =>
    by_cases hlt : l.length < 2
    · refine ⟨[], ctx, l, ⟨hreads, rfl, rfl⟩, hk, by simp, fun fuel hfuel => ?_⟩
      obtain ⟨fuel, rfl⟩ : ∃ m, fuel = m + 1 := ⟨fuel - 1, by omega⟩
      exact parseS2108_1Frames_stop hreads hlt
    · obtain ⟨frameType, frameLength, rest, rfl⟩ := exists_frame_head hlt
      obtain ⟨hfirst, hbehind⟩ := framesFit_iff.mp hfit
      obtain ⟨hplace, hwhole⟩ := hfirst frameType frameLength rest rfl
      rw [List.length_cons, List.length_cons] at hn
      by_cases hcut : rest.length < frameLength.toNat
      · obtain ⟨ctx', hreach, hrun⟩ := parseS2108_1Frames_cut hreads hplace hcut
        refine ⟨[], ctx', rest, hreach, hk, by simp, fun fuel hfuel => ?_⟩
        obtain ⟨fuel, rfl⟩ : ∃ m, fuel = m + 1 := ⟨fuel - 1, by omega⟩
        exact hrun fuel
      · have hle := not_lt.mp hcut
        obtain ⟨hoctets, hlen⟩ := hwhole hle
        obtain ⟨body, ctx₁, h₁, hrun₁⟩ := parseS2108_1Frames_whole hreads hplace hle hoctets hlen
        obtain ⟨frames, ctx₂, l', h₂, hcount, hlens, hrun₂⟩ :=
          ih _ (by rw [List.length_drop]; omega) h₁.reads
            (hbehind frameType frameLength rest rfl hle) hplace rfl
        refine ⟨{ frameType, frameLength, body } :: frames, ctx₂, l', h₁.trans h₂, ?_, ?_,
          fun fuel hfuel => ?_⟩
        · rw [List.length_cons]
          omega
        · intro f hf
          rcases List.mem_cons.mp hf with rfl | hf
          · exact hlen
          · exact hlens f hf
        · obtain ⟨fuel, rfl⟩ : ∃ m, fuel = m + 1 := ⟨fuel - 1, by omega⟩
          rw [hrun₁, run_bind_of_ok (hrun₂ fuel (by rw [List.length_drop]; omega))]
          rfl

/-- When some frame does not fit, the loop reads past the end or meets a fault. -/
lemma parseS2108_1Frames_of_not_fit (hreads : ctx.Reads (Bits.ofBytes l)) (h255 : l.length ≤ 255)
    (hfit : ¬FramesFit k l) (hfuel : l.length < fuel) :
    ((parseS2108_1Frames k fuel).run.run ctx).2.Past ∨
      ((parseS2108_1Frames k fuel).run.run ctx).2.faults ≠ [] := by
  induction hn : l.length using Nat.strong_induction_on generalizing k l ctx fuel with
  | _ n ih =>
    obtain ⟨fuel, rfl⟩ : ∃ m, fuel = m + 1 := ⟨fuel - 1, by omega⟩
    rw [framesFit_iff, not_and_or] at hfit
    by_cases hlt : l.length < 2
    · -- nothing starts where no type and length are left
      rcases hfit with hfit | hfit
      · refine absurd (fun frameType frameLength rest hl => ?_) hfit
        rw [hl] at hlt
        exact absurd hlt (by simp)
      · refine absurd (fun frameType frameLength rest hl => ?_) hfit
        rw [hl] at hlt
        exact absurd hlt (by simp)
    · obtain ⟨frameType, frameLength, rest, rfl⟩ := exists_frame_head hlt
      rw [List.length_cons, List.length_cons] at hn h255 hfuel
      by_cases hk : k < maxS2108_1Frames
      · by_cases hcut : rest.length < frameLength.toNat
        · -- a frame that is cut off fits, and there is none behind it
          rcases hfit with hfit | hfit
          · refine absurd (fun _ _ _ hl => ?_) hfit
            obtain ⟨rfl, rfl, rfl⟩ := hl
            exact ⟨hk, fun hle => absurd hle (not_le.mpr hcut)⟩
          · refine absurd (fun _ _ _ hl hle => ?_) hfit
            obtain ⟨rfl, rfl, rfl⟩ := hl
            exact absurd hle (not_le.mpr hcut)
        · have hle := not_lt.mp hcut
          by_cases hbits : 16 + bodyBits frameType frameLength ≤ 8 * rest.length
          · -- the frame is whole: a later one does not fit
            obtain ⟨hoctets, hlen⟩ := (bodyBits_le_iff hle (by omega)).mp hbits
            have hlater : ¬FramesFit (k + 1)
                (rest.drop (frameOctets frameType frameLength)) := by
              intro hlater
              rcases hfit with hfit | hfit
              · refine hfit fun _ _ _ hl => ?_
                obtain ⟨rfl, rfl, rfl⟩ := hl
                exact ⟨hk, fun _ => ⟨hoctets, hlen⟩⟩
              · refine hfit fun _ _ _ hl _ => ?_
                obtain ⟨rfl, rfl, rfl⟩ := hl
                exact hlater
            obtain ⟨body, ctx₁, h₁, hrun₁⟩ :=
              parseS2108_1Frames_whole hreads hk hle hoctets hlen
            have hdrop := @List.length_drop _ (frameOctets frameType frameLength) rest
            have hfuel' : (rest.drop (frameOctets frameType frameLength)).length < fuel := by omega
            have hloop := ih _ (by omega) h₁.reads (by omega) hlater hfuel' rfl
            have hgo := Progresses.second (d := parseS2108_1Frames (k + 1) fuel) (f := fun rest =>
              pure ({ frameType, frameLength, body } :: rest)) (fun rest => .pure _) ctx₁
            rw [hrun₁]
            exact hloop.imp hgo.past hgo.faults_ne_nil
          · exact Or.inl (parseS2108_1Frames_past hreads hk hle (not_le.mp hbits))
      · exact Or.inr (parseS2108_1Frames_faults hreads (not_lt.mp hk))

end Loop

/-! ### The parser -/

/-- The loop of `parse_SMPTE_2108_1` with the reader it leaves. -/
def framesRun (hdr : KlvancPacketHeader) : Except ℤ (List KlvancS2108_1Frame) × KlbsContext :=
  (parseS2108_1Frames 0 (hdr.payloadLengthWords + 2)).run.run (payloadReader hdr)

/-- `parse_SMPTE_2108_1` is safe on the payload: its loop ends by itself, the octets loaded lie
inside the payload, no array is left and no assertion fails, and a packet that is delivered has at
most ten frames, none of them with a length from which the bit count of its body would wrap. -/
structure SMPTE2108_1ParsedSafely (hdr : KlvancPacketHeader) : Prop where
  ends : ∀ fuel, hdr.payloadLengthWords + 2 ≤ fuel →
    (parseS2108_1Frames 0 fuel).run.run (payloadReader hdr) = framesRun hdr
  inside : klbsGetByteCount (framesRun hdr).2 ≤ hdr.payloadLengthWords
  safe : (parseSMPTE2108_1 hdr).Safe
  counts : ∀ pkt, (parseSMPTE2108_1 hdr).val = .ok pkt → pkt.frames.length ≤ 10
  lengths : ∀ pkt, (parseSMPTE2108_1 hdr).val = .ok pkt → ∀ f ∈ pkt.frames,
    f.frameType ≠ 0x00 → f.frameType ≠ 0x01 → 2 ≤ f.frameLength.toNat

/-- The packet made of the frames of the loop. -/
def deliverFrames (hdr : KlvancPacketHeader) : KlbsDecoder KlvancPacketSmpte2108_1 :=
  parseS2108_1Frames 0 (hdr.payloadLengthWords + 2) >>= fun frames => pure
    ⟨hdr.payload.map lowByte, hdr.payloadLengthWords, frames⟩

-- Otherwise the loop is unfolded.
attribute [local irreducible] parseS2108_1Frames in
/-- What the parser does. -/
lemma parseSMPTE2108_1_eq (hdr : KlvancPacketHeader) :
    parseSMPTE2108_1 hdr = ⟨((deliverFrames hdr).run.run (payloadReader hdr)).1,
      ((deliverFrames hdr).run.run (payloadReader hdr)).2.faults⟩ := rfl

/-- `parse_SMPTE_2108_1` is safe on a payload exactly when all frames that start in it fit. -/
theorem parseSMPTE2108_1_safe_iff (hdr : KlvancPacketHeader) (h : hdr.payload.length ≤ 255) :
    SMPTE2108_1ParsedSafely hdr ↔
      ∀ j l, FrameStart 0 (hdr.payload.map lowByte) j l → FrameFits j l := by
  have hreads := payloadReader_reads h
  have hlen : (hdr.payload.map lowByte).length = hdr.payloadLengthWords := List.length_map _
  have hlen' : hdr.payloadLengthWords ≤ 255 := h
  constructor
  · intro hsafe
    by_contra hfit
    rcases parseS2108_1Frames_of_not_fit hreads (by omega) hfit
      (by omega : _ < hdr.payloadLengthWords + 2) with hpast | hfaults
    · have hbuflen := (parseS2108_1Frames_progresses 0 (hdr.payloadLengthWords + 2)
        (payloadReader hdr)).buflen_eq
      rw [KlbsContext.Past, hbuflen] at hpast
      exact not_le.mpr hpast hsafe.inside
    · have hsecond := Progresses.second (d := parseS2108_1Frames 0 (hdr.payloadLengthWords + 2))
        (f := fun frames => pure (KlvancPacketSmpte2108_1.mk (hdr.payload.map lowByte)
          hdr.payloadLengthWords frames)) (fun frames => .pure _) (payloadReader hdr)
      have hfaults' := hsafe.safe
      rw [parseSMPTE2108_1_eq] at hfaults'
      exact hsecond.faults_ne_nil hfaults hfaults'
  · intro hfit
    obtain ⟨frames, ctx, l', hreach, hcount, hlens, hruns⟩ :=
      parseS2108_1Frames_of_fit hreads hfit (Nat.zero_le _)
    have hrun : framesRun hdr = (.ok frames, ctx) := hruns _ (by omega)
    have hparse : parseSMPTE2108_1 hdr =
        ⟨.ok ⟨hdr.payload.map lowByte, hdr.payloadLengthWords, frames⟩, ctx.faults⟩ := by
      rw [parseSMPTE2108_1_eq, deliverFrames, run_bind_of_ok hrun]
      rfl
    refine ⟨fun fuel hfuel => ?_, ?_, ?_, fun pkt hpkt => ?_, fun pkt hpkt => ?_⟩
    · rw [hrun]
      exact hruns fuel (by omega)
    · rw [hrun]
      exact hreach.reads.used_le.trans hreach.buflen_eq.le
    · rw [hparse]
      exact hreach.faults_eq
    · rw [hparse] at hpkt
      cases hpkt
      exact (Nat.le_add_left _ _).trans hcount
    · rw [hparse] at hpkt
      cases hpkt
      exact hlens

/-- A static metadata frame that announces less than is read of it. -/
def shortFrame : SdiPacket :=
  .ofBytes 0x41 0x0c [0x00, 0x02, 0x89, 0x18]
    (Eq.refl true)

/-- Its body is read behind the end of the payload. -/
theorem not_parseSMPTE2108_1_safe_short : ¬SMPTE2108_1ParsedSafely shortFrame.onLine := fun h =>
  absurd h.inside (by decide +kernel)

/-- A content light level frame. -/
def lightLevelFrame : SdiPacket :=
  .ofBytes 0x41 0x0c [0x01, 0x06, 0x90, 0x04, 0x03, 0xe8, 0x01, 0x90]
    (Eq.refl true)

/-- A whole frame is parsed safely. -/
theorem parseSMPTE2108_1_safe_lightLevel : SMPTE2108_1ParsedSafely lightLevelFrame.onLine := by
  refine (parseSMPTE2108_1_safe_iff lightLevelFrame.onLine (by decide)).mpr fun j l hstart => ?_
  have hpayload : lightLevelFrame.onLine.payload.map lowByte = lightLevelFrame.bytes := by
    decide +kernel
  rw [hpayload] at hstart
  rcases hstart.eq_or_behind with ⟨rfl, rfl⟩ | ⟨_, _, _, hl, -, hstart⟩
  · intro _ _ _ hl
    obtain ⟨rfl, rfl, rfl⟩ := hl
    decide
  · obtain ⟨rfl, rfl, rfl⟩ := hl
    have hdrop : ([0x90, 0x04, 0x03, 0xe8, 0x01, 0x90] : List Byte).drop
      (frameOctets 0x01 0x06) = [] := by decide
    rw [hdrop] at hstart
    rcases hstart.eq_or_behind with ⟨rfl, rfl⟩ | ⟨_, _, _, hl, -⟩
    · exact fun _ _ _ hl => absurd hl.symm (List.cons_ne_nil _ _)
    · exact absurd hl.symm (List.cons_ne_nil _ _)

end Libklvanc
