import Libklvanc.Services.MetadataBounds

/-!
# The frames of a SMPTE 2108-1 packet

Whether `parse_SMPTE_2108_1` finds the frames of a payload where their lengths say they are. A frame
of static metadata is left behind the fixed part of its body, whatever its length; what is left of
it is taken for the next frame. So the lengths are honoured exactly when nothing is left of any
frame but the last one, and nothing that could be a frame of that (`parseSMPTE2108_1_honours_iff`).
-/

namespace Libklvanc

open KlbsDecoder

/-- A frame of a payload, by its type and the octets behind its length. -/
structure S2108_1WireFrame where
  frameType : Byte
  body : List Byte
  body_lt : body.length < 256
  /-- There are the SEI type and length. -/
  two_le : 2 ≤ body.length
  static1_le : frameType = 0x00 → 26 ≤ body.length
  static2_le : frameType = 0x01 → 6 ≤ body.length

namespace S2108_1WireFrame

variable (f : S2108_1WireFrame)

/-- The length octet. -/
def frameLength : Byte := BitVec.ofNat 8 f.body.length

/-- The octets of the frame. -/
def octets : List Byte := f.frameType :: f.frameLength :: f.body

/-- The 16-bit value at place `i` of the body. -/
def bodyBe16 (i : ℕ) : Word := be16 (f.body.getD i 0) (f.body.getD (i + 1) 0)

/-- The 32-bit value at place `i` of the body. -/
def bodyBe32 (i : ℕ) : BitVec 32 :=
  be32 (f.body.getD i 0) (f.body.getD (i + 1) 0) (f.body.getD (i + 2) 0) (f.body.getD (i + 3) 0)

/-- The metadata in the body of the frame, behind the SEI type and length. -/
def metadata : Smpte2108_1Body :=
  if f.frameType = 0x00 then .static1
    { displayPrimaries := [(f.bodyBe16 2, f.bodyBe16 4), (f.bodyBe16 6, f.bodyBe16 8),
        (f.bodyBe16 10, f.bodyBe16 12)]
      whitePointX := f.bodyBe16 14
      whitePointY := f.bodyBe16 16
      maxDisplayMasteringLuminance := f.bodyBe32 18
      minDisplayMasteringLuminance := f.bodyBe32 22 }
  else if f.frameType = 0x01 then .static2
    { maxContentLightLevel := f.bodyBe16 2
      maxPicAverageLightLevel := f.bodyBe16 4 }
  else .other

/-- The entry of the frame. -/
def entry : KlvancS2108_1Frame where
  frameType := f.frameType
  frameLength := f.frameLength
  body := f.metadata

/-- The octets of the body that are read. -/
def octetsRead : ℕ := frameOctets f.frameType f.frameLength

/-- The octets of the body that are left. -/
def tail : List Byte := f.body.drop f.octetsRead

/-- The entries of frames that stand one behind the other, each with the place where it starts, the
first one at `start`. -/
def placed : ℕ → List S2108_1WireFrame → List (ℕ × KlvancS2108_1Frame)
  | _, [] => []
  | start, f :: fs => (start, f.entry) :: placed (start + (f.body.length + 2)) fs

/-- Behind `k` frames the octets `l` are not taken for another one: there is no type and length, or
the frame would be cut off and has a place in the array. -/
def Stops (k : ℕ) (l : List Byte) : Prop :=
  ∀ frameType frameLength rest, l = frameType :: frameLength :: rest →
    k < maxS2108_1Frames ∧ rest.length < frameLength.toNat

/-- Behind `k` frames nothing is left of the frames but of the last one, and what is left of that is
not taken for another one. -/
def Strides (k : ℕ) : List S2108_1WireFrame → Prop
  | [] => True
  | [f] => Stops (k + 1) f.tail
  | f :: g :: fs => f.tail = [] ∧ Strides (k + 1) (g :: fs)

lemma frameLength_toNat : f.frameLength.toNat = f.body.length := by
  rw [frameLength, BitVec.toNat_ofNat, Nat.mod_eq_of_lt f.body_lt]

/-- What is read of a frame lies in it. -/
lemma octetsRead_le : f.octetsRead ≤ f.body.length := by
  have h2 := f.two_le
  unfold octetsRead frameOctets
  rw [frameLength_toNat]
  split_ifs with h₀ h₁
  · exact f.static1_le h₀
  · exact f.static2_le h₁
  · omega

end S2108_1WireFrame

/-! ### Values of octets -/

/-- An octet of a word. -/
lemma ofNat_shiftRight_eq {w s : ℕ} {v : BitVec w} {b : Byte}
    (h : ∀ i < 8, v.getLsbD (s + i) = b.getLsbD i) : BitVec.ofNat 8 (v.toNat >>> s) = b := by
  apply BitVec.eq_of_getLsbD_eq
  intro i hi
  rw [BitVec.getLsbD_ofNat, Nat.testBit_shiftRight, BitVec.testBit_toNat, h i hi]
  simp [hi]

/-- The octets of a 16-bit value. -/
lemma bigEndian_be16 (a b : Byte) : Bits.bigEndian 2 (be16 a b).toNat = [a, b] := by
  simp only [Bits.bigEndian, List.cons.injEq, and_true]
  refine ⟨ofNat_shiftRight_eq fun i hi => ?_, ofNat_shiftRight_eq fun i hi => ?_⟩ <;>
  · simp only [be16, BitVec.getLsbD_or, BitVec.getLsbD_shiftLeft, BitVec.getLsbD_setWidth]
    interval_cases i <;> simp

/-- The octets of a 32-bit value. -/
lemma bigEndian_be32 (a b c d : Byte) : Bits.bigEndian 4 (be32 a b c d).toNat = [a, b, c, d] := by
  simp only [Bits.bigEndian, List.cons.injEq, and_true]
  refine ⟨ofNat_shiftRight_eq fun i hi => ?_, ofNat_shiftRight_eq fun i hi => ?_,
    ofNat_shiftRight_eq fun i hi => ?_, ofNat_shiftRight_eq fun i hi => ?_⟩ <;>
  · simp only [be32, BitVec.getLsbD_or, BitVec.getLsbD_shiftLeft, BitVec.getLsbD_setWidth]
    interval_cases i <;> simp

/-- The octets of a list from a place on. -/
lemma drop_take_add {l : List Byte} (i m n : ℕ) :
    (l.drop i).take (m + n) = (l.drop i).take m ++ (l.drop (i + m)).take n := by
  rw [List.take_add, List.drop_drop]

section Values

variable {α : Type} {l : List Byte} {i n : ℕ} {a : α}

/-- A 16-bit value is read from its place. -/
lemma readBe16_bind (hi : i + 2 ≤ l.length) {f : Word → KlbsDecoder α}
    (hf : (f (be16 (l.getD i 0) (l.getD (i + 1) 0))).Yields
      (Bits.ofBytes ((l.drop (i + 2)).take n)) a) :
    (readBits 16 16 >>= f).Yields (Bits.ofBytes ((l.drop i).take (2 + n))) a := by
  have hpair : (l.drop i).take 2 = [l.getD i 0, l.getD (i + 1) 0] := by
    rw [List.getD_eq_getElem _ _ (by omega), List.getD_eq_getElem _ _ (by omega),
      List.drop_eq_getElem_cons (by omega), List.drop_eq_getElem_cons (by omega)]
    rfl
  rw [drop_take_add, Bits.ofBytes_append, hpair, ← bigEndian_be16, Bits.ofBytes_bigEndian]
  exact (Yields.readField (by norm_num) (BitVec.isLt _)).bind hf

/-- A 32-bit value is read from its place. -/
lemma readBe32_bind (hi : i + 4 ≤ l.length) {f : BitVec 32 → KlbsDecoder α}
    (hf : (f (be32 (l.getD i 0) (l.getD (i + 1) 0) (l.getD (i + 2) 0) (l.getD (i + 3) 0))).Yields
      (Bits.ofBytes ((l.drop (i + 4)).take n)) a) :
    (readBits 32 32 >>= f).Yields (Bits.ofBytes ((l.drop i).take (4 + n))) a := by
  have hquad : (l.drop i).take 4 =
      [l.getD i 0, l.getD (i + 1) 0, l.getD (i + 2) 0, l.getD (i + 3) 0] := by
    rw [List.getD_eq_getElem _ _ (by omega), List.getD_eq_getElem _ _ (by omega),
      List.getD_eq_getElem _ _ (by omega), List.getD_eq_getElem _ _ (by omega),
      List.drop_eq_getElem_cons (by omega), List.drop_eq_getElem_cons (by omega),
      List.drop_eq_getElem_cons (by omega), List.drop_eq_getElem_cons (by omega)]
    rfl
  rw [drop_take_add, Bits.ofBytes_append, hquad, ← bigEndian_be32, Bits.ofBytes_bigEndian]
  exact (Yields.readField (by norm_num) (BitVec.isLt _)).bind hf

/-- Two octets are skipped. -/
lemma skip16_bind (hi : i + 2 ≤ l.length) {f : Unit → KlbsDecoder α}
    (hf : (f ()).Yields (Bits.ofBytes ((l.drop (i + 2)).take n)) a) :
    (skipBits 16 >>= f).Yields (Bits.ofBytes ((l.drop i).take (2 + n))) a := by
  obtain ⟨u, hu⟩ := (Takes.skipBits 16).yields (Bits.ofBytes ((l.drop i).take 2)) (by
    rw [Bits.ofBytes_length, List.length_take, List.length_drop]
    omega)
  rw [drop_take_add, Bits.ofBytes_append]
  exact hu.bind hf

end Values

/-! ### One frame -/

/-- The metadata of a frame is read from its own body. -/
lemma parseS2108_1Body_yields (f : S2108_1WireFrame) :
    (skipBits 16 >>= fun _ => parseS2108_1Body f.frameType f.frameLength).Yields
      (Bits.ofBytes (f.body.take f.octetsRead)) f.metadata := by
  have h2 := f.two_le
  unfold S2108_1WireFrame.metadata
  split_ifs with h₀ h₁
  · have h26 := f.static1_le h₀
    have hread : f.octetsRead = 2 + (2 + (2 + (2 + (2 + (2 + (2 + (2 + (2 + (4 + (4 + 0)))))))))) :=
      congrArg (2 + ·) (if_pos h₀)
    rw [parseS2108_1Body, if_pos h₀, hread, ← List.drop_zero (l := f.body)]
    simp only [List.replicate, List.mapM_cons, List.mapM_nil, bind_assoc, pure_bind]
    refine skip16_bind (by omega) ?_
    refine readBe16_bind (by omega) (readBe16_bind (by omega) ?_)
    refine readBe16_bind (by omega) (readBe16_bind (by omega) ?_)
    refine readBe16_bind (by omega) (readBe16_bind (by omega) ?_)
    refine readBe16_bind (by omega) (readBe16_bind (by omega) ?_)
    exact readBe32_bind (by omega) (readBe32_bind (by omega) (.pure _))
  · have h6 := f.static2_le h₁
    have hread : f.octetsRead = 2 + (2 + (2 + 0)) :=
      congrArg (2 + ·) ((if_neg h₀).trans (if_pos h₁))
    rw [parseS2108_1Body, if_neg h₀, if_pos h₁, hread, ← List.drop_zero (l := f.body)]
    refine skip16_bind (by omega) ?_
    exact readBe16_bind (by omega) (readBe16_bind (by omega) (.pure _))
  · have hbits := @bodyBits_eq f.frameType f.frameLength fun _ _ => by rwa [f.frameLength_toNat]
    rw [bodyBits, if_neg h₀, if_neg h₁] at hbits
    rw [parseS2108_1Body, if_neg h₀, if_neg h₁]
    generalize 8 * (f.frameLength.toNat + 2 ^ 32 - 2) % 2 ^ 32 = k at hbits
    have hlen : (Bits.ofBytes (f.body.take f.octetsRead)).length = 16 + k := by
      rw [Bits.ofBytes_length, List.length_take, min_eq_left f.octetsRead_le, hbits]
      rfl
    obtain ⟨u, hu⟩ := ((Takes.skipBits 16).bind fun _ => Takes.skipBits k).yields _ hlen
    rw [← bind_assoc]
    exact hu.bind_pure fun _ => Smpte2108_1Body.other

/-! ### Where the parser starts the frames -/

/-- `klbs_get_byte_count`. -/
def byteCount : KlbsDecoder ℕ := do
  let ctx ← get
  pure (klbsGetByteCount ctx)

/-- The loop of `parse_SMPTE_2108_1` (`parseS2108_1Frames`), which also notes how many octets have
been consumed where a frame starts. -/
def parseS2108_1FramesAt (numFrames : ℕ) : ℕ → KlbsDecoder (List (ℕ × KlvancS2108_1Frame))
  | 0 => pure []
  | fuel + 1 => do
    let start ← byteCount
    let free ← byteCountFree
    if free < 2 then
      pure []
    else
      storeAt .frames maxS2108_1Frames numFrames
      let frameType ← readBits 8 8
      let frameLength ← readBits 8 8
      let free ← byteCountFree
      if free < frameLength.toNat then
        pure []
      else
        skipBits 16
        let body ← parseS2108_1Body frameType frameLength
        let rest ← parseS2108_1FramesAt (numFrames + 1) fuel
        pure ((start, { frameType, frameLength, body }) :: rest)

/-- Without the places it is the loop of the parser. -/
lemma map_snd_parseS2108_1FramesAt (k fuel : ℕ) :
    List.map Prod.snd <$> parseS2108_1FramesAt k fuel = parseS2108_1Frames k fuel := by
  induction fuel generalizing k with
  | zero => rfl
  | succ fuel ih =>
    have hskip : ∀ d : KlbsDecoder (List KlvancS2108_1Frame), (byteCount >>= fun _ => d) = d :=
      fun _ => rfl
    rw [parseS2108_1FramesAt, parseS2108_1Frames_succ, parseS2108_1Round]
    simp only [map_bind, apply_ite (List.map Prod.snd <$> ·), map_pure, List.map_nil, List.map_cons,
      ← ih, bind_map_left]
    rw [hskip]

/-! ### The loop -/

/-- Reading the body of a frame rejects nothing. -/
lemma parseS2108_1Body_total (frameType frameLength : Byte) :
    (parseS2108_1Body frameType frameLength).Total := by
  unfold parseS2108_1Body
  refine .ite ?_ (.ite ?_ ?_)
  · refine (Total.mapM (fun w => ?_) _).bind fun _ => (Total.readBits 16 16).bind fun _ =>
      (Total.readBits 16 16).bind fun _ => (Total.readBits 32 32).bind fun _ =>
        (Total.readBits 32 32).bind fun _ => .pure _
    exact (Total.readBits 16 w).bind fun _ => (Total.readBits 16 w).bind fun _ => .pure _
  · exact (Total.readBits 16 16).bind fun _ => (Total.readBits 16 16).bind fun _ => .pure _
  · exact (Total.skipBits _).bind fun _ => .pure _

/-- The octets consumed where whole octets are left. -/
lemma KlbsContext.Reads.byteCount_octets {ctx : KlbsContext} {l : List Byte}
    (h : ctx.Reads (Bits.ofBytes l)) : klbsGetByteCount ctx + l.length = ctx.buflen := by
  have hlen := h.length_eq
  have hlt := h.regUsed_lt
  have hused := h.used_le
  rw [Bits.ofBytes_length] at hlen
  rw [klbsGetByteCount]
  omega

section Loop

variable {k fuel : ℕ} {ctx : KlbsContext} {l rest : List Byte} {frameType frameLength : Byte}

/-- The loop goes on where a type and a length are left. -/
lemma parseS2108_1FramesAt_open
    (hreads : ctx.Reads (Bits.ofBytes (frameType :: frameLength :: rest)))
    (hk : k < maxS2108_1Frames) :
    ∃ ctx', ctx.Reaches ctx' rest ∧ ∀ fuel,
      (parseS2108_1FramesAt k (fuel + 1)).run.run ctx =
        (if rest.length < frameLength.toNat then pure []
          else skipBits 16 >>= fun _ => parseS2108_1Body frameType frameLength >>= fun body =>
            parseS2108_1FramesAt (k + 1) fuel >>= fun rest =>
              pure ((klbsGetByteCount ctx, { frameType, frameLength, body }) :: rest) :
          KlbsDecoder (List (ℕ × KlvancS2108_1Frame))).run.run ctx' := by
  obtain ⟨ctx₁, hrun₁, h₁⟩ := readBits_octet hreads
  obtain ⟨ctx₂, hrun₂, h₂⟩ := readBits_octet h₁.reads
  refine ⟨ctx₂, h₁.trans h₂, fun fuel => ?_⟩
  have hstart : byteCount.run.run ctx = (.ok (klbsGetByteCount ctx), ctx) := rfl
  rw [parseS2108_1FramesAt, run_bind_of_ok hstart, byteCountFree_bind_run _ hreads,
    if_neg (by simp), storeAt_of_lt hk, pure_bind, run_bind_of_ok hrun₁, run_bind_of_ok hrun₂,
    byteCountFree_bind_run _ h₂.reads]

/-- Where no type and length are left, the loop ends. -/
lemma parseS2108_1FramesAt_stop (hreads : ctx.Reads (Bits.ofBytes l)) (hlt : l.length < 2) :
    (parseS2108_1FramesAt k (fuel + 1)).run.run ctx = (.ok [], ctx) := by
  have hstart : byteCount.run.run ctx = (.ok (klbsGetByteCount ctx), ctx) := rfl
  rw [parseS2108_1FramesAt, run_bind_of_ok hstart, byteCountFree_bind_run _ hreads, if_pos hlt]
  rfl

/-- A frame is found, and the loop goes on behind what is read of it. -/
lemma parseS2108_1FramesAt_frame {f : S2108_1WireFrame} {post : List Byte}
    (hreads : ctx.Reads (Bits.ofBytes (f.octets ++ post))) (hk : k < maxS2108_1Frames) :
    ∃ ctx', ctx.Reaches ctx' (f.tail ++ post) ∧ ∀ fuel,
      (parseS2108_1FramesAt k (fuel + 1)).run.run ctx =
        (parseS2108_1FramesAt (k + 1) fuel >>= fun rest =>
          pure ((klbsGetByteCount ctx, f.entry) :: rest)).run.run ctx' := by
  obtain ⟨ctx₁, h₁, hrun₁⟩ :=
    @parseS2108_1FramesAt_open k ctx (f.body ++ post) f.frameType f.frameLength hreads hk
  have hreads₁ := h₁.reads
  have hsplit : f.body ++ post = f.body.take f.octetsRead ++ (f.tail ++ post) := by
    rw [S2108_1WireFrame.tail, ← List.append_assoc, List.take_append_drop]
  have hle : ¬(f.body ++ post).length < f.frameLength.toNat := by
    rw [List.length_append, f.frameLength_toNat]
    omega
  rw [hsplit] at hreads₁
  obtain ⟨ctx₂, hrun₂, h₂⟩ := (parseS2108_1Body_yields f).reaches hreads₁
  refine ⟨ctx₂, h₁.trans h₂, fun fuel => ?_⟩
  rw [hrun₁, if_neg hle, ← bind_assoc, run_bind_of_ok hrun₂]
  rfl

/-- The first frame found starts where the loop does. -/
lemma parseS2108_1FramesAt_head {start : ℕ} {entry : KlvancS2108_1Frame}
    {found : List (ℕ × KlvancS2108_1Frame)} {ctx' : KlbsContext}
    (hrun : (parseS2108_1FramesAt k fuel).run.run ctx = (.ok ((start, entry) :: found), ctx')) :
    start = klbsGetByteCount ctx := by
  have hstart : byteCount.run.run ctx = (.ok (klbsGetByteCount ctx), ctx) := rfl
  have hnil : (pure [] : KlbsDecoder (List (ℕ × KlvancS2108_1Frame))).Ensures fun found =>
      ∀ p ∈ found.head?, p.1 = klbsGetByteCount ctx := .pure (by simp)
  cases fuel with
  | zero => cases hrun
  | succ fuel =>
    rw [parseS2108_1FramesAt, run_bind_of_ok hstart] at hrun
    refine @Ensures.bind_right _ _ _ _ (fun found => ∀ p ∈ found.head?, p.1 = klbsGetByteCount ctx)
      (fun free => ?_) ctx _ ctx' hrun (start, entry) rfl
    split_ifs
    · exact hnil
    · refine .bind_right fun _ => .bind_right fun _ => .bind_right fun _ => .bind_right fun _ => ?_
      split_ifs
      · exact hnil
      · exact .bind_right fun _ => .bind_right fun _ => .bind_right fun _ => .pure (by simp)

/-- The loop rejects nothing. -/
lemma parseS2108_1FramesAt_total (k fuel : ℕ) : (parseS2108_1FramesAt k fuel).Total := by
  induction fuel generalizing k with
  | zero => exact .pure []
  | succ fuel ih =>
    have hstore : (storeAt .frames maxS2108_1Frames k).Total := by
      unfold storeAt
      exact .ite (.pure ()) fun _ => ⟨_, _, rfl⟩
    refine Total.bind (fun _ => ⟨_, _, rfl⟩) fun _ => Total.byteCountFree.bind fun _ =>
      .ite (.pure []) ?_
    refine hstore.bind fun _ => (Total.readBits 8 8).bind fun _ =>
      (Total.readBits 8 8).bind fun _ =>
      Total.byteCountFree.bind fun _ => .ite (.pure []) ?_
    exact (Total.skipBits 16).bind fun _ => (parseS2108_1Body_total _ _).bind fun _ =>
      (ih (k + 1)).bind fun _ => .pure _

/-- The loop finds nothing more, and meets no fault, exactly where the octets left are not taken for
another frame. -/
lemma parseS2108_1FramesAt_nil_iff (hreads : ctx.Reads (Bits.ofBytes l)) (hsafe : ctx.faults = []) :
    (∃ ctx', (parseS2108_1FramesAt k (fuel + 1)).run.run ctx = (.ok [], ctx') ∧
      ctx'.faults = []) ↔ S2108_1WireFrame.Stops k l := by
  constructor
  · rintro ⟨ctx', hrun, hfaults⟩ frameType frameLength rest rfl
    have hk : k < maxS2108_1Frames := by
      by_contra hge
      have hframes := @parseS2108_1Frames_faults k fuel ctx rest frameType frameLength hreads
        (not_lt.mp hge)
      rw [← map_snd_parseS2108_1FramesAt, ← bind_pure_comp, run_bind_of_ok hrun] at hframes
      exact hframes hfaults
    obtain ⟨ctx₁, h₁, hrun₁⟩ := parseS2108_1FramesAt_open hreads hk
    refine ⟨hk, ?_⟩
    by_contra hge
    rw [hrun₁, if_neg hge] at hrun
    obtain ⟨_, ctx₂, hskip⟩ := Total.skipBits 16 ctx₁
    rw [run_bind_of_ok hskip] at hrun
    obtain ⟨body, ctx₃, hbody⟩ := parseS2108_1Body_total frameType frameLength ctx₂
    rw [run_bind_of_ok hbody] at hrun
    obtain ⟨found, ctx₄, hfound⟩ := parseS2108_1FramesAt_total (k + 1) fuel ctx₃
    rw [run_bind_of_ok hfound] at hrun
    cases hrun
  · intro hstops
    by_cases hlt : l.length < 2
    · exact ⟨ctx, parseS2108_1FramesAt_stop hreads hlt, hsafe⟩
    · obtain ⟨frameType, frameLength, rest, rfl⟩ := exists_frame_head hlt
      obtain ⟨hk, hcut⟩ := hstops _ _ _ rfl
      obtain ⟨ctx', h', hrun⟩ := parseS2108_1FramesAt_open hreads hk
      refine ⟨ctx', ?_, h'.faults_eq.trans hsafe⟩
      rw [hrun, if_pos hcut]
      rfl

/-- The loop finds the frames that stand one behind the other where they start, and nothing else,
and meets no fault, exactly when nothing but the last one leaves anything that it could stumble
over. -/
lemma parseS2108_1FramesAt_iff {frames : List S2108_1WireFrame}
    (hreads : ctx.Reads (Bits.ofBytes (frames.flatMap (·.octets)))) (hsafe : ctx.faults = [])
    (hk : k + frames.length ≤ maxS2108_1Frames) (hfuel : frames.length < fuel) :
    (∃ ctx', (parseS2108_1FramesAt k fuel).run.run ctx =
        (.ok (S2108_1WireFrame.placed (klbsGetByteCount ctx) frames), ctx') ∧ ctx'.faults = []) ↔
      S2108_1WireFrame.Strides k frames := by
  induction frames generalizing k fuel ctx with
  | nil =>
    obtain ⟨fuel, rfl⟩ := Nat.exists_eq_succ_of_ne_zero (by omega : fuel ≠ 0)
    refine iff_of_true ⟨ctx, ?_, hsafe⟩ trivial
    exact parseS2108_1FramesAt_stop hreads (by simp)
  | cons f fs ih =>
    obtain ⟨fuel, rfl⟩ := Nat.exists_eq_succ_of_ne_zero (by omega : fuel ≠ 0)
    rw [List.length_cons] at hk hfuel
    have hstart := hreads.byteCount_octets
    rw [List.flatMap_cons] at hreads hstart
    obtain ⟨ctx₁, h₁, hrun₁⟩ := parseS2108_1FramesAt_frame hreads (by omega : k < maxS2108_1Frames)
    have hsafe₁ := h₁.faults_eq.trans hsafe
    have hstart₁ := h₁.reads.byteCount_octets
    rw [h₁.buflen_eq, ← hstart] at hstart₁
    have hoctets : f.octets.length = f.body.length + 2 := rfl
    simp only [List.length_append, hoctets] at hstart₁
    -- what the loop finds behind the first frame
    have hbehind : (∃ ctx', (parseS2108_1FramesAt k (fuel + 1)).run.run ctx =
        (.ok (S2108_1WireFrame.placed (klbsGetByteCount ctx) (f :: fs)), ctx') ∧
          ctx'.faults = []) ↔
        ∃ ctx', (parseS2108_1FramesAt (k + 1) fuel).run.run ctx₁ =
          (.ok (S2108_1WireFrame.placed (klbsGetByteCount ctx + (f.body.length + 2)) fs), ctx') ∧
            ctx'.faults = [] := by
      obtain ⟨found, ctx₂, hfound⟩ := parseS2108_1FramesAt_total (k + 1) fuel ctx₁
      rw [hrun₁, run_bind_of_ok hfound, hfound]
      constructor
      · rintro ⟨ctx', hrun, hfaults⟩
        cases hrun
        exact ⟨_, rfl, hfaults⟩
      · rintro ⟨ctx', hrun, hfaults⟩
        cases hrun
        exact ⟨_, rfl, hfaults⟩
    have hreads₁ := h₁.reads
    rw [hbehind]
    cases fs with
    | nil =>
      obtain ⟨fuel, rfl⟩ := Nat.exists_eq_succ_of_ne_zero (by omega : fuel ≠ 0)
      rw [List.flatMap_nil, List.append_nil] at hreads₁
      exact parseS2108_1FramesAt_nil_iff hreads₁ hsafe₁
    | cons g gs =>
      constructor
      · rintro ⟨ctx', hrun, hfaults⟩
        have hhead := parseS2108_1FramesAt_head hrun
        have htail : f.tail = [] := List.eq_nil_of_length_eq_zero (by omega)
        rw [htail, List.nil_append] at hreads₁
        rw [hhead] at hrun
        exact ⟨htail, (ih hreads₁ hsafe₁ (by omega) (by omega)).mp ⟨ctx', hrun, hfaults⟩⟩
      · rintro ⟨htail, hstrides⟩
        rw [htail, List.nil_append] at hreads₁
        have hplace : klbsGetByteCount ctx₁ = klbsGetByteCount ctx + (f.body.length + 2) := by
          rw [htail, List.length_nil] at hstart₁
          omega
        rw [← hplace]
        exact (ih hreads₁ hsafe₁ (by omega) (by omega)).mpr hstrides

end Loop

/-! ### The parser -/

/-- The parser honours the lengths of the frames of the payload: it delivers them as they are, and
starts each of them behind the one before. -/
structure HonoursLengths (frames : List S2108_1WireFrame) (hdr : KlvancPacketHeader) : Prop where
  safe : (parseSMPTE2108_1 hdr).Safe
  delivered : ∃ pkt, (parseSMPTE2108_1 hdr).val = .ok pkt ∧ pkt.frames = frames.map (·.entry)
  starts : ((parseS2108_1FramesAt 0 (hdr.payloadLengthWords + 2)).run.run (payloadReader hdr)).1 =
    .ok (S2108_1WireFrame.placed 0 frames)

/-- The frames found, without their places. -/
lemma S2108_1WireFrame.placed_map_snd (start : ℕ) (frames : List S2108_1WireFrame) :
    (placed start frames).map Prod.snd = frames.map (·.entry) := by
  induction frames generalizing start with
  | nil => rfl
  | cons f fs ih => rw [placed, List.map_cons, List.map_cons, ih]

/-- A frame has two octets or more. -/
lemma S2108_1WireFrame.length_le (frames : List S2108_1WireFrame) :
    frames.length ≤ (frames.flatMap (·.octets)).length := by
  induction frames with
  | nil => exact le_rfl
  | cons f fs ih =>
    have hoctets : f.octets.length = f.body.length + 2 := rfl
    rw [List.flatMap_cons, List.length_append, List.length_cons, hoctets]
    omega

/-- `parse_SMPTE_2108_1` honours the lengths of the at most ten frames of a payload exactly when
nothing is left of any of them but the last one, and what is left of that is not taken for another
one. -/
theorem parseSMPTE2108_1_honours_iff {frames : List S2108_1WireFrame} {hdr : KlvancPacketHeader}
    (h : hdr.payload.length ≤ 255)
    (hcarry : hdr.payload.map lowByte = frames.flatMap (·.octets)) (hcount : frames.length ≤ 10) :
    HonoursLengths frames hdr ↔ S2108_1WireFrame.Strides 0 frames := by
  have hreads := payloadReader_reads h
  have hlen : (hdr.payload.map lowByte).length = hdr.payloadLengthWords := List.length_map _
  have hframes := S2108_1WireFrame.length_le frames
  rw [hcarry] at hreads hlen
  have hiff := @parseS2108_1FramesAt_iff 0 (hdr.payloadLengthWords + 2) _ frames hreads rfl
    ((Nat.zero_add _).trans_le hcount) (by omega)
  have hzero : klbsGetByteCount (payloadReader hdr) = 0 := rfl
  rw [hzero] at hiff
  obtain ⟨found, ctx, hfound⟩ :=
    parseS2108_1FramesAt_total 0 (hdr.payloadLengthWords + 2) (payloadReader hdr)
  have hparse : parseSMPTE2108_1 hdr =
      ⟨.ok ⟨hdr.payload.map lowByte, hdr.payloadLengthWords, found.map Prod.snd⟩, ctx.faults⟩ := by
    rw [parseSMPTE2108_1_eq, deliverFrames, ← map_snd_parseS2108_1FramesAt, bind_map_left,
      run_bind_of_ok hfound]
    rfl
  rw [← hiff]
  constructor
  · rintro ⟨hsafe, -, hstarts⟩
    rw [hfound] at hstarts
    rw [hparse] at hsafe
    exact ⟨ctx, hfound.trans (Prod.ext hstarts rfl), hsafe⟩
  · rintro ⟨ctx', hrun, hfaults⟩
    rw [hfound] at hrun
    cases hrun
    refine ⟨?_, ?_, ?_⟩
    · rw [hparse]
      exact hfaults
    · refine ⟨_, congrArg Checked.val hparse, ?_⟩
      exact S2108_1WireFrame.placed_map_snd 0 frames
    · rw [hfound]

/-- The content light levels, in a frame that is as long as they are. -/
def exactLightLevels : S2108_1WireFrame where
  frameType := 0x01
  body := [0x90, 0x04, 0x03, 0xe8, 0x01, 0x90]
  body_lt := by decide
  two_le := by decide
  static1_le h := absurd h (by decide)
  static2_le _ := by decide

/-- The lengths of the packet of content light levels are honoured. -/
theorem parseSMPTE2108_1_honours_exact :
    HonoursLengths [exactLightLevels] lightLevelFrame.onLine := by
  refine (parseSMPTE2108_1_honours_iff (by decide) (by decide +kernel) (by decide)).mpr ?_
  intro frameType frameLength rest htail
  have hnil : exactLightLevels.tail = [] := by decide
  rw [hnil] at htail
  cases htail

/-- The content light levels, in a frame with two octets more. -/
def longLightLevels : S2108_1WireFrame where
  frameType := 0x01
  body := [0x90, 0x04, 0x03, 0xe8, 0x01, 0x90, 0x07, 0x02]
  body_lt := by decide
  two_le := by decide
  static1_le h := absurd h (by decide)
  static2_le _ := by decide

/-- A frame of dynamic metadata. -/
def dynamicFrame : S2108_1WireFrame where
  frameType := 0x06
  body := [0x12, 0x34]
  body_lt := by decide
  two_le := by decide
  static1_le h := absurd h (by decide)
  static2_le h := absurd h (by decide)

/-- A packet of both. -/
def longLightLevelPacket : SdiPacket :=
  .ofBytes 0x41 0x0c (longLightLevels.octets ++ dynamicFrame.octets)
    (Eq.refl true)

/-- What is left of the first frame is taken for the second one, whose type is lost. -/
theorem not_parseSMPTE2108_1_honours_long :
    ¬∀ (frames : List S2108_1WireFrame) (hdr : KlvancPacketHeader), hdr.payload.length ≤ 255 →
      hdr.payload.map lowByte = frames.flatMap (·.octets) → frames.length ≤ 10 →
        HonoursLengths frames hdr := by
  intro h
  have hcarry : longLightLevelPacket.onLine.payload.map lowByte =
      [longLightLevels, dynamicFrame].flatMap (·.octets) := by
    decide +kernel
  obtain ⟨-, ⟨pkt, hparse, hframes⟩, -⟩ := h [longLightLevels, dynamicFrame]
    longLightLevelPacket.onLine (by decide) hcarry (by decide)
  have hfound : (parseSMPTE2108_1 longLightLevelPacket.onLine).val =
      .ok ⟨longLightLevelPacket.bytes, 14, [longLightLevels.entry, ⟨0x07, 0x02, .other⟩]⟩ := by
    decide +kernel
  rw [hfound] at hparse
  cases hparse
  exact absurd hframes (by decide)

end Libklvanc
