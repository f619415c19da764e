import Libklvanc.Core.LineScan

/-!
# Truncated service packets

The decoders of active format description, EIA-608 captions, subtitling description packets and the
counter do not check how many words the payload has, and take the zeros behind it for fields. The
functions of this file are these decoders with the payload as the object that is read, so that they
are safe when every field lies inside it; for a packet of each service this is so from a certain
length on (`KlvancPacketHeader.HoldsFields`). A line is taken apart as it should be just when all of
the packets found on it that are decoded have this length (`klvancPacketParse_backed_iff`).
-/

namespace Libklvanc

/-- `sanitizeWord(payload[i])`; an index behind the payload is recorded. -/
def readPayload (hdr : KlvancPacketHeader) (i : ℕ) : Checked ℕ Byte :=
  lowByte <$> readWord hdr.payload i

/-- The 16-bit value of the octets at `i` and `i + 1` of the payload. -/
def readPayloadBe16 (hdr : KlvancPacketHeader) (i : ℕ) : Checked ℕ Word := do
  let hi ← readPayload hdr i
  let lo ← readPayload hdr (i + 1)
  pure (be16 hi lo)

section Read

variable (hdr : KlvancPacketHeader) {i : ℕ}

@[simp] lemma readPayload_val : (readPayload hdr i).val = hdr.payloadByte i := by
  simp [readPayload, KlvancPacketHeader.payloadByte, KlvancPacketHeader.payloadWord]

@[simp] lemma safe_readPayload : (readPayload hdr i).Safe ↔ i < hdr.payloadLengthWords := by
  simp [readPayload, KlvancPacketHeader.payloadLengthWords]

@[simp] lemma readPayloadBe16_val : (readPayloadBe16 hdr i).val = hdr.payloadBe16 i := by
  simp [readPayloadBe16, KlvancPacketHeader.payloadBe16]

@[simp] lemma safe_readPayloadBe16 :
    (readPayloadBe16 hdr i).Safe ↔ i + 1 < hdr.payloadLengthWords := by
  simp [readPayloadBe16]
  omega

end Read

/-! ### Active format description -/

/-- `parse_AFD`. -/
def readAFD (hdr : KlvancPacketHeader) : Checked ℕ (Except ℤ KlvancPacketAfd) := do
  let w₀ ← readPayload hdr 0
  let w₃ ← readPayload hdr 3
  let pkt : KlvancPacketAfd :=
    { aspectRatio := if w₀ &&& 0x04 ≠ 0 then .aspect16x9 else .aspect4x3
      afd := (w₀ >>> 3 &&& 0x0f).setWidth 32
      barDataFlags := (w₃ >>> 4).setWidth 32 }
  if pkt.barDataFlags = barsTopBottom then do
    let top ← readPayloadBe16 hdr 4
    let bottom ← readPayloadBe16 hdr 6
    pure (.ok { pkt with top, bottom })
  else if pkt.barDataFlags = barsLeftRight then do
    let left ← readPayloadBe16 hdr 4
    let right ← readPayloadBe16 hdr 6
    pure (.ok { pkt with left, right })
  else pure (.ok pkt)

/-- How many words an AFD packet needs: eight with bars, and four without. -/
def afdWords (hdr : KlvancPacketHeader) : ℕ :=
  if hdr.payloadByte 3 >>> 4 = 0x0c ∨ hdr.payloadByte 3 >>> 4 = 0x03 then 8 else 4

lemma readAFD_val (hdr : KlvancPacketHeader) : (readAFD hdr).val = parseAFD hdr := by
  simp only [readAFD, parseAFD, Checked.bind_val, readPayload_val]
  split_ifs <;> simp

/-- An octet keeps its value in an enumeration. -/
lemma setWidth_inj {a b : Byte} : a.setWidth 32 = b.setWidth 32 ↔ a = b := by
  refine ⟨fun h => BitVec.eq_of_toNat_eq ?_, fun h => congrArg _ h⟩
  have hnat := congrArg BitVec.toNat h
  rw [BitVec.toNat_setWidth, BitVec.toNat_setWidth] at hnat
  omega

lemma safe_readAFD {hdr : KlvancPacketHeader} :
    (readAFD hdr).Safe ↔ afdWords hdr ≤ hdr.payloadLengthWords := by
  have htop : (hdr.payloadByte 3 >>> 4).setWidth 32 = barsTopBottom ↔
      hdr.payloadByte 3 >>> 4 = 0x0c := @setWidth_inj _ 0x0c
  have hleft : (hdr.payloadByte 3 >>> 4).setWidth 32 = barsLeftRight ↔
      hdr.payloadByte 3 >>> 4 = 0x03 := @setWidth_inj _ 0x03
  simp only [readAFD, Checked.safe_bind, safe_readPayload, readPayload_val, htop, hleft, afdWords]
  by_cases h₁ : hdr.payloadByte 3 >>> 4 = 0x0c
  · rw [if_pos h₁, if_pos (Or.inl h₁)]
    simp
    omega
  · by_cases h₂ : hdr.payloadByte 3 >>> 4 = 0x03
    · rw [if_neg h₁, if_pos h₂, if_pos (Or.inr h₂)]
      simp
      omega
    · rw [if_neg h₁, if_neg h₂, if_neg (not_or.mpr ⟨h₁, h₂⟩)]
      simp
      omega

/-! ### EIA-608 captions -/

/-- `parse_EIA_608`. -/
def readEIA608 (hdr : KlvancPacketHeader) : Checked ℕ (Except ℤ KlvancPacketEia608) := do
  let w₀ ← readPayload hdr 0
  let w₁ ← readPayload hdr 1
  let w₂ ← readPayload hdr 2
  pure (.ok
    { payload := (w₀, w₁, w₂)
      field := if w₀ &&& 0x80 ≠ 0 then 0 else 1
      lineOffset := (w₀ &&& 0x1f).setWidth 32
      ccData1 := w₁
      ccData2 := w₂ })

lemma readEIA608_val (hdr : KlvancPacketHeader) : (readEIA608 hdr).val = parseEIA608 hdr := by
  simp [readEIA608, parseEIA608]

lemma safe_readEIA608 {hdr : KlvancPacketHeader} :
    (readEIA608 hdr).Safe ↔ 3 ≤ hdr.payloadLengthWords := by
  simp [readEIA608]
  omega

/-! ### The 64-bit counter -/

/-- `parse_KL_U64LE_COUNTER`. -/
def readKLU64LECounter (hdr : KlvancPacketHeader) :
    Checked ℕ (Except ℤ KlvancPacketKlU64leCounter) := do
  let counter ← (List.range 8).foldlM (fun (counter : BitVec 64) i => do
    let w ← readPayload hdr i
    pure (counter ||| w.setWidth 64 <<< (56 - 8 * i))) 0
  pure (.ok { counter })

lemma readKLU64LECounter_val (hdr : KlvancPacketHeader) :
    (readKLU64LECounter hdr).val = parseKLU64LECounter hdr := by
  have hcells : List.range 8 = [0, 1, 2, 3, 4, 5, 6, 7] := rfl
  simp [readKLU64LECounter, parseKLU64LECounter, hcells]

lemma safe_readKLU64LECounter {hdr : KlvancPacketHeader} :
    (readKLU64LECounter hdr).Safe ↔ 8 ≤ hdr.payloadLengthWords := by
  have hcells : List.range 8 = [0, 1, 2, 3, 4, 5, 6, 7] := rfl
  simp [readKLU64LECounter, hcells]
  omega

/-! ### Subtitling description packets -/

/-- The loop of `parse_SDP`. -/
def readSDPDescriptors (hdr : KlvancPacketHeader) (payloadBIndex : ℕ) :
    ℕ → ℕ → Checked ℕ (List KlvancSdpDesc × ℕ)
  | _, 0 => pure ([], payloadBIndex)
  | i, count + 1 => do
    let w ← readPayload hdr (4 + i)
    let desc : KlvancSdpDesc := { line := w &&& 0x1f, field := w >>> 7 }
    if w ≠ 0 then do
      let data ← copyWords hdr.payload (9 + 45 * payloadBIndex) 45
      let (rest, last) ← readSDPDescriptors hdr (payloadBIndex + 1) (i + 1) count
      pure ({ desc with data := data.map lowByte } :: rest, last)
    else do
      let (rest, last) ← readSDPDescriptors hdr payloadBIndex (i + 1) count
      pure (desc :: rest, last)

/-- `parse_SDP`. -/
def readSDP (hdr : KlvancPacketHeader) : Checked ℕ (Except ℤ KlvancPacketSdp) := do
  let w₀ ← readPayload hdr 0
  let w₁ ← readPayload hdr 1
  if w₀ ≠ 0x51 ∨ w₁ ≠ 0x15 then pure (.error (-einval))
  else do
    let length ← readPayload hdr 2
    let formatCode ← readPayload hdr 3
    let count := min (length.toNat - 8) 5
    let (descriptors, payloadBIndex) ← readSDPDescriptors hdr 0 0 count
    let sequenceCounter ← readPayloadBe16 hdr (9 + 45 * payloadBIndex + 1)
    pure (.ok
      { identifier := be16 w₀ w₁
        formatCode
        descriptors := descriptors ++ List.replicate (5 - count) {}
        sequenceCounter })

/-- How many words an SDP packet needs: its identifiers, its descriptors and its sequence counter
are among twelve of them, and every descriptor that is not zero selects 45 more. -/
def sdpWords (hdr : KlvancPacketHeader) : ℕ :=
  12 + 45 * (List.range (min ((hdr.payloadByte 2).toNat - 8) 5)).countP fun i =>
    hdr.payloadByte (4 + i) ≠ 0

/-- The words of a block, also where they lie behind the payload. -/
lemma copyWords_val (l : List Word) (start count : ℕ) :
    (copyWords l start count).val = (List.range count).map fun j => l.getD (start + j) 0 := by
  induction count generalizing start with
  | zero => rfl
  | succ count ih =>
    rw [copyWords, Checked.readRange, Checked.bind_val, Checked.bind_val, Checked.pure_val,
      Checked.read_val, List.range_succ_eq_map, List.map_cons, List.map_map]
    refine congrArg _ ((ih (start + 1)).trans (List.map_congr_left fun j _ => ?_))
    rw [Function.comp_apply, Nat.succ_add_eq_add_succ, Nat.succ_eq_add_one]

lemma readSDPDescriptors_val (hdr : KlvancPacketHeader) (payloadBIndex i count : ℕ) :
    (readSDPDescriptors hdr payloadBIndex i count).val =
      parseSDPDescriptors hdr payloadBIndex i count := by
  induction count generalizing payloadBIndex i with
  | zero => rfl
  | succ count ih =>
    have hdata : (copyWords hdr.payload (9 + 45 * payloadBIndex) 45).val.map lowByte =
        (List.range 45).map fun j => hdr.payloadByte (9 + 45 * payloadBIndex + j) := by
      rw [copyWords_val, List.map_map]
      rfl
    rw [readSDPDescriptors, parseSDPDescriptors, Checked.bind_val, readPayload_val]
    dsimp only
    split_ifs with hw
    · rw [Checked.bind_val, Checked.bind_val, ih, hdata]
      rfl
    · rw [Checked.bind_val, ih]
      rfl

lemma readSDP_val (hdr : KlvancPacketHeader) : (readSDP hdr).val = parseSDP hdr := by
  rw [readSDP, parseSDP]
  simp only [Checked.bind_val, readPayload_val]
  split_ifs with hids
  · rfl
  · simp [readSDPDescriptors_val, KlvancPacketHeader.payloadBe16]

/-- The loop counts the descriptors that are not zero. -/
lemma parseSDPDescriptors_snd (hdr : KlvancPacketHeader) (payloadBIndex i count : ℕ) :
    (parseSDPDescriptors hdr payloadBIndex i count).2 =
      payloadBIndex + (List.range' i count).countP fun i => hdr.payloadByte (4 + i) ≠ 0 := by
  induction count generalizing payloadBIndex i with
  | zero => rfl
  | succ count ih =>
    rw [parseSDPDescriptors, List.range'_succ]
    dsimp only
    split_ifs with hw
    · rw [List.countP_cons_of_pos (by simpa using hw)]
      dsimp only
      rw [ih]
      omega
    · rw [List.countP_cons_of_neg (by simpa using hw)]
      exact ih _ _

/-- The loop reads inside a payload that has words behind the last block. -/
lemma safe_readSDPDescriptors {hdr : KlvancPacketHeader} {payloadBIndex i count : ℕ}
    (hi : i + count ≤ 5)
    (h : 9 + 45 * (parseSDPDescriptors hdr payloadBIndex i count).2 ≤ hdr.payloadLengthWords) :
    (readSDPDescriptors hdr payloadBIndex i count).Safe := by
  induction count generalizing payloadBIndex i with
  | zero => exact Checked.safe_pure _
  | succ count ih =>
    have hlast := parseSDPDescriptors_snd hdr (payloadBIndex + 1) (i + 1) count
    rw [parseSDPDescriptors] at h
    dsimp only at h
    rw [readSDPDescriptors, Checked.safe_bind, safe_readPayload, readPayload_val]
    dsimp only
    split_ifs at h ⊢ with hw
    · refine ⟨by dsimp only at h; omega, ?_⟩
      rw [Checked.safe_bind, Checked.safe_bind]
      refine ⟨Checked.safe_readRange _ _ _ |>.mpr (Or.inr ?_), ih (by omega) h, Checked.safe_pure _⟩
      have hlen : hdr.payload.length = hdr.payloadLengthWords := rfl
      dsimp only at h
      omega
    · refine ⟨by dsimp only at h; omega, ?_⟩
      rw [Checked.safe_bind]
      exact ⟨ih (by omega) h, Checked.safe_pure _⟩

/-- The identifiers of a subtitling description packet. -/
def HasSdpIdentifiers (hdr : KlvancPacketHeader) : Prop :=
  hdr.payloadByte 0 = 0x51 ∧ hdr.payloadByte 1 = 0x15

instance : DecidablePred HasSdpIdentifiers := fun _ => inferInstanceAs (Decidable (_ ∧ _))

lemma safe_readSDP {hdr : KlvancPacketHeader} (hids : HasSdpIdentifiers hdr) :
    (readSDP hdr).Safe ↔ sdpWords hdr ≤ hdr.payloadLengthWords := by
  have hnot : ¬(hdr.payloadByte 0 ≠ 0x51 ∨ hdr.payloadByte 1 ≠ 0x15) := by
    rintro (hne | hne)
    · exact hne hids.1
    · exact hne hids.2
  have hcount : sdpWords hdr =
      12 + 45 * (parseSDPDescriptors hdr 0 0 (min ((hdr.payloadByte 2).toNat - 8) 5)).2 := by
    rw [parseSDPDescriptors_snd, Nat.zero_add, ← List.range_eq_range', sdpWords]
  rw [hcount]
  simp only [readSDP, Checked.safe_bind, safe_readPayload, readPayload_val, if_neg hnot,
    readSDPDescriptors_val, safe_readPayloadBe16, Checked.safe_pure, and_true]
  constructor
  · rintro ⟨-, -, -, -, -, hlast⟩
    omega
  · intro hlen
    refine ⟨by omega, by omega, by omega, by omega, safe_readSDPDescriptors ?_ (by omega), by omega⟩
    rw [Nat.zero_add]
    exact min_le_right _ _

/-! ### Packets on a line -/

/-- The callback of a service whose decoder does not check the length of the payload. -/
def serviceCallback : KlvancPacketType → KlvancCallbacks → Bool
  | .afd => (·.afd)
  | .eia608 => (·.eia608)
  | .klUint64Counter => (·.klI64leCounter)
  | .sdp => (·.sdp)
  | _ => fun _ => false

namespace KlvancPacketHeader

/-- The decoder of the packet's service reads inside the payload. -/
def ReadsInside (hdr : KlvancPacketHeader) : Prop :=
  match hdr.type with
  | .afd => (readAFD hdr).Safe
  | .eia608 => (readEIA608 hdr).Safe
  | .klUint64Counter => (readKLU64LECounter hdr).Safe
  | .sdp => (readSDP hdr).Safe
  | _ => True

/-- The payload has as many words as the fields of the packet need. -/
def HoldsFields (hdr : KlvancPacketHeader) : Prop :=
  match hdr.type with
  | .afd => afdWords hdr ≤ hdr.payloadLengthWords
  | .eia608 => 3 ≤ hdr.payloadLengthWords
  | .klUint64Counter => 8 ≤ hdr.payloadLengthWords
  | .sdp => HasSdpIdentifiers hdr → sdpWords hdr ≤ hdr.payloadLengthWords
  | _ => True

end KlvancPacketHeader

/-- Every field that the call hands over comes from inside the payload. -/
def KlvancCall.Backed : KlvancCall → Prop
  | .afd hdr pkt => hdr.checksumValid = true → readAFD hdr = pure (.ok pkt)
  | .eia608 hdr pkt => hdr.checksumValid = true → readEIA608 hdr = pure (.ok pkt)
  | .klI64leCounter hdr pkt => hdr.checksumValid = true → readKLU64LECounter hdr = pure (.ok pkt)
  | .sdp hdr pkt => hdr.checksumValid = true → readSDP hdr = pure (.ok pkt)
  | _ => True

/-- All calls made are backed. -/
def KlvancRun.Backed (run : KlvancRun) : Prop := ∀ call ∈ run.calls, call.Backed

section Decoders

variable {run : KlvancRun} {hdr : KlvancPacketHeader}

lemma backed_call {call : KlvancCall} :
    (run.call call).Backed ↔ run.Backed ∧ call.Backed := by
  rw [KlvancRun.Backed, KlvancRun.call_calls, List.forall_mem_append, List.forall_mem_singleton]
  rfl

/-- A decoder makes a call, which is backed if it reads inside the payload. -/
lemma backed_runDecoder {α : Type} {cb : KlvancCallbacks → Bool}
    {decode : KlvancPacketHeader → Except ℤ α} {read : KlvancPacketHeader → Checked ℕ (Except ℤ α)}
    {mkCall : KlvancPacketHeader → α → KlvancCall} (hval : (read hdr).val = decode hdr)
    (hbacked : ∀ pkt, (mkCall hdr pkt).Backed ↔
      (hdr.checksumValid = true → read hdr = pure (.ok pkt))) :
    (runDecoder run hdr cb (fun hdr => pure (decode hdr)) mkCall).2.Backed ↔
      run.Backed ∧ (hdr.checksumValid = true → run.ctx.registered cb = true →
        (∃ pkt, decode hdr = .ok pkt) → (read hdr).Safe) := by
  rw [runDecoder]
  split_ifs with hreg
  · dsimp only [Checked.pure_val, Checked.pure_faults]
    rw [KlvancRun.addFaults_nil]
    cases hdecode : decode hdr with
    | error ret => simp
    | ok pkt =>
      have hsafe : read hdr = pure (.ok pkt) ↔ (read hdr).Safe :=
        ⟨fun h => h ▸ Checked.safe_pure _, fun h => Checked.ext (hval.trans hdecode) h⟩
      dsimp only
      rw [backed_call, hbacked, hsafe]
      refine and_congr_right fun _ => ⟨fun h hvalid _ _ => h hvalid, fun h hvalid => ?_⟩
      exact h hvalid hreg ⟨pkt, rfl⟩
  · exact (and_iff_left fun _ hreg' => absurd hreg' hreg).symm

/-- The other decoders of single packets. -/
lemma backed_runDecoder_other {α : Type} {cb : KlvancCallbacks → Bool}
    {decode : KlvancPacketHeader → Checked Fault (Except ℤ α)}
    {mkCall : KlvancPacketHeader → α → KlvancCall} (hbacked : ∀ pkt, (mkCall hdr pkt).Backed) :
    (runDecoder run hdr cb decode mkCall).2.Backed ↔ run.Backed := by
  rw [runDecoder]
  dsimp only
  split_ifs
  · split
    · rfl
    · exact backed_call.trans (and_iff_left (hbacked _))
  · rfl

/-- The SCTE-104 parser makes no call but that of its own callback. -/
lemma backed_parseSCTE104 : (parseSCTE104 run hdr).2.Backed ↔ run.Backed := by
  have hdeliver : ∀ (run' : KlvancRun) full descriptor, run'.calls = run.calls →
      ((deliverScte104 run' full descriptor).2.Backed ↔ run.Backed) := by
    intro run' full descriptor hcalls
    rw [deliverScte104]
    split
    · rw [KlvancRun.Backed, KlvancRun.addFaults_calls, hcalls, KlvancRun.Backed]
    · rw [backed_call, KlvancRun.Backed, KlvancRun.addFaults_calls, hcalls, KlvancRun.Backed]
      exact and_iff_left trivial
  unfold parseSCTE104
  dsimp only
  split_ifs
  · rfl
  · rfl
  · split
    · rfl
    · rfl
    · split
      · rfl
      · exact hdeliver _ _ _ rfl
    · rfl
  · exact hdeliver _ _ _ rfl

/-- AFD packets are never rejected. -/
lemma parseAFD_ok (hdr : KlvancPacketHeader) : ∃ pkt, parseAFD hdr = .ok pkt := by
  rw [parseAFD]
  dsimp only
  split_ifs <;> exact ⟨_, rfl⟩

/-- SDP packets are rejected for their identifiers only. -/
lemma parseSDP_ok_iff {hdr : KlvancPacketHeader} :
    (∃ pkt, parseSDP hdr = .ok pkt) ↔ HasSdpIdentifiers hdr := by
  rw [parseSDP, HasSdpIdentifiers]
  split_ifs with hids
  · refine iff_of_false (fun hok => ?_) fun hand => ?_
    · obtain ⟨pkt, hpkt⟩ := hok
      cases hpkt
    · rcases hids with hne | hne
      · exact hne hand.1
      · exact hne hand.2
  · rw [not_or, not_not, not_not] at hids
    exact iff_of_true ⟨_, rfl⟩ hids

/-- A packet is decoded with a call that is backed if its payload holds its fields. -/
lemma backed_parseByType :
    (parseByType run hdr).2.Backed ↔
      run.Backed ∧ (hdr.checksumValid = true →
        run.ctx.registered (serviceCallback hdr.type) = true → hdr.HoldsFields) := by
  have hother : ∀ (run' : KlvancRun) (cb : KlvancCallbacks → Bool),
      (run'.Backed ↔ run.Backed) → (run'.Backed ↔ run.Backed ∧
        (hdr.checksumValid = true → run.ctx.registered cb = true → True)) :=
    fun _ _ h => h.trans (and_iff_left fun _ _ => trivial).symm
  rw [parseByType, KlvancPacketHeader.HoldsFields]
  cases hdr.type with
  | afd =>
    have hok := parseAFD_ok hdr
    rw [backed_runDecoder (readAFD_val hdr) fun _ => Iff.rfl, safe_readAFD]
    simp only [hok, true_imp_iff]
    rfl
  | eia608 =>
    have hok : ∃ pkt, parseEIA608 hdr = .ok pkt := ⟨_, rfl⟩
    rw [backed_runDecoder (readEIA608_val hdr) fun _ => Iff.rfl, safe_readEIA608]
    simp only [hok, true_imp_iff]
    rfl
  | klUint64Counter =>
    have hok : ∃ pkt, parseKLU64LECounter hdr = .ok pkt := ⟨_, rfl⟩
    rw [backed_runDecoder (readKLU64LECounter_val hdr) fun _ => Iff.rfl, safe_readKLU64LECounter]
    simp only [hok, true_imp_iff]
    rfl
  | sdp =>
    rw [backed_runDecoder (readSDP_val hdr) fun _ => Iff.rfl, parseSDP_ok_iff]
    refine and_congr_right fun _ => forall_congr' fun _ => forall_congr' fun _ => ?_
    exact forall_congr' safe_readSDP
  | scte104 => exact hother _ _ backed_parseSCTE104
  | undefined => exact hother _ _ Iff.rfl
  | eia708b => exact hother _ _ (backed_runDecoder_other fun _ => trivial)
  | smpteS12_2 => exact hother _ _ (backed_runDecoder_other fun _ => trivial)
  | smpteS2108_1 => exact hother _ _ (backed_runDecoder_other fun _ => trivial)

/-- A decoder that finds no packet returns its error. -/
lemma runDecoder_error {α : Type} {cb : KlvancCallbacks → Bool}
    {decode : KlvancPacketHeader → Except ℤ α} {mkCall : KlvancPacketHeader → α → KlvancCall}
    {ret : ℤ} (hreg : run.ctx.registered cb = true) (hdecode : decode hdr = .error ret) :
    (runDecoder run hdr cb (fun hdr => pure (decode hdr)) mkCall).1 = ret := by
  rw [runDecoder, if_pos hreg]
  dsimp only [Checked.pure_val]
  rw [hdecode]

/-- A packet whose decoder reads behind its payload, although it holds its fields, is rejected. -/
lemma parseByType_rejects (hreg : run.ctx.registered (serviceCallback hdr.type) = true)
    (hholds : hdr.HoldsFields) (hinside : ¬hdr.ReadsInside) : (parseByType run hdr).1 < 0 := by
  rw [parseByType]
  rw [KlvancPacketHeader.HoldsFields] at hholds
  rw [KlvancPacketHeader.ReadsInside] at hinside
  cases htype : hdr.type with
  | afd =>
    rw [htype] at hholds hinside
    exact absurd (safe_readAFD.mpr hholds) hinside
  | eia608 =>
    rw [htype] at hholds hinside
    exact absurd (safe_readEIA608.mpr hholds) hinside
  | klUint64Counter =>
    rw [htype] at hholds hinside
    exact absurd (safe_readKLU64LECounter.mpr hholds) hinside
  | sdp =>
    -- only the identifiers are read of a packet with other identifiers
    rw [htype] at hreg hholds hinside
    have hids : ¬HasSdpIdentifiers hdr := fun hids =>
      hinside ((safe_readSDP hids).mpr (hholds hids))
    have herror : parseSDP hdr = .error (-einval) := by
      rw [parseSDP, if_pos]
      exact Classical.not_and_iff_not_or_not.mp hids
    exact lt_of_eq_of_lt (runDecoder_error hreg herror) (by norm_num [einval])
  | _ =>
    rw [htype] at hinside
    exact absurd trivial hinside

/-- A packet that is processed makes calls that are backed if its payload holds its fields. -/
lemma backed_processPacket :
    (processPacket run hdr).Backed ↔
      run.Backed ∧ (hdr.checksumValid = true →
        run.ctx.registered (serviceCallback hdr.type) = true → hdr.HoldsFields) := by
  cases hreports : run.ctx.reports hdr with
  | true =>
    obtain ⟨run', hprocess, hcallbacks, -, hcalls⟩ := processPacket_reported run hdr hreports
    have hbefore : run'.Backed ↔ run.Backed := by
      rcases hcalls with hsame | hall
      · rw [KlvancRun.Backed, hsame, KlvancRun.Backed]
      · rw [KlvancRun.Backed, hall, List.forall_mem_append, List.forall_mem_singleton]
        exact and_iff_left trivial
    rw [hprocess, backed_parseByType, hbefore, KlvancContext.registered, hcallbacks,
      KlvancContext.registered]
  | false =>
    have hvalid : hdr.checksumValid = false := (Bool.or_eq_false_iff.mp hreports).1
    rw [KlvancRun.Backed, processPacket_calls_of_not_reported run hdr hreports, hvalid]
    exact (and_iff_left fun hand => absurd hand Bool.false_ne_true).symm

end Decoders

section Visits

variable {lineNr : ℕ} {arr : List Word} {len : ℕ} {run : KlvancRun}

/-- The packet at position `i`, if its checksum is valid and the callback of its service is set, has
the property. -/
def PacketAt (lineNr : ℕ) (arr : List Word) (len : ℕ) (ctx : KlvancContext)
    (p : KlvancPacketHeader → Prop) (i : ℕ) : Prop :=
  (headerAt lineNr arr len i).checksumValid = true →
    ctx.registered (serviceCallback (headerAt lineNr arr len i).type) = true →
      p (headerAt lineNr arr len i)

/-- A scan makes calls that are backed if the packets it visits hold their fields. -/
lemma backed_visits (ps : List ℕ) :
    (visits lineNr arr len run ps).Backed ↔
      run.Backed ∧ ∀ i ∈ ps, PacketAt lineNr arr len run.ctx KlvancPacketHeader.HoldsFields i := by
  induction ps generalizing run with
  | nil => simp [visits]
  | cons i ps ih =>
    have hsettings := visit_settings lineNr arr len run i
    have hvisit : (visit lineNr arr len run i).Backed ↔
        run.Backed ∧ PacketAt lineNr arr len run.ctx KlvancPacketHeader.HoldsFields i :=
      backed_processPacket
    have hrest := @ih (visit lineNr arr len run i)
    rw [hvisit] at hrest
    simp only [PacketAt, registered_congr hsettings] at hrest
    rw [List.forall_mem_cons, ← and_assoc]
    exact hrest

end Visits

/-- On a line every call hands over fields from inside the payload of a packet with a valid
checksum, and every packet with a callback whose decoder reads behind its payload is rejected with
an error, just when every packet found with a valid checksum and a callback has as many payload
words as its fields need. -/
theorem klvancPacketParse_backed_iff (lineNr : ℕ) {arr : List Word} (h7 : 7 ≤ arr.length)
    (hmax : arr.length ≤ packetMaxPayload) (ctx : KlvancContext) :
    ((klvancPacketParse lineNr arr arr.length (.start ctx)).2.Backed ∧
        ∀ i ∈ Scan.positions (isAdf arr) 7 (arr.length - 7),
          PacketAt lineNr arr arr.length ctx
            (fun hdr => ¬hdr.ReadsInside → (parseByType (.start ctx) hdr).1 < 0) i) ↔
      ∀ i ∈ Scan.positions (isAdf arr) 7 (arr.length - 7),
        PacketAt lineNr arr arr.length ctx KlvancPacketHeader.HoldsFields i := by
  have hstart : (KlvancRun.start ctx).Backed := fun call hcall => absurd hcall List.not_mem_nil
  have hbacked := @backed_visits lineNr arr arr.length (.start ctx)
    (Scan.positions (isAdf arr) 7 (arr.length - 7))
  rw [klvancPacketParse_eq h7 le_rfl hmax]
  constructor
  · rintro ⟨hcalls, -⟩
    exact (hbacked.mp hcalls).2
  · intro hholds
    refine ⟨hbacked.mpr ⟨hstart, hholds⟩, fun i hi hvalid hreg hinside => ?_⟩
    exact parseByType_rejects hreg (hholds i hi hvalid hreg) hinside

/-- A context with the callbacks of the services that do not check the length. -/
def uncheckedContext : KlvancContext :=
  { KlvancContext.create with
    callbacks := some { afd := true, eia608 := true, klI64leCounter := true, sdp := true } }

/-- A line with one EIA-608 packet of three words. -/
theorem klvancPacketParse_backed_caption :
    (klvancPacketParse 9 [0x000, 0x3ff, 0x3ff, 0x161, 0x102, 0x203, 0x180, 0x241, 0x242, 0x269] 10
      (.start uncheckedContext)).2.Backed := by
  refine ((@klvancPacketParse_backed_iff 9 [0x000, 0x3ff, 0x3ff, 0x161, 0x102, 0x203, 0x180, 0x241,
    0x242, 0x269] (by decide) (by decide) uncheckedContext).mpr ?_).1
  intro i hi
  have hpositions : Scan.positions (isAdf [0x000, 0x3ff, 0x3ff, 0x161, 0x102, 0x203, 0x180, 0x241,
    0x242, 0x269]) 7 3 = [0] := by decide
  obtain rfl := List.mem_singleton.mp (hpositions ▸ hi)
  intro _ _
  change 3 ≤ _
  decide

/-- An EIA-608 packet of one word, with a valid checksum, is delivered. -/
theorem not_klvancPacketParse_backed :
    ¬(klvancPacketParse 9 [0x000, 0x3ff, 0x3ff, 0x161, 0x102, 0x101, 0x180, 0x2e4] 8
      (.start uncheckedContext)).2.Backed := by
  intro h
  have hbacked := h (.eia608
    (headerAt 9 [0x000, 0x3ff, 0x3ff, 0x161, 0x102, 0x101, 0x180, 0x2e4] 8 0)
    { payload := (0x80, 0, 0), field := 0, lineOffset := 0, ccData1 := 0, ccData2 := 0 })
    (by decide) (by decide)
  have hsafe : (readEIA608 (headerAt 9 [0x000, 0x3ff, 0x3ff, 0x161, 0x102, 0x101, 0x180, 0x2e4] 8
    0)).Safe := hbacked ▸ Checked.safe_pure _
  exact absurd hsafe (by decide)

end Libklvanc
