import Libklvanc.Services.Bitstream

/-!
# The sections of a caption distribution packet

What the decoder of each section reads: how many bits it takes, and the values it returns for the
fields it finds (`parseCdpHeader_yields` and others). A section ends with the id of the next one,
which its decoder returns with it. Entries are stored in arrays of fixed size, so that the decoders
of lists are described together with the places at which they store (`parseCcEntries_takes`,
`parseCcEntries_faults`).
-/

namespace Libklvanc

open KlbsDecoder

/-! ### The header and the footer -/

/-- The header is asked for as a whole. -/
lemma parseCdpHeader_takes :
    ∃ f : Unit → KlbsDecoder Eia708bCdpHeader, parseCdpHeader = needOctets 7 (-enomem) >>= f ∧
      (f ()).Takes 56 :=
  ⟨_, rfl, (Takes.readBits 16 16).bind fun _ => (Takes.readBits 8 8).bind fun _ =>
    (Takes.readBits 8 4).bind fun _ => (Takes.skipBits 4).bind fun _ =>
      (Takes.readBits 8 1).bind fun _ => (Takes.readBits 8 1).bind fun _ =>
        (Takes.readBits 8 1).bind fun _ => (Takes.readBits 8 1).bind fun _ =>
          (Takes.readBits 8 1).bind fun _ => (Takes.readBits 8 1).bind fun _ =>
            (Takes.readBits 8 1).bind fun _ => (Takes.skipBits 1).bind fun _ =>
              (Takes.readBits 16 16).bind fun _ => .pure _⟩

/-- The fields of a header, with the reserved bits `r₁` and `r₂`. -/
def cdpHeaderFields (h : Eia708bCdpHeader) (r₁ r₂ : ℕ) : List (ℕ × ℕ) :=
  [(h.cdpIdentifier.toNat, 16), (h.cdpLength.toNat, 8), (h.cdpFrameRate.toNat, 4), (r₁, 4),
    (h.timeCodePresent.toNat, 1), (h.ccdataPresent.toNat, 1), (h.svcinfoPresent.toNat, 1),
    (h.svcInfoStart.toNat, 1), (h.svcInfoChange.toNat, 1), (h.svcInfoComplete.toNat, 1),
    (h.captionServiceActive.toNat, 1), (r₂, 1), (h.cdpHdrSequenceCntr.toNat, 16)]

lemma cdpHeaderFields_length (h : Eia708bCdpHeader) (r₁ r₂ : ℕ) :
    (Bits.ofFields (cdpHeaderFields h r₁ r₂)).length = 56 := by
  rw [Bits.ofFields_length]
  rfl

/-- The fields of a header fit their places. -/
structure Eia708bCdpHeader.Fits (h : Eia708bCdpHeader) : Prop where
  cdpFrameRate : h.cdpFrameRate.toNat < 2 ^ 4
  timeCodePresent : h.timeCodePresent.toNat < 2 ^ 1
  ccdataPresent : h.ccdataPresent.toNat < 2 ^ 1
  svcinfoPresent : h.svcinfoPresent.toNat < 2 ^ 1
  svcInfoStart : h.svcInfoStart.toNat < 2 ^ 1
  svcInfoChange : h.svcInfoChange.toNat < 2 ^ 1
  svcInfoComplete : h.svcInfoComplete.toNat < 2 ^ 1
  captionServiceActive : h.captionServiceActive.toNat < 2 ^ 1

/-- A header is read back. -/
lemma parseCdpHeader_yields {h : Eia708bCdpHeader} (hfits : h.Fits) (r₁ r₂ : ℕ) :
    parseCdpHeader.Yields (Bits.ofFields (cdpHeaderFields h r₁ r₂)) h := by
  refine Yields.needOctets_bind (-enomem) ?_ (by rw [cdpHeaderFields_length])
  exact (Yields.readField (by norm_num) h.cdpIdentifier.isLt).bind <|
    (Yields.readField (by norm_num) h.cdpLength.isLt).bind <|
    (Yields.readField (by norm_num) hfits.cdpFrameRate).bind <|
    (Yields.skipBits_mod (by norm_num) r₁).bind <|
    (Yields.readField (by norm_num) hfits.timeCodePresent).bind <|
    (Yields.readField (by norm_num) hfits.ccdataPresent).bind <|
    (Yields.readField (by norm_num) hfits.svcinfoPresent).bind <|
    (Yields.readField (by norm_num) hfits.svcInfoStart).bind <|
    (Yields.readField (by norm_num) hfits.svcInfoChange).bind <|
    (Yields.readField (by norm_num) hfits.svcInfoComplete).bind <|
    (Yields.readField (by norm_num) hfits.captionServiceActive).bind <|
    (Yields.skipBits_mod (by norm_num) r₂).bind <|
    (Yields.readField (by norm_num) h.cdpHdrSequenceCntr.isLt).bind (.pure _)

/-- The footer is asked for as a whole. -/
lemma parseCdpFooter_takes (sectionId : Byte) :
    ∃ f : Unit → KlbsDecoder Eia708bCdpFooter,
      parseCdpFooter sectionId = needOctets 3 (-enomem) >>= f ∧ (f ()).Takes 24 :=
  ⟨_, rfl, (Takes.readBits 16 16).bind fun _ => (Takes.readBits 8 8).bind fun _ => .pure _⟩

/-- A footer is read back. -/
lemma parseCdpFooter_yields (f : Eia708bCdpFooter) :
    (parseCdpFooter f.cdpFooterId).Yields
      (Bits.ofFields [(f.cdpFtrSequenceCntr.toNat, 16), (f.packetChecksum.toNat, 8)]) f := by
  refine Yields.needOctets_bind (-enomem) ?_ (by simp)
  exact (Yields.readField (by norm_num) f.cdpFtrSequenceCntr.isLt).bind <|
    (Yields.readField (by norm_num) f.packetChecksum.isLt).bind (.pure _)

/-! ### The time code -/

/-- The fields of a time code, with the reserved bits `r₁`, `r₂` and `r₃`. -/
def timeCodeFields (t : Eia708bTimeCodeSection) (r₁ r₂ r₃ : ℕ) : List (ℕ × ℕ) :=
  [(r₁, 2), (t.tc10hrs.toNat, 2), (t.tc1hrs.toNat, 4), (r₂, 1), (t.tc10min.toNat, 3),
    (t.tc1min.toNat, 4), (t.tcFieldFlag.toNat, 1), (t.tc10sec.toNat, 3), (t.tc1sec.toNat, 4),
    (t.dropFrameFlag.toNat, 1), (r₃, 1), (t.tc10fr.toNat, 2), (t.tc1fr.toNat, 4)]

lemma timeCodeFields_length (t : Eia708bTimeCodeSection) (r₁ r₂ r₃ : ℕ) :
    (Bits.ofFields (timeCodeFields t r₁ r₂ r₃)).length = 32 := by
  rw [Bits.ofFields_length]
  rfl

/-- The fields of a time code fit their places. -/
structure Eia708bTimeCodeSection.Fits (t : Eia708bTimeCodeSection) : Prop where
  tc10hrs : t.tc10hrs.toNat < 2 ^ 2
  tc1hrs : t.tc1hrs.toNat < 2 ^ 4
  tc10min : t.tc10min.toNat < 2 ^ 3
  tc1min : t.tc1min.toNat < 2 ^ 4
  tcFieldFlag : t.tcFieldFlag.toNat < 2 ^ 1
  tc10sec : t.tc10sec.toNat < 2 ^ 3
  tc1sec : t.tc1sec.toNat < 2 ^ 4
  dropFrameFlag : t.dropFrameFlag.toNat < 2 ^ 1
  tc10fr : t.tc10fr.toNat < 2 ^ 2
  tc1fr : t.tc1fr.toNat < 2 ^ 4

/-- A time code is read back, and the next section's id. -/
lemma parseTimeCodeSection_yields {t : Eia708bTimeCodeSection} (hfits : t.Fits) (r₁ r₂ r₃ : ℕ)
    (next : Byte) :
    (parseTimeCodeSection t.timeCodeSectionId).Yields
      (Bits.ofFields (timeCodeFields t r₁ r₂ r₃) ++ Bits.ofBytes [next]) (t, next) := by
  refine Yields.needOctets_bind (-enomem) ?_
    (by simp [timeCodeFields_length])
  exact (Yields.skipBits_mod (by norm_num) r₁).bind <|
    (Yields.readField (by norm_num) hfits.tc10hrs).bind <|
    (Yields.readField (by norm_num) hfits.tc1hrs).bind <|
    (Yields.skipBits_mod (by norm_num) r₂).bind <|
    (Yields.readField (by norm_num) hfits.tc10min).bind <|
    (Yields.readField (by norm_num) hfits.tc1min).bind <|
    (Yields.readField (by norm_num) hfits.tcFieldFlag).bind <|
    (Yields.readField (by norm_num) hfits.tc10sec).bind <|
    (Yields.readField (by norm_num) hfits.tc1sec).bind <|
    (Yields.readField (by norm_num) hfits.dropFrameFlag).bind <|
    (Yields.skipBits_mod (by norm_num) r₃).bind <|
    (Yields.readField (by norm_num) hfits.tc10fr).bind <|
    (Yields.readField (by norm_num) hfits.tc1fr).bind <|
    (Yields.octet next).bind (.pure _)

lemma parseTimeCodeSection_progresses (sectionId : Byte) :
    (parseTimeCodeSection sectionId).Progresses :=
  (Progresses.needOctets 5 _).bind fun _ => (Progresses.skipBits 2).bind fun _ =>
    (Progresses.readBits 8 2).bind fun _ => (Progresses.readBits 8 4).bind fun _ =>
      (Progresses.skipBits 1).bind fun _ => (Progresses.readBits 8 3).bind fun _ =>
        (Progresses.readBits 8 4).bind fun _ => (Progresses.readBits 8 1).bind fun _ =>
          (Progresses.readBits 8 3).bind fun _ => (Progresses.readBits 8 4).bind fun _ =>
            (Progresses.readBits 8 1).bind fun _ => (Progresses.skipBits 1).bind fun _ =>
              (Progresses.readBits 8 2).bind fun _ => (Progresses.readBits 8 4).bind fun _ =>
                (Progresses.readBits 8 8).bind fun _ => .pure _

/-- A number that fits a field of an octet is the value of that octet. -/
lemma toNat_ofNat_of_lt {v k : ℕ} (hk : k ≤ 8) (hv : v < 2 ^ k) : (BitVec.ofNat 8 v).toNat = v := by
  rw [BitVec.toNat_ofNat]
  exact Nat.mod_eq_of_lt (hv.trans_le (Nat.pow_le_pow_right (by norm_num) hk))

/-- Any four octets hold a time code. -/
lemma exists_timeCodeFields (sectionId : Byte) {bits : List Bool} (hbits : bits.length = 32) :
    ∃ (t : Eia708bTimeCodeSection) (r₁ r₂ r₃ : ℕ), t.Fits ∧ t.timeCodeSectionId = sectionId ∧
      Bits.ofFields (timeCodeFields t r₁ r₂ r₃) = bits := by
  have hsplit := @Bits.ofFields_toFields [2, 2, 4, 1, 3, 4, 1, 3, 4, 1, 1, 2, 4] bits hbits.ge
  have hdrop : bits.drop [2, 2, 4, 1, 3, 4, 1, 3, 4, 1, 1, 2, 4].sum = [] :=
    List.drop_eq_nil_of_le hbits.le
  rw [hdrop, List.append_nil] at hsplit
  simp only [Bits.toFields, List.drop_drop, Nat.reduceAdd] at hsplit
  have hval : ∀ n k, k ≤ 8 → (BitVec.ofNat 8 (Bits.toNat ((bits.drop n).take k))).toNat =
      Bits.toNat ((bits.drop n).take k) := fun n k hk =>
    toNat_ofNat_of_lt hk (Bits.toNat_take_lt k _)
  have hlt : ∀ n k, k ≤ 8 → (BitVec.ofNat 8 (Bits.toNat ((bits.drop n).take k))).toNat < 2 ^ k :=
    fun n k hk => by
      rw [hval n k hk]
      exact Bits.toNat_take_lt k _
  let field (n k : ℕ) : Byte := BitVec.ofNat 8 (Bits.toNat ((bits.drop n).take k))
  refine ⟨
    { timeCodeSectionId := sectionId
      tc10hrs := field 2 2
      tc1hrs := field 4 4
      tc10min := field 9 3
      tc1min := field 12 4
      tcFieldFlag := field 16 1
      tc10sec := field 17 3
      tc1sec := field 20 4
      dropFrameFlag := field 24 1
      tc10fr := field 26 2
      tc1fr := field 28 4 },
    Bits.toNat (bits.take 2), Bits.toNat ((bits.drop 8).take 1), Bits.toNat ((bits.drop 25).take 1),
    ?_, rfl, ?_⟩
  · constructor
    all_goals exact hlt _ _ (by norm_num)
  · refine Eq.trans ?_ hsplit
    simp only [timeCodeFields]
    simp only [field, hval _ _ (by norm_num : 1 ≤ 8), hval _ _ (by norm_num : 2 ≤ 8),
      hval _ _ (by norm_num : 3 ≤ 8), hval _ _ (by norm_num : 4 ≤ 8)]

/-! ### The captions -/

/-- The fields of one caption entry, behind its marker bits. -/
def ccEntryFields (e : Eia708bCcdataEntry) : List (ℕ × ℕ) :=
  [(0x1f, 5), (e.ccValid.toNat, 1), (e.ccType.toNat, 2), (e.ccData.1.toNat, 8),
    (e.ccData.2.toNat, 8)]

/-- The fields of a caption entry fit their places. -/
structure Eia708bCcdataEntry.Fits (e : Eia708bCcdataEntry) : Prop where
  ccValid : e.ccValid.toNat < 2 ^ 1
  ccType : e.ccType.toNat < 2 ^ 2

/-- One caption entry and those behind it. -/
lemma parseCcEntries_succ {i : ℕ} (h : i < maxCcCount) (count : ℕ) :
    parseCcEntries i (count + 1) = (do
      skipBits 5
      let ccValid ← readBits 8 1
      let ccType ← readBits 8 2
      let ccData₀ ← readBits 8 8
      let ccData₁ ← readBits 8 8
      let rest ← parseCcEntries (i + 1) count
      pure ({ ccValid, ccType, ccData := (ccData₀, ccData₁) } :: rest)) := by
  rw [parseCcEntries]
  simp only [storeAt_of_lt h, pure_bind]

/-- Each caption entry takes three octets. -/
lemma parseCcEntries_takes {i count : ℕ} (h : i + count ≤ maxCcCount) :
    (parseCcEntries i count).Takes (24 * count) := by
  induction count generalizing i with
  | zero => exact .pure []
  | succ count ih =>
    rw [parseCcEntries_succ (by omega)]
    have hentry := (Takes.skipBits 5).bind fun _ => (Takes.readBits 8 1).bind fun ccValid =>
      (Takes.readBits 8 2).bind fun ccType => (Takes.readBits 8 8).bind fun ccData₀ =>
        (Takes.readBits 8 8).bind fun ccData₁ => (ih (by omega : i + 1 + count ≤ _)).bind_pure
          fun rest => ({ ccValid, ccType, ccData := (ccData₀, ccData₁) } :: rest)
    convert hentry using 1
    omega

lemma parseCcEntries_progresses (i count : ℕ) : (parseCcEntries i count).Progresses := by
  induction count generalizing i with
  | zero => exact .pure []
  | succ count ih =>
    exact (Progresses.skipBits 5).bind fun _ => (storeAt_progresses _ _ i).bind fun _ =>
      (Progresses.readBits 8 1).bind fun _ => (Progresses.readBits 8 2).bind fun _ =>
        (Progresses.readBits 8 8).bind fun _ => (Progresses.readBits 8 8).bind fun _ =>
          (ih (i + 1)).bind fun _ => .pure _

/-- More entries than the array holds are stored behind it. -/
lemma parseCcEntries_faulty {i count : ℕ} (hi : i ≤ maxCcCount) (h : maxCcCount < i + count) :
    (parseCcEntries i count).Faulty := by
  induction count generalizing i with
  | zero => omega
  | succ count ih =>
    rcases Nat.lt_or_eq_of_le hi with hlt | heq
    · rw [parseCcEntries_succ hlt]
      exact .bind_right (.skipBits 5) fun _ => .bind_right (.readBits 8 1) fun _ =>
        .bind_right (.readBits 8 2) fun _ => .bind_right (.readBits 8 8) fun _ =>
          .bind_right (.readBits 8 8) fun _ => (ih hlt (by omega)).bind_left fun _ => .pure _
    · exact .bind_right (.skipBits 5) fun _ => (storeAt_faulty heq.ge).bind_left fun _ =>
        (Progresses.readBits 8 1).bind fun _ => (Progresses.readBits 8 2).bind fun _ =>
          (Progresses.readBits 8 8).bind fun _ => (Progresses.readBits 8 8).bind fun _ =>
            (parseCcEntries_progresses (i + 1) count).bind fun _ => .pure _

/-- Caption entries are read back. -/
lemma parseCcEntries_yields {es : List Eia708bCcdataEntry} (hfits : ∀ e ∈ es, e.Fits) {i : ℕ}
    (h : i + es.length ≤ maxCcCount) :
    (parseCcEntries i es.length).Yields (Bits.ofFields (es.flatMap ccEntryFields)) es := by
  induction es generalizing i with
  | nil => exact .pure []
  | cons e es ih =>
    obtain ⟨he, hes⟩ := List.forall_mem_cons.mp hfits
    rw [List.length_cons] at h ⊢
    rw [parseCcEntries_succ (by omega)]
    simp only [List.flatMap_cons, ccEntryFields, List.cons_append, List.nil_append,
      Bits.ofFields_cons]
    exact (Yields.skipBits_mod (by norm_num) 0x1f).bind <|
      (Yields.readField (by norm_num) he.ccValid).bind <|
      (Yields.readField (by norm_num) he.ccType).bind <|
      (Yields.readField (by norm_num) e.ccData.1.isLt).bind <|
      (Yields.readField (by norm_num) e.ccData.2.isLt).bind <|
      (ih hes (by omega)).bind_pure _

/-- The caption section, but for the data behind its count. -/
lemma parseCcdataSection_eq (sectionId : Byte) :
    parseCcdataSection sectionId = (needOctets 2 (-enomem) >>= fun _ => skipBits 3 >>= fun _ =>
      readBits 8 5 >>= fun ccCount => needOctets (ccCount.toNat * 3) (-enomem) >>= fun _ =>
        parseCcEntries 0 ccCount.toNat >>= fun cc => readBits 8 8 >>= fun nextSectionId =>
          pure ({ ccdataId := sectionId, ccCount, cc }, nextSectionId)) := rfl

lemma parseCcdataSection_progresses (sectionId : Byte) :
    (parseCcdataSection sectionId).Progresses :=
  (Progresses.needOctets 2 _).bind fun _ => (Progresses.skipBits 3).bind fun _ =>
    (Progresses.readBits 8 5).bind fun ccCount => (Progresses.needOctets _ _).bind fun _ =>
      (parseCcEntries_progresses 0 ccCount.toNat).bind fun _ =>
        (Progresses.readBits 8 8).bind fun _ => .pure _

/-- The count of a caption section is that of its entries, and these fit the array and their
places. -/
structure Eia708bCcdataSection.Fits (s : Eia708bCcdataSection) : Prop where
  ccCount : s.ccCount.toNat ≤ maxCcCount
  cc_length : s.cc.length = s.ccCount.toNat
  cc : ∀ e ∈ s.cc, e.Fits

/-- The fields of a caption section behind its id, with the reserved bits `r`. -/
def ccdataFields (s : Eia708bCcdataSection) (r : ℕ) : List (ℕ × ℕ) :=
  (r, 3) :: (s.ccCount.toNat, 5) :: s.cc.flatMap ccEntryFields

/-- A caption section is a count and triplets. -/
lemma ccdataFields_length (s : Eia708bCcdataSection) (r : ℕ) :
    (Bits.ofFields (ccdataFields s r)).length = 8 * (1 + 3 * s.cc.length) := by
  have hlen : (Bits.ofFields (s.cc.flatMap ccEntryFields)).length = 24 * s.cc.length :=
    Bits.ofFields_flatMap_length fun e _ => rfl
  simp only [ccdataFields, Bits.ofFields_cons, List.length_append, Bits.ofNat_length, hlen]
  omega

/-- The caption section with its entries is read back, and the next section's id. -/
lemma parseCcdataSection_yields {s : Eia708bCcdataSection} (hfits : s.Fits) (r : ℕ) (next : Byte) :
    (parseCcdataSection s.ccdataId).Yields
      (Bits.ofFields (ccdataFields s r) ++ Bits.ofBytes [next]) (s, next) := by
  have hlen : (Bits.ofFields (s.cc.flatMap ccEntryFields)).length = 24 * s.cc.length :=
    Bits.ofFields_flatMap_length fun e _ => rfl
  have hcc := hfits.cc_length
  have hcount := hfits.ccCount
  have hcount32 : s.ccCount.toNat < 2 ^ 5 := lt_of_le_of_lt hcount (by decide)
  have hentries := parseCcEntries_yields hfits.cc (by omega : 0 + s.cc.length ≤ maxCcCount)
  rw [hcc] at hentries
  rw [parseCcdataSection_eq, ccdataFields, Bits.ofFields_cons, Bits.ofFields_cons,
    List.append_assoc, List.append_assoc]
  refine Yields.needOctets_bind (-enomem) ?_ (by simp [hlen]; omega)
  refine (Yields.skipBits_mod (by norm_num) r).bind ?_
  refine (Yields.readField (by norm_num) hcount32).bind ?_
  refine Yields.needOctets_bind (-enomem) ?_ (by simp [hlen]; omega)
  exact hentries.bind ((Yields.octet next).bind_pure _)

/-! ### The services -/

/-- The fields of one service entry, behind its marker bits. -/
def svcEntryFields (e : Eia708bCcsvcinfoEntry) : List (ℕ × ℕ) :=
  (0x07, 3) :: (e.captionServiceNumber.toNat, 5) :: e.svcDataByte.map fun b => (b.toNat, 8)

/-- A service entry with its array of raw bytes fits its place. -/
structure Eia708bCcsvcinfoEntry.Fits (e : Eia708bCcsvcinfoEntry) : Prop where
  captionServiceNumber : e.captionServiceNumber.toNat < 2 ^ 5
  svcDataByte : e.svcDataByte.length = 6

/-- What is decoded from the raw bytes of an entry. -/
def Eia708bCcsvcinfoEntry.decoded (e : Eia708bCcsvcinfoEntry) : Eia708bCcsvcinfoEntry :=
  decodeSvcEntry e.captionServiceNumber e.svcDataByte

/-- A service entry is seven octets long. -/
lemma svcEntryFields_length {e : Eia708bCcsvcinfoEntry} (h : e.svcDataByte.length = 6) :
    (Bits.ofFields (svcEntryFields e)).length = 56 := by
  rw [svcEntryFields, Bits.ofFields_cons, Bits.ofFields_cons, Bits.ofFields_octets]
  simp [h]

/-- One service entry and those behind it. -/
lemma parseSvcEntries_succ {i : ℕ} (h : i < maxCcsvcCount) (count : ℕ) :
    parseSvcEntries i (count + 1) = (do
      skipBits 3
      let captionServiceNumber ← readBits 8 5
      let bytes ← (List.replicate 6 8).mapM fun w => readBits 8 w
      let rest ← parseSvcEntries (i + 1) count
      pure (decodeSvcEntry captionServiceNumber bytes :: rest)) := by
  rw [parseSvcEntries]
  simp only [storeAt_of_lt h, pure_bind]

/-- Each service entry takes seven octets. -/
lemma parseSvcEntries_takes {i count : ℕ} (h : i + count ≤ maxCcsvcCount) :
    (parseSvcEntries i count).Takes (56 * count) := by
  induction count generalizing i with
  | zero => exact .pure []
  | succ count ih =>
    rw [parseSvcEntries_succ (by omega)]
    have hentry := (Takes.skipBits 3).bind fun _ => (Takes.readBits 8 5).bind fun csn =>
      (Takes.mapM (fun w => Takes.readBits 8 w) (List.replicate 6 8)).bind fun bytes =>
        (ih (by omega : i + 1 + count ≤ _)).bind_pure fun rest => decodeSvcEntry csn bytes :: rest
    convert hentry using 1
    simp
    omega

lemma parseSvcEntries_progresses (i count : ℕ) : (parseSvcEntries i count).Progresses := by
  induction count generalizing i with
  | zero => exact .pure []
  | succ count ih =>
    have hoctets := (Takes.mapM (fun w => Takes.readBits 8 w) (List.replicate 6 8)).progresses
    exact (Progresses.skipBits 3).bind fun _ => (storeAt_progresses _ _ i).bind fun _ =>
      (Progresses.readBits 8 5).bind fun _ => hoctets.bind fun _ =>
        (ih (i + 1)).bind fun _ => .pure _

/-- Service entries are read back, with what is decoded from their raw bytes. -/
lemma parseSvcEntries_yields {es : List Eia708bCcsvcinfoEntry} (hfits : ∀ e ∈ es, e.Fits) {i : ℕ}
    (h : i + es.length ≤ maxCcsvcCount) :
    (parseSvcEntries i es.length).Yields (Bits.ofFields (es.flatMap svcEntryFields))
      (es.map (·.decoded)) := by
  induction es generalizing i with
  | nil => exact .pure []
  | cons e es ih =>
    obtain ⟨he, hes⟩ := List.forall_mem_cons.mp hfits
    have hoctets := Yields.octets e.svcDataByte
    rw [he.svcDataByte] at hoctets
    rw [List.length_cons] at h ⊢
    rw [parseSvcEntries_succ (by omega)]
    simp only [List.flatMap_cons, svcEntryFields, List.cons_append, Bits.ofFields_append,
      Bits.ofFields_octets, Bits.ofFields_cons]
    exact (Yields.skipBits_mod (by norm_num) 0x07).bind <|
      (Yields.readField (by norm_num) he.captionServiceNumber).bind <|
      hoctets.bind <| (ih hes (by omega)).bind_pure _

/-- The service section, but for the data behind its count. -/
lemma parseCcsvcinfoSection_eq (sectionId : Byte) :
    parseCcsvcinfoSection sectionId = (needOctets 3 (-enomem) >>= fun _ => skipBits 1 >>= fun _ =>
      readBits 8 1 >>= fun svcInfoStart => readBits 8 1 >>= fun svcInfoChange =>
        readBits 8 1 >>= fun svcInfoComplete => readBits 8 4 >>= fun svcCount =>
          needOctets (svcCount.toNat * 7) (-enomem) >>= fun _ =>
            parseSvcEntries 0 svcCount.toNat >>= fun svc => readBits 8 8 >>= fun nextSectionId =>
              pure
                ({ ccsvcinfoId := sectionId, svcInfoStart, svcInfoChange, svcInfoComplete, svcCount,
                   svc }, nextSectionId)) := rfl

lemma parseCcsvcinfoSection_progresses (sectionId : Byte) :
    (parseCcsvcinfoSection sectionId).Progresses :=
  (Progresses.needOctets 3 _).bind fun _ => (Progresses.skipBits 1).bind fun _ =>
    (Progresses.readBits 8 1).bind fun _ => (Progresses.readBits 8 1).bind fun _ =>
      (Progresses.readBits 8 1).bind fun _ => (Progresses.readBits 8 4).bind fun svcCount =>
        (Progresses.needOctets _ _).bind fun _ =>
          (parseSvcEntries_progresses 0 svcCount.toNat).bind fun _ =>
            (Progresses.readBits 8 8).bind fun _ => .pure _

/-- The flags and the count of a service section fit their places. -/
structure Eia708bCcsvcinfoSection.Fits (s : Eia708bCcsvcinfoSection) : Prop where
  svcInfoStart : s.svcInfoStart.toNat < 2 ^ 1
  svcInfoChange : s.svcInfoChange.toNat < 2 ^ 1
  svcInfoComplete : s.svcInfoComplete.toNat < 2 ^ 1
  svcCount : s.svcCount.toNat < 2 ^ 4
  svc_length : s.svc.length = s.svcCount.toNat
  svc : ∀ e ∈ s.svc, e.Fits

/-- The fields of a service section behind its id, with the reserved bit `r`. -/
def ccsvcinfoFields (s : Eia708bCcsvcinfoSection) (r : ℕ) : List (ℕ × ℕ) :=
  (r, 1) :: (s.svcInfoStart.toNat, 1) :: (s.svcInfoChange.toNat, 1) ::
    (s.svcInfoComplete.toNat, 1) :: (s.svcCount.toNat, 4) :: s.svc.flatMap svcEntryFields

/-- A service section is a count and entries. -/
lemma ccsvcinfoFields_length {s : Eia708bCcsvcinfoSection}
    (h : ∀ e ∈ s.svc, e.svcDataByte.length = 6) (r : ℕ) :
    (Bits.ofFields (ccsvcinfoFields s r)).length = 8 * (1 + 7 * s.svc.length) := by
  have hlen : (Bits.ofFields (s.svc.flatMap svcEntryFields)).length = 56 * s.svc.length :=
    Bits.ofFields_flatMap_length fun e he => svcEntryFields_length (h e he)
  simp only [ccsvcinfoFields, Bits.ofFields_cons, List.length_append, Bits.ofNat_length, hlen]
  omega

/-- The service section with its entries is read back, and the next section's id. A section without
entries is shorter than the octets it asks for, so that something must follow. -/
lemma parseCcsvcinfoSection_bind_delivers {s : Eia708bCcsvcinfoSection} (hfits : s.Fits) (r : ℕ)
    (next : Byte) {β : Type} {f : Eia708bCcsvcinfoSection × Byte → KlbsDecoder β}
    {bits : List Bool} {b : β}
    (hf : (f ({ s with svc := s.svc.map (·.decoded) }, next)).Delivers bits b)
    (hbits : 8 ≤ bits.length) :
    (parseCcsvcinfoSection s.ccsvcinfoId >>= f).Delivers
      (Bits.ofFields (ccsvcinfoFields s r) ++ (Bits.ofBytes [next] ++ bits)) b := by
  have hlen : (Bits.ofFields (s.svc.flatMap svcEntryFields)).length = 56 * s.svc.length :=
    Bits.ofFields_flatMap_length fun e he => svcEntryFields_length (hfits.svc e he).svcDataByte
  have hcount := hfits.svcCount
  have hsvc := hfits.svc_length
  have hentries := parseSvcEntries_yields hfits.svc
    (by rw [hsvc, maxCcsvcCount]; omega : 0 + s.svc.length ≤ maxCcsvcCount)
  rw [hsvc] at hentries
  rw [parseCcsvcinfoSection_eq]
  simp only [ccsvcinfoFields, Bits.ofFields_cons, List.append_assoc, bind_assoc, pure_bind]
  refine Delivers.needOctets_bind (-enomem) ?_ (by simp [hlen]; omega)
  refine (Yields.skipBits_mod (by norm_num) r).bind_delivers ?_
  refine (Yields.readField (by norm_num) hfits.svcInfoStart).bind_delivers ?_
  refine (Yields.readField (by norm_num) hfits.svcInfoChange).bind_delivers ?_
  refine (Yields.readField (by norm_num) hfits.svcInfoComplete).bind_delivers ?_
  refine (Yields.readField (by norm_num) hcount).bind_delivers ?_
  refine Delivers.needOctets_bind (-enomem) ?_ (by simp [hlen]; omega)
  exact hentries.bind_delivers ((Yields.octet next).bind_delivers hf)

/-! ### The whole packet -/

/-- A section that is read if its id comes next. -/
def sectionIf {α : Type} (sectionId : Byte) (parse : Byte → KlbsDecoder (α × Byte)) (absent : α)
    (next : Byte) : KlbsDecoder (α × Byte) :=
  if next = sectionId then parse next else pure (absent, next)

/-- What is read behind the services. -/
def readFooter (payload : List Byte) (payloadLengthBytes : ℕ) (header : Eia708bCdpHeader)
    (tc : Eia708bTimeCodeSection) (ccdata : Eia708bCcdataSection) (ccsvc : Eia708bCcsvcinfoSection)
    (next : Byte) : KlbsDecoder KlvancPacketEia708b :=
  (if next = 0x74 then parseCdpFooter next else pure {}) >>= fun footer => pure
    { payload, payloadLengthBytes
      checksumValid := (payload.take payloadLengthBytes).foldl (· + ·) (0 : Byte) == 0
      header, tc, ccdata, ccsvc, footer }

/-- What is read behind the captions. -/
def readServices (payload : List Byte) (payloadLengthBytes : ℕ) (header : Eia708bCdpHeader)
    (tc : Eia708bTimeCodeSection) (ccdata : Eia708bCcdataSection) (next : Byte) :
    KlbsDecoder KlvancPacketEia708b := do
  let x ← sectionIf 0x73 parseCcsvcinfoSection {} next
  readFooter payload payloadLengthBytes header tc ccdata x.1 x.2

/-- What is read behind the time code. -/
def readCaptions (payload : List Byte) (payloadLengthBytes : ℕ) (header : Eia708bCdpHeader)
    (tc : Eia708bTimeCodeSection) (next : Byte) : KlbsDecoder KlvancPacketEia708b := do
  let x ← sectionIf 0x72 parseCcdataSection {} next
  readServices payload payloadLengthBytes header tc x.1 x.2

/-- The sections one behind the other. -/
lemma parseCdp_eq (payload : List Byte) (payloadLengthBytes : ℕ) :
    parseCdp payload payloadLengthBytes = (parseCdpHeader >>= fun header =>
      needOctets 1 (-enomem) >>= fun _ => readBits 8 8 >>= fun next =>
        sectionIf 0x71 parseTimeCodeSection {} next >>= fun x =>
          readCaptions payload payloadLengthBytes header x.1 x.2) := by
  have hif : ∀ {α : Type} (c : Prop) [Decidable c] (a b : KlbsDecoder α)
      (f : α → KlbsDecoder KlvancPacketEia708b),
      (if c then a >>= f else b >>= f) = (if c then a else b) >>= f := by
    intro α c _ a b f
    split_ifs <;> rfl
  simp only [parseCdp, readCaptions, readServices, readFooter, sectionIf, hif]
  rfl

/-! ### The whole packet makes progress -/

section Progress

variable {payload : List Byte} {n : ℕ} {header : Eia708bCdpHeader} {tc : Eia708bTimeCodeSection}
  {ccdata : Eia708bCcdataSection} {ccsvc : Eia708bCcsvcinfoSection} {next : Byte}

lemma sectionIf_progresses {α : Type} {sectionId : Byte} {parse : Byte → KlbsDecoder (α × Byte)}
    {absent : α} (h : (parse next).Progresses) :
    (sectionIf sectionId parse absent next).Progresses :=
  .ite h (.pure (absent, next))

lemma readFooter_progresses : (readFooter payload n header tc ccdata ccsvc next).Progresses := by
  obtain ⟨f, hf, htakes⟩ := parseCdpFooter_takes next
  have hfooter : (if next = 0x74 then parseCdpFooter next
      else pure ({} : Eia708bCdpFooter)).Progresses := by
    rw [hf]
    exact .ite ((Progresses.needOctets 3 _).bind fun _ => htakes.progresses) (.pure _)
  exact hfooter.bind fun footer => .pure _

lemma readServices_progresses : (readServices payload n header tc ccdata next).Progresses :=
  (sectionIf_progresses (parseCcsvcinfoSection_progresses next)).bind fun _ => readFooter_progresses

lemma readCaptions_progresses : (readCaptions payload n header tc next).Progresses :=
  (sectionIf_progresses (parseCcdataSection_progresses next)).bind fun _ => readServices_progresses

lemma parseCdp_progresses : (parseCdp payload n).Progresses := by
  obtain ⟨f, hf, htakes⟩ := parseCdpHeader_takes
  rw [parseCdp_eq, hf]
  exact ((Progresses.needOctets 7 _).bind fun _ => htakes.progresses).bind fun _ =>
    (Progresses.needOctets 1 _).bind fun _ => (Progresses.readBits 8 8).bind fun next =>
      (sectionIf_progresses (parseTimeCodeSection_progresses next)).bind fun _ =>
        readCaptions_progresses

end Progress

end Libklvanc
