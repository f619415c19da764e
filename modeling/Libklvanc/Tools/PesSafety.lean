import Libklvanc.Tools.PesQueue

/-!
# Malformed transport packets

`adaptation_field_length` is not checked. From 184 on the payload would begin behind the packet; its
length, an `int` below zero, becomes a `size_t` that the product with 128 and the sum with the size
of the buffer wrap around once more each, so that the comparison with the largest size lets it
through. Exactly the other packets are safe in every run (`peProcessPacket_safe_iff`).
-/

namespace Libklvanc

/-- The adaptation field ends inside the packet. -/
def AdaptationFits (pkt : TsPacket) : Prop :=
  adaption pkt = 2 ∨ adaption pkt = 3 → adaptationFieldLength pkt ≤ 183

instance : DecidablePred AdaptationFits := fun _ =>
  inferInstanceAs (Decidable (_ ∨ _ → _ ≤ _))

/-- What lies behind the adaptation field. -/
def payload (pkt : TsPacket) : List Byte := pkt.toList.drop (payloadOffset pkt)

/-- The payload of a packet begins inside it or at its end. -/
lemma payloadOffset_le_iff {pkt : TsPacket} :
    payloadOffset pkt ≤ packetSize ↔ AdaptationFits pkt := by
  rw [payloadOffset, AdaptationFits, packetSize]
  rw [if_pos rfl]
  split_ifs with hadaption
  · constructor
    · intro hle _
      omega
    · intro hfits
      have hlen := hfits hadaption
      omega
  · exact ⟨fun _ hfield => absurd hfield hadaption, fun _ => by norm_num⟩

lemma four_le_payloadOffset (pkt : TsPacket) : 4 ≤ payloadOffset pkt := by
  rw [payloadOffset]
  split_ifs <;> omega

lemma length_payload (pkt : TsPacket) :
    (payload pkt).length = packetSize - payloadOffset pkt := by
  rw [payload, List.length_drop, Vector.length_toList, packetSize]

lemma length_payload_le (pkt : TsPacket) : (payload pkt).length ≤ 184 := by
  have hoffset := four_le_payloadOffset pkt
  rw [length_payload, packetSize]
  omega

/-- The cells of a list from one to its end. -/
lemma cellsFrom_eq_drop (l : List Byte) (start : ℕ) :
    cellsFrom l start (l.length - start) = l.drop start := by
  apply List.ext_getElem (by rw [length_cellsFrom, List.length_drop])
  intro i h₁ h₂
  rw [List.length_drop] at h₂
  simp only [cellsFrom, List.getElem_map, List.getElem_range, List.getElem_drop]
  exact List.getD_eq_getElem _ _ (by omega)

/-- The payload lies inside the packet. -/
lemma payload_src_le {pkt : TsPacket} (hfits : AdaptationFits pkt) :
    payloadOffset pkt + (payload pkt).length ≤ pkt.toList.length := by
  have hoffset := payloadOffset_le_iff.mpr hfits
  have hlen : pkt.toList.length = packetSize := Vector.length_toList
  rw [length_payload, hlen]
  omega

lemma cellsFrom_payload (pkt : TsPacket) :
    cellsFrom pkt.toList (payloadOffset pkt) (payload pkt).length = payload pkt := by
  have hlen : packetSize = pkt.toList.length := Vector.length_toList.symm
  rw [length_payload, hlen, cellsFrom_eq_drop]
  rfl

section Append

variable {fresh : ℕ → Byte} {pe : PesExtractor} {pkt : TsPacket}

/-- The write of `pe_processPacket` for a packet whose adaptation field fits. -/
lemma peAppend_eq (hfits : AdaptationFits pkt) :
    peAppend fresh pe pkt =
      (rbWrite fresh pe.rb ⟨.tsPacket, pkt.toList, payloadOffset pkt⟩ (payload pkt).length >>=
        fun r => pure (r.1 == (payload pkt).length, { pe with rb := r.2 })) := by
  have hoffset := payloadOffset_le_iff.mpr hfits
  have hlen : ((packetSize : ℤ) - payloadOffset pkt) = ((payload pkt).length : ℕ) := by
    rw [length_payload]
    omega
  have hlt : (payload pkt).length < 2 ^ 64 := (length_payload_le pkt).trans_lt (by norm_num)
  rw [peAppend]
  dsimp only
  rw [hlen, sizeOfInt_natCast hlt, pure_bind]

/-- An adaptation field that does not fit makes the length of the payload wrap around. -/
lemma not_safe_peAppend (hfits : ¬AdaptationFits pkt) : ¬(peAppend fresh pe pkt).Safe := by
  have hoffset : packetSize < payloadOffset pkt :=
    not_le.mp fun hle => hfits (payloadOffset_le_iff.mp hle)
  intro hsafe
  have hwlen := (Checked.safe_bind.mp hsafe).1
  rw [sizeOfInt, if_neg (by omega)] at hwlen
  exact List.cons_ne_nil _ _ hwlen

/-- A write to a buffer with room appends the payload. -/
lemma peAppend_of_room (h : pe.WF) (hfits : AdaptationFits pkt)
    (hroom : pe.rb.fill + (payload pkt).length ≤ pe.rb.size) :
    ∃ next, peAppend fresh pe pkt = pure (true, next) ∧ next.rb.size = pe.rb.size ∧
      next.Holds pe.pid ⟨pe.hasSync, pe.rb.contents ++ payload pkt⟩ := by
  -- the payload is smaller than the smallest buffer
  have hover : ¬pe.rb.Overruns (payload pkt).length := by
    rintro ⟨hall, -⟩
    have hle := length_payload_le pkt
    have hinitial := h.rb.initial_le
    rw [h.sizeInitial, maxPesSize] at hinitial
    omega
  obtain ⟨next, hwrite, hwf, hcontents, hsize, hmax, hinitial⟩ :=
    @rbWrite_of_room pe.rb ⟨.tsPacket, pkt.toList, payloadOffset pkt⟩ _ fresh h.rb
      (payload_src_le hfits) hroom hover
  refine ⟨{ pe with rb := next }, ?_, hsize,
    ⟨hwf, hmax.trans h.sizeMax, hinitial.trans h.sizeInitial⟩, rfl, ?_⟩
  · rw [peAppend_eq hfits, hwrite, pure_bind, beq_self_eq_true]
  · rw [PesExtractor.queue]
    exact congrArg _ (hcontents.trans (congrArg _ (cellsFrom_payload pkt)))

/-- The call appends to the ring buffer an end of the packet, of at most 184 bytes. What was in the
buffer stays there, unless a buffer grows whose contents wrap. -/
def PesExtractor.AppendsEnd (fresh : ℕ → Byte) (pe : PesExtractor) (pkt : TsPacket) : Prop :=
  ∃ old new, (peAppend fresh pe pkt).val.2.rb.contents = old ++ new ∧ old.length = pe.rb.fill ∧
    new.length ≤ 184 ∧ new <:+ pkt.toList ∧
    ((peAppend fresh pe pkt).val.2.rb.size = pe.rb.size ∨ pe.rb.Unwrapped → old = pe.rb.contents)

/-- The write of a packet whose adaptation field fits appends its payload or nothing. -/
lemma peAppend_appendsEnd (h : pe.WF) (hfits : AdaptationFits pkt) :
    (∃ written next, peAppend fresh pe pkt = pure (written, next) ∧ next.WF) ∧
      pe.AppendsEnd fresh pkt := by
  have hlen := length_payload_le pkt
  have hsize := h.rb.size_lt
  have hend : payload pkt <:+ pkt.toList := List.drop_suffix _ _
  unfold PesExtractor.AppendsEnd
  rcases Nat.lt_or_ge (pe.rb.size - pe.rb.fill) (payload pkt).length with hfull | hroom
  · rcases Nat.lt_or_ge pe.rb.sizeMax (pe.rb.size + (payload pkt).length * 128) with hrefuse | hmore
    · -- the buffer cannot grow so far
      have hwrite := @rbWrite_of_refuse pe.rb ⟨.tsPacket, pkt.toList, payloadOffset pkt⟩ _ fresh
        h.rb hfull hrefuse (by omega)
      rw [peAppend_eq hfits, hwrite, pure_bind]
      exact ⟨⟨_, _, rfl, h⟩, _, [], (List.append_nil _).symm, pe.rb.length_contents, Nat.zero_le _,
        List.nil_suffix, fun _ => rfl⟩
    · -- the buffer grows
      have hmax : pe.rb.size + (payload pkt).length * 128 < 2 ^ 63 := by
        rw [h.sizeMax] at hmore
        omega
      obtain ⟨old, next, hwrite, hwf, hcontents, hold, hkeep, hsize', hmax', hinitial⟩ :=
        @rbWrite_of_grow pe.rb ⟨.tsPacket, pkt.toList, payloadOffset pkt⟩ _ fresh h.rb
          (payload_src_le hfits) hfull hmore hmax
      rw [peAppend_eq hfits, hwrite, pure_bind]
      refine ⟨⟨_, _, rfl, hwf, hmax'.trans h.sizeMax, hinitial.trans h.sizeInitial⟩, old,
        payload pkt, hcontents.trans (congrArg _ (cellsFrom_payload pkt)), hold, hlen, hend, ?_⟩
      rintro (hsame | hunwrapped)
      · have hgrown : pe.rb.size < next.size := by omega
        exact absurd hsame hgrown.ne'
      · exact hkeep hunwrapped
  · have hfill := h.rb.fill_le
    obtain ⟨next, hwrite, -, hwf, -, hqueue⟩ := @peAppend_of_room fresh pe pkt h hfits (by omega)
    rw [hwrite]
    exact ⟨⟨_, _, rfl, hwf⟩, _, _, congrArg PesQueue.bytes hqueue, pe.rb.length_contents, hlen,
      hend, fun _ => rfl⟩

/-- A call on a packet meets no fault and appends an end of the packet just when the adaptation
field fits. -/
lemma peProcessPacket_step (h : pe.WF) :
    ((peProcessPacket fresh pe pkt).Safe ∧ pe.AppendsEnd fresh pkt ↔ AdaptationFits pkt) ∧
      (AdaptationFits pkt → (peProcessPacket fresh pe pkt).val.2.WF) := by
  have hstep : AdaptationFits pkt → (peProcessPacket fresh pe pkt).Safe ∧
      (peProcessPacket fresh pe pkt).val.2.WF := by
    intro hfits
    obtain ⟨⟨written, next, happend, hwf⟩, -⟩ := @peAppend_appendsEnd fresh pe pkt h hfits
    obtain ⟨last, hdequeue, hholds⟩ := @peDequeue_eq fresh next (rbUsed next.rb + 1) hwf
    rw [peProcessPacket, happend, pure_bind]
    dsimp only
    rw [hdequeue]
    cases written with
    | false => exact ⟨Checked.safe_pure _, hwf⟩
    | true => exact ⟨Checked.safe_pure _, hholds.wf⟩
  refine ⟨⟨fun hsafe => ?_, fun hfits => ?_⟩, fun hfits => (hstep hfits).2⟩
  · by_contra hfits
    exact not_safe_peAppend hfits (Checked.safe_bind.mp hsafe.1).1
  · exact ⟨(hstep hfits).1, (peAppend_appendsEnd h hfits).2⟩

end Append

/-- In a run on a new extractor every call meets no fault and no size that wraps around, and appends
to the ring buffer an end of its packet of at most 184 bytes, just when every adaptation field ends
inside its packet. -/
theorem peProcessPacket_safe_iff (fresh : ℕ → Byte) {pid : Word} {pe : PesExtractor}
    (hnew : peAlloc fresh pid = some pe) (pkts : List TsPacket) :
    Runs.Behaves (peProcessPacket fresh) (fun pe pkt _ _ => pe.AppendsEnd fresh pkt) pe pkts ↔
      ∀ pkt ∈ pkts, AdaptationFits pkt := by
  rw [← Runs.meets_iff_forall pe pkts]
  refine Runs.behaves_iff_meets (fun pe pkt h => ?_) (fun pe pkt h => ?_)
    (peAlloc_holds hnew).wf pkts
  · exact (peProcessPacket_step h).1
  · exact (peProcessPacket_step h).2

/-- An adaptation field that ends with its packet, behind a packet without one. -/
theorem peProcessPacket_safe_full :
    ∃ pe, peAlloc (fun _ => 0) 100 = some pe ∧
      Runs.Behaves (peProcessPacket fun _ => 0)
        (fun pe pkt _ _ => pe.AppendsEnd (fun _ => 0) pkt) pe
        [zeroPad 188 [0x47, 0, 100, 0x10], zeroPad 188 [0x47, 0, 100, 0x20, 183]] :=
  ⟨_, rfl, (@peProcessPacket_safe_iff (fun _ => 0) 100 _ rfl _).mpr
    (by simp [AdaptationFits, adaption, adaptationFieldLength, zeroPad])⟩

/-- An adaptation field of 184 bytes makes the sizes wrap around. -/
theorem not_peProcessPacket_safe :
    ∃ pe pkts, peAlloc (fun _ => 0) 100 = some pe ∧
      ¬Runs.Behaves (peProcessPacket fun _ => 0)
        (fun pe pkt _ _ => pe.AppendsEnd (fun _ => 0) pkt) pe pkts := by
  refine ⟨_, [zeroPad 188 [0x47, 0, 100, 0x20, 184]], rfl, ?_⟩
  rintro ⟨⟨hsafe, -⟩, -⟩
  have hfits : ¬AdaptationFits (zeroPad 188 [0x47, 0, 100, 0x20, 184]) := by
    simp [AdaptationFits, adaption, adaptationFieldLength, zeroPad]
  exact not_safe_peAppend hfits (Checked.safe_bind.mp hsafe).1

end Libklvanc
