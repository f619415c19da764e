import Libklvanc.Scte104.Framing
import Libklvanc.Scte104.OperationBounds

/-!
# Messages that are parsed without a fault

What has to be there for `parse_SCTE_104` to take a message without leaving an array. A message in
several fragments is put together without a fault if none of its fragments is missing
(`messageFragmentFinal_safe`); the operations are taken out of it if the message ends inside the
array of 2000 octets (`parseMultipleOperationMessage_safe`); and they are decoded if the parser of
each finds its data. For a message that is handed to the application, these are all the ways in
which a fault can be met (`parseSCTE104_accepted`).
-/

namespace Libklvanc

/-! ### Whole messages -/

/-- The loop over the operations stays inside the message and inside the data of the operations
exactly when the operations stand inside the message and their parsers stay inside their data. -/
lemma parseOperations_safe {payload : List Byte} {L pos count : ℕ}
    {ops : List MultipleOperationMessageOperation}
    (h : (parseOperations payload L pos count).val = some ops) :
    (parseOperations payload L pos count).Safe ↔
      (∀ i ∈ Records.starts (operationSize payload) pos count,
        i + 4 + operationDataLength payload i ≤ payload.length) ∧
      ∀ o ∈ ops, (parseOperation o.opID o.data).Safe := by
  induction count generalizing pos ops with
  | zero =>
    obtain rfl : ops = [] := by simpa [parseOperations] using h.symm
    exact iff_of_true (Checked.safe_pure _) ⟨List.forall_mem_nil _, List.forall_mem_nil _⟩
  | succ count ih =>
    simp only [parseOperations, Checked.bind_val] at h
    split_ifs at h with hcheck
    simp only [Checked.bind_val, Checked.pure_val, Option.map_eq_some_iff] at h
    obtain ⟨rest, hrest, rfl⟩ := h
    have hfields := parseOperation_fields (readBe16 .messagePayload payload pos).val
      (copyFrom .messagePayload payload (pos + 4)
        (readBe16 .messagePayload payload (pos + 2)).val.toNat).val
    have hlen : (readBe16 .messagePayload payload (pos + 2)).val.toNat =
        operationDataLength payload pos := by
      rw [readBe16_val]
      rfl
    have hsafe := ih hrest
    rw [hlen] at hfields hrest
    have hsafe := ih hrest
    simp only [parseOperations, Checked.safe_bind]
    rw [if_neg hcheck]
    simp only [Checked.safe_bind, Checked.safe_pure, and_true, safe_readBe16, hlen, hsafe,
      Records.starts, List.forall_mem_cons, hfields.1, hfields.2, Checked.safe_readRange,
      operationSize]
    constructor
    · rintro ⟨-, hhead, hdata, hop, hstarts, hops⟩
      exact ⟨⟨by omega, hstarts⟩, hop, hops⟩
    · rintro ⟨⟨hend, hstarts⟩, hop, hops⟩
      exact ⟨by omega, by omega, by omega, hop, hstarts, hops⟩

/-- The timestamp is read inside the message exactly when it ends there. -/
lemma parseMomTimestamp_safe (payload : List Byte) (i : ℕ) :
    (parseMomTimestamp payload i).Safe ↔ i + timestampSize (payload.getD i 0) ≤ payload.length := by
  unfold parseMomTimestamp timestampSize
  simp only [Checked.safe_bind, Checked.safe_read, Checked.read_val]
  split_ifs
  · simp only [Checked.safe_bind, Checked.safe_pure, safe_readBe16, safe_readBe32, and_true]
    omega
  · simp only [Checked.safe_bind, Checked.safe_pure, Checked.safe_read, and_true]
    omega
  · simp only [Checked.safe_bind, Checked.safe_pure, Checked.safe_read, and_true]
    omega
  · simp only [Checked.safe_pure, and_true]
    omega

/-- A multiple operation message that is accepted has been parsed without a fault exactly when it
ends inside the array and the parsers of its operations stay inside their data. -/
lemma parseMultipleOperationMessage_safe {payload : List Byte} {L : ℕ}
    {m : MultipleOperationMessage}
    (hroom : 10 ≤ payload.length) (h : (parseMultipleOperationMessage payload L).val = some m) :
    (parseMultipleOperationMessage payload L).Safe ↔
      messageEnd payload ≤ payload.length ∧ ∀ o ∈ m.ops, (parseOperation o.opID o.data).Safe := by
  unfold parseMultipleOperationMessage at h ⊢
  split_ifs at h with hlen
  simp only [Checked.bind_val] at h
  split_ifs at h with hsize
  simp only [Checked.bind_val, Checked.pure_val, Option.map_eq_some_iff] at h
  obtain ⟨ops, hops, rfl⟩ := h
  have hsafe := parseOperations_safe hops
  rw [if_neg hlen]
  simp only [Checked.safe_bind]
  rw [if_neg hsize]
  simp only [Checked.safe_bind, Checked.safe_pure, and_true, safe_readBe16, Checked.safe_read,
    hsafe, parseMomTimestamp_safe]
  rw [← framedWithin_iff, FramedWithin, operationStarts, announcedOps, numOpsPos]
  simp only [parseMomTimestamp_snd, Checked.read_val]
  constructor
  · rintro ⟨-, -, -, -, -, -, -, hts, hcount, hstarts, hall⟩
    exact ⟨⟨hroom, by omega, by omega, hstarts⟩, hall⟩
  · rintro ⟨⟨-, hts, hcount, hstarts⟩, hall⟩
    exact ⟨by omega, by omega, by omega, by omega, by omega, by omega, by omega, by omega, by omega,
      hstarts, hall⟩

/-- So has a message whose operations are handed to the application. -/
lemma parseScte104Message_safe {hdr : KlvancPacketHeader} {descriptor : Byte}
    {pkt : KlvancPacketScte104}
    (h : (parseScte104Message hdr descriptor).val = some pkt) :
    (parseScte104Message hdr descriptor).Safe ↔
      messageEnd pkt.payload ≤ 2000 ∧ ∀ o ∈ pkt.moMsg.ops, (parseOperation o.opID o.data).Safe := by
  obtain ⟨hpayload, -⟩ := parseScte104Message_payload h
  have hlen : (messageOctets hdr).length = 2000 := by
    rw [messageOctets, List.length_map, List.length_range]
  unfold parseScte104Message at h ⊢
  simp only [Checked.bind_val] at h
  split_ifs at h with hop
  simp only [Checked.bind_val, Checked.pure_val, Option.map_eq_some_iff] at h
  obtain ⟨m, hm, rfl⟩ := h
  have hsafe := parseMultipleOperationMessage_safe (by rw [hlen]; norm_num) hm
  simp only [Checked.safe_bind]
  rw [if_pos hop]
  simp only [Checked.safe_bind, Checked.safe_pure, and_true, safe_readBe16, hsafe, hlen]
  exact and_iff_right (by norm_num)

/-! ### Messages in several fragments -/

/-- The fragments leave room for the last one, and none of them is missing. -/
def Scte104Fragments.Complete (frags : Scte104Fragments) : Prop :=
  frags.count < scte104MaxFragments ∧ ∀ slot ∈ frags.slots.toList.take frags.count, slot.isSome

/-- A payload that is appended is so without a fault. -/
lemma klvancPacketPayloadAppend_safe {dst src dst' : KlvancPacketHeader} {offset : ℕ}
    (h : (klvancPacketPayloadAppend dst src offset).val = some dst') :
    (klvancPacketPayloadAppend dst src offset).Safe := by
  unfold klvancPacketPayloadAppend at h ⊢
  split_ifs with h₁ h₂ h₃
  · exact Checked.safe_pure _
  · exact Checked.safe_pure _
  · rw [if_neg h₁, if_neg h₂, if_pos h₃] at h
    exact absurd h.symm (Option.some_ne_none _)
  · exact Checked.safe_pure _

/-- Fragments that have been put together have been so without a fault exactly when none is
missing. -/
lemma messageFragmentJoin_safe {dst full : KlvancPacketHeader} {offset : ℕ}
    {slots : List (Option KlvancPacketHeader)}
    (h : (messageFragmentJoin dst offset slots).val = some full) :
    (messageFragmentJoin dst offset slots).Safe ↔ ∀ slot ∈ slots, slot.isSome := by
  induction slots generalizing dst offset with
  | nil => exact iff_of_true (Checked.safe_pure _) (List.forall_mem_nil _)
  | cons slot slots ih =>
    cases slot with
    | none =>
      refine iff_of_false (Checked.not_safe_fault _ _) ?_
      rw [List.forall_mem_cons]
      rintro ⟨hnone, -⟩
      exact Bool.false_ne_true hnone
    | some frag =>
      have hfrag : (some frag).isSome = true := rfl
      rw [List.forall_mem_cons, and_iff_right hfrag]
      rw [messageFragmentJoin] at h ⊢
      cases hjoined : (klvancPacketPayloadAppend dst frag offset).val with
      | none =>
        rw [Checked.bind_val, hjoined] at h
        exact absurd h (by simp)
      | some dst' =>
        rw [Checked.bind_val, hjoined] at h
        rw [Checked.safe_bind, hjoined, and_iff_right (klvancPacketPayloadAppend_safe hjoined)]
        exact ih h

/-- A message that has been put together has been so without a fault exactly when its fragments are
complete. -/
lemma messageFragmentFinal_safe {frags : Scte104Fragments} {hdr full : KlvancPacketHeader}
    (h : (messageFragmentFinal frags hdr).val.1 = some full) :
    (messageFragmentFinal frags hdr).Safe ↔ frags.Complete := by
  unfold messageFragmentFinal at h ⊢
  by_cases hzero : frags.count = 0
  · rw [if_pos hzero] at h
    exact absurd h.symm (Option.some_ne_none _)
  rw [if_neg hzero] at h ⊢
  by_cases hroom : frags.count < scte104MaxFragments
  · have happend : messageFragmentAppend frags hdr = pure _ := dif_pos hroom
    rw [happend, pure_bind] at h ⊢
    rw [Checked.bind_val, Checked.pure_val] at h
    rw [Checked.safe_bind, and_iff_left (Checked.safe_pure _), messageFragmentJoin_safe h,
      Scte104Fragments.Complete, and_iff_right hroom]
    have hlen : frags.count < frags.slots.toList.length := by rwa [Vector.length_toList]
    rw [Vector.toList_set, List.take_add_one, List.take_set_of_le le_rfl,
      List.getElem?_set_self hlen, List.forall_mem_append]
    exact and_iff_left (List.forall_mem_singleton.mpr rfl)
  · have happend : messageFragmentAppend frags hdr = Checked.fault _ _ := dif_neg hroom
    rw [happend]
    refine iff_of_false ?_ fun hcomplete => hroom hcomplete.1
    rw [Checked.safe_bind]
    exact fun hsafe => Checked.not_safe_fault _ _ hsafe.1

/-! ### Accepted messages -/

section Accepted
variable {run : KlvancRun} {hdr : KlvancPacketHeader} {pkt : KlvancPacketScte104}

/-- A message that is delivered has been decoded, and the faults met are those of decoding it. -/
lemma deliverScte104_delivered {run' : KlvancRun} {full : KlvancPacketHeader} {descriptor : Byte}
    (hcalls : run'.calls = run.calls)
    (h : (deliverScte104 run' full descriptor).2.calls = run.calls ++ [.scte104 pkt]) :
    (parseScte104Message full descriptor).val = some pkt ∧
      (deliverScte104 run' full descriptor).2.faults =
        run'.faults ++ (parseScte104Message full descriptor).faults := by
  refine ⟨?_, deliverScte104_faults⟩
  rw [deliverScte104_calls, hcalls, List.append_cancel_left_eq] at h
  cases hval : (parseScte104Message full descriptor).val with
  | none => simp [hval] at h
  | some pkt' =>
    rw [hval] at h
    simpa using h

/-- A packet handed to the application was decoded from some header. No fault has been met if the
fragments, if there are several, are complete and decoding meets none. -/
lemma parseSCTE104_accepted (h : (parseSCTE104 run hdr).2.calls = run.calls ++ [.scte104 pkt]) :
    ∃ full descriptor, (parseScte104Message full descriptor).val = some pkt ∧
      ((parseSCTE104 run hdr).2.faults = run.faults ↔
        (hdr.payloadByte 0 ≠ 0x08 → run.ctx.scte104.Complete) ∧
          (parseScte104Message full descriptor).Safe) := by
  have hnone : ∀ calls : List KlvancCall, calls ≠ calls ++ [.scte104 pkt] := by
    intro calls heq
    exact absurd (congrArg List.length heq) (by simp)
  unfold parseSCTE104 at h ⊢
  dsimp only at h ⊢
  by_cases hreg : (!run.ctx.registered (·.scte104)) = true
  · rw [if_pos hreg] at h
    exact absurd h (hnone _)
  rw [if_neg hreg] at h ⊢
  by_cases hdup : (hdr.payloadByte 0).getLsbD 0 = true
  · rw [if_pos hdup] at h
    exact absurd h (hnone _)
  rw [if_neg hdup] at h ⊢
  by_cases hsingle : hdr.payloadByte 0 ≠ 0x08
  · rw [if_pos hsingle] at h ⊢
    cases hcont : (hdr.payloadByte 0).getLsbD 2 <;> cases hfoll : (hdr.payloadByte 0).getLsbD 1 <;>
      simp only [hcont, hfoll] at h ⊢
    · exact absurd h (hnone _)
    · cases hfinal : (messageFragmentFinal run.ctx.scte104 hdr).val.1 with
      | none =>
        rw [hfinal] at h
        exact absurd h (hnone _)
      | some full =>
        rw [hfinal] at h
        dsimp only at h ⊢
        obtain ⟨hval, hfaults⟩ := deliverScte104_delivered (by rfl) h
        refine ⟨full, _, hval, ?_⟩
        have hbefore : ((run.setFragments
            (messageFragmentFinal run.ctx.scte104 hdr).val.2).addFaults
            (messageFragmentFinal run.ctx.scte104 hdr).faults).faults =
              run.faults ++ (messageFragmentFinal run.ctx.scte104 hdr).faults := rfl
        rw [hfaults, hbefore, List.append_assoc, List.append_right_eq_self, List.append_eq_nil_iff]
        exact and_congr ((messageFragmentFinal_safe hfinal).trans
          ⟨fun hc _ => hc, fun hc => hc hsingle⟩)
          Iff.rfl
    · exact absurd h (hnone _)
    · exact absurd h (hnone _)
  · rw [if_neg hsingle] at h ⊢
    obtain ⟨hval, hfaults⟩ := deliverScte104_delivered (by rfl) h
    refine ⟨hdr, _, hval, ?_⟩
    rw [hfaults]
    have hbefore : (run.setFragments (messageFragmentReset run.ctx.scte104)).faults = run.faults :=
      rfl
    rw [hbefore, List.append_right_eq_self, and_iff_right fun hne => absurd hne hsingle]
    rfl

end Accepted

end Libklvanc
