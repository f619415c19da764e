import Libklvanc.Core.Basic
import Libklvanc.Scte104.Types

/-!
# Building a multiple operation message

`klvanc_alloc_SCTE_104` and `klvanc_SCTE_104_Add_MOM_Op`, which appends an operation for its caller
to fill in. The count `num_ops` is an octet. As long as it has not reached 255 a call grows `ops` by
one element and returns it (`klvancScte104AddMomOp_eq`); the 256th call counts to zero, releases all
operations and clears memory in front of the array. So an addition loses nothing exactly in runs of
at most 255 calls (`addsAll_iff`).
-/

namespace Libklvanc

/-- `klvanc_alloc_SCTE_104`. -/
def klvancAllocScte104 (opId : Word) : KlvancPacketScte104 where
  payloadDescriptorByte := 0x08
  version := 0x08
  payload := List.replicate 2000 0
  soMsg := { opID := opId }
  moMsg := { rsvd := if opId = 0xffff then 0xffff else 0 }

/-- The packet with other operations. -/
def KlvancPacketScte104.withOps (pkt : KlvancPacketScte104) (numOps : Byte)
    (ops : List MultipleOperationMessageOperation) : KlvancPacketScte104 :=
  { pkt with moMsg := { pkt.moMsg with numOps, ops } }

/-- `klvanc_SCTE_104_Add_MOM_Op`: what it returns, the index in `ops` of the element `op` points to,
and the packet after the call. -/
def klvancScte104AddMomOp (fresh : ℕ → MultipleOperationMessageOperation)
    (pkt : KlvancPacketScte104) (opId : Word) : Checked Fault (ℤ × ℤ × KlvancPacketScte104) :=
  let numOps := pkt.moMsg.numOps + 1
  let ops := reallocTo fresh pkt.moMsg.ops numOps.toNat
  let op : ℤ := numOps.toNat - 1
  if op < 0 then
    Checked.fault (.before .ops) (0, op, pkt.withOps numOps ops)
  else
    pure (0, op, pkt.withOps numOps (ops.set op.toNat { opID := opId }))

/-- A call, and what its caller makes of the operation returned. -/
structure AddOperation where
  opId : Word
  fill : MultipleOperationMessageOperation → MultipleOperationMessageOperation

/-- The operation when the caller has filled it in. -/
def AddOperation.operation (call : AddOperation) : MultipleOperationMessageOperation :=
  call.fill { opID := call.opId }

/-- The caller fills in the operation that `op` points to. -/
def fillOperation (pkt : KlvancPacketScte104) (op : ℤ)
    (fill : MultipleOperationMessageOperation → MultipleOperationMessageOperation) :
    KlvancPacketScte104 :=
  pkt.withOps pkt.moMsg.numOps (pkt.moMsg.ops.modify op.toNat fill)

/-- One call on a packet. -/
def addOperation (fresh : ℕ → MultipleOperationMessageOperation) (pkt : KlvancPacketScte104)
    (call : AddOperation) : Checked Fault KlvancPacketScte104 := do
  let (_, op, pkt) ← klvancScte104AddMomOp fresh pkt call.opId
  pure (fillOperation pkt op call.fill)

/-- Any calls on a packet made for a multiple operation message. -/
def addOperations (fresh : ℕ → MultipleOperationMessageOperation) (calls : List AddOperation) :
    Checked Fault KlvancPacketScte104 :=
  calls.foldlM (addOperation fresh) (klvancAllocScte104 0xffff)

/-! ### One call -/

section OneCall

variable (fresh : ℕ → MultipleOperationMessageOperation) {pkt : KlvancPacketScte104}

/-- An array that grows by one cell keeps the others. -/
lemma reallocTo_succ {α : Type} (fresh : ℕ → α) (l : List α) :
    reallocTo fresh l (l.length + 1) = l ++ [fresh l.length] := by
  simp [reallocTo, List.take_of_length_le]

/-- The count is what it counts as long as there is room in an octet. -/
lemma toNat_add_one {b : Byte} (h : b.toNat < 255) : (b + 1).toNat = b.toNat + 1 := by
  rw [BitVec.toNat_add_of_lt]
  · rfl
  · exact Nat.add_lt_of_lt_sub h

/-- A call appends a cleared operation as long as there is room in the count. -/
lemma klvancScte104AddMomOp_eq (hcount : pkt.moMsg.numOps.toNat = pkt.moMsg.ops.length)
    (hroom : pkt.moMsg.ops.length < 255) (opId : Word) :
    klvancScte104AddMomOp fresh pkt opId =
      pure (0, (pkt.moMsg.ops.length : ℤ),
        pkt.withOps (pkt.moMsg.numOps + 1) (pkt.moMsg.ops ++ [{ opID := opId }])) := by
  have hnum : (pkt.moMsg.numOps + 1).toNat = pkt.moMsg.ops.length + 1 := by
    rw [toNat_add_one (by rwa [hcount]), hcount]
  have hop : ((pkt.moMsg.ops.length + 1 : ℕ) : ℤ) - 1 = pkt.moMsg.ops.length := by
    push_cast
    ring
  have hnonneg : ¬(pkt.moMsg.ops.length : ℤ) < 0 := not_lt.mpr (Int.natCast_nonneg _)
  unfold klvancScte104AddMomOp
  simp only [hnum, hop, hnonneg, if_false, reallocTo_succ, Int.toNat_natCast]
  rw [List.set_append_right _ _ le_rfl, Nat.sub_self, List.set_cons_zero]

/-- What the caller fills in is the new last operation. -/
lemma addOperation_eq (hcount : pkt.moMsg.numOps.toNat = pkt.moMsg.ops.length)
    (hroom : pkt.moMsg.ops.length < 255) (call : AddOperation) :
    addOperation fresh pkt call =
      pure (pkt.withOps (pkt.moMsg.numOps + 1) (pkt.moMsg.ops ++ [call.operation])) := by
  unfold addOperation
  rw [klvancScte104AddMomOp_eq fresh hcount hroom, pure_bind]
  simp only [fillOperation, Int.toNat_natCast, KlvancPacketScte104.withOps]
  have hlast : pkt.moMsg.ops.length <
      (pkt.moMsg.ops ++ [({ opID := call.opId } : MultipleOperationMessageOperation)]).length := by
    rw [List.length_append]
    exact Nat.lt_succ_self _
  rw [List.modify_eq_take_cons_drop hlast]
  simp [AddOperation.operation]

end OneCall

/-! ### Any number of calls -/

section Run

variable (fresh : ℕ → MultipleOperationMessageOperation) {calls : List AddOperation}

/-- After at most 255 calls the packet holds all the operations, and is otherwise as it was made. -/
theorem addOperations_eq (h : calls.length ≤ 255) :
    addOperations fresh calls =
      pure ((klvancAllocScte104 0xffff).withOps (BitVec.ofNat 8 calls.length)
        (calls.map AddOperation.operation)) := by
  induction calls using List.reverseRecOn with
  | nil => rfl
  | append_singleton calls call ih =>
    rw [List.length_append, List.length_singleton] at h
    have hcount : (BitVec.ofNat 8 calls.length).toNat =
        (calls.map AddOperation.operation).length := by
      rw [List.length_map, BitVec.toNat_ofNat, Nat.mod_eq_of_lt (Nat.lt_succ_of_lt h)]
    have hroom : (calls.map AddOperation.operation).length < 255 := by
      rw [List.length_map]
      exact h
    rw [addOperations] at ih
    rw [addOperations, List.foldlM_append, ih (Nat.le_of_succ_le h), pure_bind, List.foldlM_cons,
      addOperation_eq fresh hcount hroom, pure_bind, List.foldlM_nil, List.length_append,
      List.length_singleton, BitVec.ofNat_add, List.map_append, List.map_singleton]
    rfl

/-- The packet counts its operations and holds what the callers have made of them, in order. -/
def KlvancPacketScte104.Holds (pkt : KlvancPacketScte104) (calls : List AddOperation) : Prop :=
  pkt.moMsg.numOps.toNat = calls.length ∧ pkt.moMsg.ops = calls.map AddOperation.operation

/-- A call returns a pointer to a new last operation, or it fails and leaves the packet alone. -/
def AppendsOrFails (pkt : KlvancPacketScte104) (result : ℤ × ℤ × KlvancPacketScte104) : Prop :=
  (result.1 = 0 ∧ result.2.1 = pkt.moMsg.ops.length ∧
      result.2.2.moMsg.ops.length = pkt.moMsg.ops.length + 1) ∨
    (result.1 < 0 ∧ result.2.2 = pkt)

/-- Throughout a run the packet holds all the operations, and every call appends one or fails. -/
def AddsAll (calls : List AddOperation) : Prop :=
  ∀ past future, calls = past ++ future →
    (addOperations fresh past).Safe ∧ (addOperations fresh past).val.Holds past ∧
      ∀ call ∈ future.head?,
        (klvancScte104AddMomOp fresh (addOperations fresh past).val call.opId).Safe ∧
          AppendsOrFails (addOperations fresh past).val
            (klvancScte104AddMomOp fresh (addOperations fresh past).val call.opId).val

/-- More operations than the count can hold are not all held. -/
lemma AddsAll.length_le (h : AddsAll fresh calls) : calls.length ≤ 255 := by
  obtain ⟨-, ⟨hcount, -⟩, -⟩ := h calls [] (List.append_nil _).symm
  rw [← hcount]
  exact Nat.le_of_lt_succ (BitVec.isLt _)

/-- No operation is lost exactly in runs of at most 255 calls. -/
theorem addsAll_iff (calls : List AddOperation) : AddsAll fresh calls ↔ calls.length ≤ 255 := by
  constructor
  · intro h
    exact h.length_le fresh
  · intro hlen past future hcalls
    rw [hcalls, List.length_append] at hlen
    have hpast : past.length ≤ 255 := (Nat.le_add_right _ _).trans hlen
    have hcount : (BitVec.ofNat 8 past.length).toNat = past.length := by
      rw [BitVec.toNat_ofNat, Nat.mod_eq_of_lt (Nat.lt_succ_of_le hpast)]
    rw [addOperations_eq fresh hpast]
    refine ⟨Checked.safe_pure _, ⟨hcount, rfl⟩, ?_⟩
    intro call hcall
    have hroom : past.length < 255 := by
      cases future with
      | nil => cases hcall
      | cons next future =>
        rw [List.length_cons] at hlen
        omega
    rw [Checked.pure_val, klvancScte104AddMomOp_eq fresh]
    · refine ⟨Checked.safe_pure _, Or.inl ⟨rfl, rfl, ?_⟩⟩
      simp [KlvancPacketScte104.withOps]
    · exact hcount.trans (List.length_map _).symm
    · exact (List.length_map _).trans_lt hroom

/-- After the 256th call the operations are lost. -/
theorem not_addsAll_256 :
    ¬AddsAll (fun _ => { opID := 0 })
      (List.replicate 256 { opId := MomOperation.spliceRequestData.opID, fill := id }) := by
  intro h
  have hlen := h.length_le
  rw [List.length_replicate] at hlen
  exact absurd hlen (by decide)

end Run

end Libklvanc
