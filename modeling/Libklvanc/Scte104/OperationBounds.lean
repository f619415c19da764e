import Libklvanc.Bitstream.Reader
import Libklvanc.Scte104.Parse

/-!
# The bounds of the operation parsers

Which data the parser of an operation can take without leaving its bounds. A parser stays in bounds
when every octet it reads lies inside the operation's data, every cell it fills lies inside the
array it fills, and every length or count it stores is at most the size of the array it describes
(`MultipleOperationMessageOperation.LengthsFit`). No parser looks at the length of the data before
it reads, and hence each of them stays in bounds only on data of a certain form, which
`OperationFits` spells out (`parseOperation_inBounds_iff`).

For a whole message the operations are independent of each other
(`parseMultipleOperationMessage_inBounds_iff`).
-/

namespace Libklvanc

/-- Every stored length or count is at most the size of the array it describes. The lengths of the
members that a parser does not fill are zero. -/
def MultipleOperationMessageOperation.LengthsFit (o : MultipleOperationMessageOperation) : Prop :=
  o.descriptorData.totalLength.toNat ≤ 255 ∧ o.availDescriptorData.numProviderAvails.toNat ≤ 255 ∧
    o.dtmfData.dtmfLength.toNat ≤ 7 ∧ o.segmentationData.upidLength.toNat ≤ 255 ∧
    o.proprietaryData.dataLength.toNat ≤ 255

/-- The value of octet `i` of the data, zero behind them. -/
def octetAt (data : List Byte) (i : ℕ) : ℕ := (data.getD i 0).toNat

/-- The data that the parser of an operation can take without leaving its bounds. -/
def OperationFits (opID : Word) (data : List Byte) : Prop :=
  match MomOperation.ofID opID with
  | some .spliceRequestData => 14 ≤ data.length
  | some .timeSignalRequestData => 2 ≤ data.length
  | some .insertDescriptorRequestData => 1 ≤ data.length ∧ data.length ≤ 256
  | some .insertDtmfRequestData => octetAt data 1 ≤ 7 ∧ 2 + octetAt data 1 ≤ data.length
  | some .insertAvailDescriptorRequestData => 1 + 4 * octetAt data 0 ≤ data.length
  | some .insertSegmentationRequestData => 18 + octetAt data 8 ≤ data.length
  | some .proprietaryCommandRequestData => 5 ≤ data.length ∧ data.length ≤ 260
  | some .insertTierData => 2 ≤ data.length
  | some .insertTimeDescriptor => 12 ≤ data.length
  | some .spliceNullRequestData | none => True

instance (opID : Word) (data : List Byte) : Decidable (OperationFits opID data) := by
  unfold OperationFits
  cases MomOperation.ofID opID with
  | none => infer_instance
  | some k => cases k <;> infer_instance

/-! ### Reads -/

section Reads

variable {obj : MemObject} {p : List Byte} {i : ℕ}

/-- Reading two octets stays inside exactly when the second one does. -/
@[simp] lemma safe_readBe16 : (readBe16 obj p i).Safe ↔ i + 2 ≤ p.length := by
  simp only [readBe16, Checked.safe_bind, Checked.safe_read, Checked.safe_pure, and_true]
  omega

/-- Reading four octets stays inside exactly when the last one does. -/
@[simp] lemma safe_readBe32 : (readBe32 obj p i).Safe ↔ i + 4 ≤ p.length := by
  simp only [readBe32, Checked.safe_bind, Checked.safe_read, Checked.safe_pure, and_true]
  omega

/-- Reading one octet stays inside exactly when it does. -/
@[simp] lemma safe_readUInt8 : (readUInt8 obj p i).Safe ↔ i < p.length := by
  simp only [readUInt8, Checked.safe_bind, Checked.safe_read, Checked.safe_pure, and_true]

/-- The value of an octet stored in an `unsigned int`. -/
@[simp] lemma readUInt8_val_toNat : (readUInt8 obj p i).val.toNat = octetAt p i := by
  simp only [readUInt8, Checked.bind_val, Checked.pure_val, Checked.read_val, octetAt,
    BitVec.toNat_setWidth]
  exact Nat.mod_eq_of_lt (lt_trans (BitVec.isLt _) (by norm_num))

/-- An octet has eight bits. -/
lemma octetAt_lt : octetAt p i < 256 := BitVec.isLt _

end Reads

/-! ### One parser at a time -/

section Parsers

variable {p : List Byte}

lemma safe_parseSpliceRequestData : (parseSpliceRequestData p).Safe ↔ 14 ≤ p.length := by
  simp only [parseSpliceRequestData, Checked.safe_bind, Checked.safe_read, Checked.safe_pure,
    safe_readUInt8, safe_readBe16, safe_readBe32, and_true]
  omega

lemma safe_parseTimeSignalRequestData : (parseTimeSignalRequestData p).Safe ↔ 2 ≤ p.length := by
  simp [parseTimeSignalRequestData]

lemma safe_parseTierData : (parseTierData p).Safe ↔ 2 ≤ p.length := by
  simp [parseTierData]

/-- The loop over the avail ids stays inside the data exactly when its last id does. -/
lemma safe_parseAvailIds {i count : ℕ} :
    (parseAvailIds p i count).Safe ↔ count = 0 ∨ i + 4 * count ≤ p.length := by
  induction count generalizing i with
  | zero => simp [parseAvailIds]
  | succ count ih =>
    simp only [parseAvailIds, Checked.safe_bind, safe_readBe32, ih, Checked.safe_pure,
      and_true]
    omega

/-- The loop over the avail ids returns as many as it is asked for. -/
lemma parseAvailIds_length (i count : ℕ) : (parseAvailIds p i count).val.length = count := by
  induction count generalizing i with
  | zero => rfl
  | succ count ih => simp [parseAvailIds, ih]

lemma parseAvailRequestData_inBounds_iff :
    (parseAvailRequestData p).Safe ∧
        (parseAvailRequestData p).val.numProviderAvails.toNat ≤ 255 ↔
      1 + 4 * octetAt p 0 ≤ p.length := by
  have hlt : octetAt p 0 < 256 := octetAt_lt
  simp only [parseAvailRequestData, Checked.safe_bind, Checked.bind_val, Checked.pure_val,
    safe_readUInt8, readUInt8_val_toNat, safe_parseAvailIds, safe_storeInto, parseAvailIds_length,
    Checked.safe_pure, and_true]
  omega

lemma parseDescriptorRequestData_inBounds_iff {n : BitVec 32} :
    (parseDescriptorRequestData p n).Safe ∧
        (parseDescriptorRequestData p n).val.totalLength.toNat ≤ 255 ↔
      1 ≤ p.length ∧ n.toNat ≤ 255 ∧ (n.toNat < 255 → 1 + n.toNat ≤ p.length) := by
  unfold parseDescriptorRequestData
  simp only [Checked.safe_bind, Checked.bind_val, safe_readUInt8]
  split_ifs with h
  · simp only [Checked.safe_bind, Checked.bind_val, Checked.pure_val, Checked.safe_pure,
      Checked.safe_readRange, safe_storeInto, Checked.readRange_length, and_true]
    omega
  · simp only [Checked.safe_pure, Checked.pure_val, and_true]
    omega

lemma parseDtmfRequestData_inBounds_iff :
    (parseDtmfRequestData p).Safe ∧ (parseDtmfRequestData p).val.dtmfLength.toNat ≤ 7 ↔
      octetAt p 1 ≤ 7 ∧ 2 + octetAt p 1 ≤ p.length := by
  unfold parseDtmfRequestData
  simp only [Checked.safe_bind, Checked.bind_val, Checked.safe_read, safe_readUInt8,
    readUInt8_val_toNat]
  split_ifs with h
  · simp only [Checked.safe_bind, Checked.bind_val, Checked.pure_val, Checked.safe_pure,
      Checked.safe_readRange, safe_storeInto, Checked.readRange_length, readUInt8_val_toNat,
      and_true]
    omega
  · simp only [Checked.safe_pure, Checked.pure_val, readUInt8_val_toNat, and_true]
    omega

/-- The length of the UPID is an octet, and the guard on it never fires. -/
lemma parseSegmentationRequestData_inBounds_iff :
    (parseSegmentationRequestData p).Safe ∧
        (parseSegmentationRequestData p).val.upidLength.toNat ≤ 255 ↔
      18 + octetAt p 8 ≤ p.length := by
  have hlt : octetAt p 8 < 256 := octetAt_lt
  unfold parseSegmentationRequestData
  simp only [Checked.safe_bind, Checked.bind_val, safe_readUInt8, safe_readBe16, safe_readBe32,
    readUInt8_val_toNat]
  rw [if_neg (by omega)]
  simp only [Checked.safe_bind, Checked.bind_val, Checked.pure_val, Checked.safe_pure,
    Checked.safe_readRange, safe_storeInto, Checked.readRange_length, safe_readUInt8,
    readUInt8_val_toNat, and_true]
  omega

lemma parseProprietaryCommandRequestData_inBounds_iff {n : BitVec 32} :
    (parseProprietaryCommandRequestData p n).Safe ∧
        (parseProprietaryCommandRequestData p n).val.dataLength.toNat ≤ 255 ↔
      5 ≤ p.length ∧ (n - 5).toNat ≤ 255 ∧ 5 + (n - 5).toNat ≤ p.length := by
  simp only [parseProprietaryCommandRequestData, Checked.safe_bind, Checked.bind_val,
    Checked.pure_val, Checked.safe_pure, Checked.safe_readRange, safe_storeInto,
    Checked.readRange_length, safe_readUInt8, safe_readBe32, and_true]
  omega

lemma safe_parseTimeDescriptor : (parseTimeDescriptor p).Safe ↔ 12 ≤ p.length := by
  have h := ((@KlbsContext.Loaded.setBuffer p 12).readBits 48 (by norm_num)
    |>.readBits 32 (by norm_num)).readBits 16 (by norm_num)
  have hused := h.used_eq
  have hlt := h.regUsed_lt
  rw [Checked.Safe, parseTimeDescriptor, h.faults_iff]
  omega

end Parsers

/-- The parser of an operation stays in bounds exactly on the data that fit it. -/
lemma parseOperation_inBounds_iff (opID : Word) {data : List Byte} (h : data.length < 2 ^ 16) :
    (parseOperation opID data).Safe ∧ (parseOperation opID data).val.LengthsFit ↔
      OperationFits opID data := by
  have hlen : (BitVec.ofNat 16 data.length).toNat = data.length := by
    rw [BitVec.toNat_ofNat, Nat.mod_eq_of_lt h]
  have hz : BitVec.toNat (0 : BitVec 32) = 0 := rfl
  unfold parseOperation OperationFits
  cases hk : MomOperation.ofID opID with
  | none => simp [MultipleOperationMessageOperation.LengthsFit]
  | some k =>
    cases k with
    | spliceRequestData =>
      simp [MultipleOperationMessageOperation.LengthsFit, safe_parseSpliceRequestData]
    | spliceNullRequestData => simp [MultipleOperationMessageOperation.LengthsFit]
    | timeSignalRequestData =>
      simp [MultipleOperationMessageOperation.LengthsFit, safe_parseTimeSignalRequestData]
    | insertDescriptorRequestData =>
      have hd := parseDescriptorRequestData_inBounds_iff (p := data)
        (n := (BitVec.ofNat 16 data.length).setWidth 32 - 1)
      simp only [MultipleOperationMessageOperation.LengthsFit, Checked.safe_bind, Checked.bind_val,
        Checked.pure_val, Checked.safe_pure, and_true]
      simp only [hz, Nat.zero_le, and_true, hd]
      bv_omega
    | insertDtmfRequestData =>
      simp [MultipleOperationMessageOperation.LengthsFit, parseDtmfRequestData_inBounds_iff]
    | insertAvailDescriptorRequestData =>
      simp [MultipleOperationMessageOperation.LengthsFit, parseAvailRequestData_inBounds_iff]
    | insertSegmentationRequestData =>
      simp [MultipleOperationMessageOperation.LengthsFit,
        parseSegmentationRequestData_inBounds_iff]
    | proprietaryCommandRequestData =>
      have hp := parseProprietaryCommandRequestData_inBounds_iff (p := data)
        (n := (BitVec.ofNat 16 data.length).setWidth 32)
      simp only [MultipleOperationMessageOperation.LengthsFit, Checked.safe_bind, Checked.bind_val,
        Checked.pure_val, Checked.safe_pure, and_true]
      simp only [hz, Nat.zero_le, true_and, hp]
      bv_omega
    | insertTierData =>
      simp [MultipleOperationMessageOperation.LengthsFit, safe_parseTierData]
    | insertTimeDescriptor =>
      simp [MultipleOperationMessageOperation.LengthsFit, safe_parseTimeDescriptor]

/-! ### Whole messages -/

/-- What a decoded operation keeps of its data. -/
lemma parseOperation_fields (opID : Word) (data : List Byte) :
    (parseOperation opID data).val.opID = opID ∧ (parseOperation opID data).val.data = data := by
  unfold parseOperation
  cases MomOperation.ofID opID with
  | none => exact ⟨rfl, rfl⟩
  | some k => cases k <;> exact ⟨rfl, rfl⟩

/-- An accepted list of operations begins with what a parser made of the data of the first one, and
the others are accepted behind them. -/
lemma parseOperations_succ {payload : List Byte} {L pos count : ℕ}
    {ops : List MultipleOperationMessageOperation}
    (h : (parseOperations payload L pos (count + 1)).val = some ops) :
    ∃ (opID : Word) (data : List Byte) (pos' : ℕ) (rest : List MultipleOperationMessageOperation),
      data.length < 2 ^ 16 ∧ (parseOperations payload L pos' count).val = some rest ∧
        ops = (parseOperation opID data).val :: rest := by
  simp only [parseOperations, Checked.bind_val] at h
  split_ifs at h with hcheck
  simp only [Checked.bind_val, Checked.pure_val, Option.map_eq_some_iff] at h
  obtain ⟨rest, hrest, rfl⟩ := h
  refine ⟨_, _, _, rest, ?_, hrest, rfl⟩
  rw [Checked.readRange_length]
  exact BitVec.isLt _

/-- The operations of an accepted message are an accepted list of operations, as long as
announced. -/
lemma parseMultipleOperationMessage_operations {payload : List Byte} {L : ℕ}
    {m : MultipleOperationMessage} (h : (parseMultipleOperationMessage payload L).val = some m) :
    ∃ pos, (parseOperations payload L pos m.numOps.toNat).val = some m.ops := by
  unfold parseMultipleOperationMessage at h
  split_ifs at h with hlen
  simp only [Checked.bind_val] at h
  split_ifs at h with hsize
  simp only [Checked.bind_val, Checked.pure_val, Option.map_eq_some_iff] at h
  obtain ⟨ops, hops, rfl⟩ := h
  exact ⟨_, hops⟩

/-- Every operation of an accepted list of operations is what its parser made of its data, fewer
than 65536 octets of them. -/
lemma parseOperations_mem {payload : List Byte} {L pos count : ℕ}
    {ops : List MultipleOperationMessageOperation}
    (h : (parseOperations payload L pos count).val = some ops)
    {o : MultipleOperationMessageOperation} (ho : o ∈ ops) :
    o.data.length < 2 ^ 16 ∧ o = (parseOperation o.opID o.data).val := by
  induction count generalizing pos ops with
  | zero =>
    obtain rfl : ops = [] := by simpa [parseOperations] using h.symm
    exact absurd ho List.not_mem_nil
  | succ count ih =>
    obtain ⟨opID, data, pos', rest, hlen, hrest, rfl⟩ := parseOperations_succ h
    rcases List.mem_cons.mp ho with rfl | ho
    · obtain ⟨hop, hdata⟩ := parseOperation_fields opID data
      rw [hop, hdata]
      exact ⟨hlen, rfl⟩
    · exact ih hrest ho

/-- Every operation of an accepted message is what its parser made of its data, fewer than 65536
octets of them. -/
lemma parseMultipleOperationMessage_mem {payload : List Byte} {L : ℕ} {m : MultipleOperationMessage}
    (h : (parseMultipleOperationMessage payload L).val = some m)
    {o : MultipleOperationMessageOperation} (ho : o ∈ m.ops) :
    o.data.length < 2 ^ 16 ∧ o = (parseOperation o.opID o.data).val := by
  obtain ⟨pos, hops⟩ := parseMultipleOperationMessage_operations h
  exact parseOperations_mem hops ho

/-- For every operation of a message that passes the length checks, the parser selected for the
operation stays inside the operation's data and inside the arrays it fills, and stores no length
beyond an array, if and only if the data fit the operation. -/
theorem parseMultipleOperationMessage_inBounds_iff {payload : List Byte} {L : ℕ}
    {m : MultipleOperationMessage} (h : (parseMultipleOperationMessage payload L).val = some m)
    {o : MultipleOperationMessageOperation} (ho : o ∈ m.ops) :
    o = (parseOperation o.opID o.data).val ∧
      ((parseOperation o.opID o.data).Safe ∧ o.LengthsFit ↔ OperationFits o.opID o.data) := by
  obtain ⟨hlen, heq⟩ := parseMultipleOperationMessage_mem h ho
  refine ⟨heq, ?_⟩
  rw [← parseOperation_inBounds_iff o.opID hlen, ← heq]

/-- A message with one operation, a splice request whose data length is zero. -/
def emptySpliceMessage : List Byte :=
  [0xff, 0xff, 0x00, 0x10, 0x00, 0x00, 0x00, 0x00, 0x00, 0x00, 0x00, 0x01, 0x01, 0x01, 0x00, 0x00]

/-- A message with one operation, a time signal request with its two octets. -/
def timeSignalMessage : List Byte :=
  [0xff, 0xff, 0x00, 0x12, 0x00, 0x00, 0x00, 0x00, 0x00, 0x00, 0x00, 0x01, 0x01, 0x04, 0x00, 0x02,
    0x0f, 0xa0]

/-- The parser of the time signal request stays in bounds. -/
theorem parseMultipleOperationMessage_inBounds_timeSignal :
    ∃ m, (parseMultipleOperationMessage timeSignalMessage 18).val = some m ∧
      m.ops.length = 1 ∧ ∀ o ∈ m.ops, (parseOperation o.opID o.data).Safe ∧ o.LengthsFit := by
  obtain ⟨m, hval, hops⟩ : ∃ m, (parseMultipleOperationMessage timeSignalMessage 18).val = some m ∧
      m.ops = [(parseOperation 0x104 [0x0f, 0xa0]).val] := ⟨_, rfl, rfl⟩
  refine ⟨m, hval, by rw [hops]; rfl, fun o ho => ?_⟩
  refine (parseMultipleOperationMessage_inBounds_iff hval ho).2.mpr ?_
  obtain rfl : o = (parseOperation 0x104 [0x0f, 0xa0]).val := by simpa [hops] using ho
  decide

/-- The length checks accept a splice request without data, and its parser reads fourteen octets. -/
theorem parseMultipleOperationMessage_outOfBounds_emptySplice :
    ¬∀ (payload : List Byte) (L : ℕ) (m : MultipleOperationMessage),
      (parseMultipleOperationMessage payload L).val = some m →
        ∀ o ∈ m.ops, (parseOperation o.opID o.data).Safe ∧ o.LengthsFit := by
  intro h
  obtain ⟨m, hval, hops⟩ : ∃ m, (parseMultipleOperationMessage emptySpliceMessage 16).val = some m ∧
      m.ops = [(parseOperation 0x101 []).val] := ⟨_, rfl, rfl⟩
  have hfits := (h _ _ m hval _ (by rw [hops]; exact List.mem_singleton_self _))
  have hno : ¬OperationFits 0x101 [] := by decide
  exact hno ((parseOperation_inBounds_iff 0x101 (by simp)).mp hfits)

end Libklvanc
