import Libklvanc.Tools.PesSafety

/-!
# The packetizer of transport packets

`ts_packetizer.c` cuts a section of bytes into the payloads of transport packets. It is checked
against the packets as the extractor reads them: `tsPacket` is the packet with one piece of a
section, and a call of `ts_packetizer` puts out one such packet for every piece (`tsPacketizer_eq`).
-/

namespace Libklvanc

/-- What `ts_packetizer` stores through `pkts` and `packetCount`. -/
structure TsPackets where
  pkts : List Byte
  packetCount : ℕ
  deriving DecidableEq

/-- The variables of the loop of `ts_packetizer`, with `*cc`. -/
structure TsPacketizing where
  arr : List Byte
  offset : ℕ
  cnt : ℕ
  cc : Byte

/-- `max`: the bytes of a section that go into one packet. -/
def tsPayloadMax : ℕ := packetSize - 4

/-- The number of bytes that `ts_packetizer` allocates. The number of packets is an `int`. -/
def tsAllocated (byteCount : ℕ) : Checked Fault ℕ := do
  let packets ← sizeOfInt (BitVec.ofNat 32 ((byteCount / tsPayloadMax + 1) * packetSize)).toInt
  sizeMul packets packetSize

/-- `p`: where a packet begins in `arr`. The offset is an `int`. -/
def tsPosition (cnt : ℕ) : Checked Fault ℕ := sizeOfInt (BitVec.ofNat 32 (cnt * packetSize)).toInt

/-- The four bytes in front of the payload. -/
def tsHeader (cc : Byte) (pid : Word) : List Byte :=
  [0x47, (pid >>> 8).setWidth 8, pid.setWidth 8, 0x10 ||| (cc &&& 0x0f)]

/-- One round of the loop, with `rem` bytes of the section left. -/
def tsPacketizeRound (buf : List Byte) (pid : Word) (rem : ℕ) (s : TsPacketizing) :
    Checked Fault TsPacketizing := do
  let rem := if tsPayloadMax < rem then tsPayloadMax else rem
  let p ← tsPosition s.cnt
  let arr ← copyTo .outBuf s.arr p (tsHeader s.cc pid)
  let bs ← copyFrom .packetizerBuf buf s.offset rem
  let arr ← copyTo .outBuf arr (p + 4) bs
  let arr ← copyTo .outBuf arr (p + 4 + rem) (List.replicate (packetSize - rem - 4) 0xff)
  let arr ← (if s.cnt = 0 then do
    let b ← readAt .outBuf arr (p + 1)
    copyTo .outBuf arr (p + 1) [b ||| 0x40]
  else pure arr)
  pure { arr, offset := s.offset + rem, cnt := s.cnt + 1, cc := s.cc + 1 }

/-- The `while` loop, which ends within `fuel` rounds. -/
def tsPacketizeLoop (buf : List Byte) (byteCount : ℕ) (pid : Word) :
    ℕ → TsPacketizing → Checked Fault TsPacketizing
  | 0, s => pure s
  | fuel + 1, s =>
    if byteCount - s.offset = 0 then pure s
    else do
      let s ← tsPacketizeRound buf pid (byteCount - s.offset) s
      tsPacketizeLoop buf byteCount pid fuel s

/-- `ts_packetizer`: what it puts out, or `none` where it returns -1, and `*cc` after the call.
Every round of the loop takes a byte of the section. -/
def tsPacketizer (buf : List Byte) (byteCount : ℕ) (size : ℤ) (cc : Byte) (pid : Word) :
    Checked Fault (Option TsPackets × Byte) :=
  if byteCount = 0 ∨ size ≠ packetSize ∨ 0x1fff < pid then pure (none, cc)
  else do
    let allocated ← tsAllocated byteCount
    let s ← tsPacketizeLoop buf byteCount pid byteCount
      { arr := List.replicate allocated 0, offset := 0, cnt := 0, cc }
    pure (some { pkts := s.arr, packetCount := s.cnt }, s.cc)

/-! ### The packets -/

/-- The header of a packet with a piece of a section, which is the first one or not. -/
def tsPacketHeader (cc : Byte) (pid : Word) (first : Bool) : List Byte :=
  [0x47, (pid >>> 8).setWidth 8 ||| (if first then 0x40 else 0), pid.setWidth 8,
    0x10 ||| (cc &&& 0x0f)]

/-- The packet with a piece of a section. -/
def tsPacket (cc : Byte) (pid : Word) (first : Bool) (piece : List Byte) : TsPacket :=
  zeroPad 188 (tsPacketHeader cc pid first ++
    (piece ++ List.replicate (tsPayloadMax - piece.length) 0xff))

/-- How many packets a section takes. -/
def tsCount (byteCount : ℕ) : ℕ := (byteCount + (tsPayloadMax - 1)) / tsPayloadMax

/-- Piece `i` of a section. -/
def tsPiece (bytes : List Byte) (i : ℕ) : List Byte :=
  (bytes.drop (i * tsPayloadMax)).take tsPayloadMax

/-- The packets of a section. -/
def tsPacketsOf (cc : Byte) (pid : Word) (bytes : List Byte) : List TsPacket :=
  (List.range (tsCount bytes.length)).map fun i =>
    tsPacket (cc + BitVec.ofNat 8 i) pid (i == 0) (tsPiece bytes i)

/-- `payload_unit_start_indicator`. -/
def payloadUnitStart (pkt : TsPacket) : Bool := (pkt.toList.getD 1 0).getLsbD 6

/-- `continuity_counter`. -/
def continuityCounter (pkt : TsPacket) : ℕ := (pkt.toList.getD 3 0).toNat % 16

section Packet

variable {cc : Byte} {pid : Word} {first : Bool} {piece : List Byte}

/-- The bytes of a packet. -/
lemma tsPacket_toList (h : piece.length ≤ tsPayloadMax) :
    (tsPacket cc pid first piece).toList = tsPacketHeader cc pid first ++
      (piece ++ List.replicate (tsPayloadMax - piece.length) 0xff) := by
  have hmax : tsPayloadMax = 184 := rfl
  have hall : (tsPacketHeader cc pid first ++
      (piece ++ List.replicate (tsPayloadMax - piece.length) 0xff)).length = 188 := by
    rw [List.length_append, List.length_append, List.length_replicate]
    change 4 + _ = _
    omega
  rw [tsPacket, zeroPad_toList hall.le, hall, Nat.sub_self, List.replicate_zero, List.append_nil]

/-- The thirteen bits of a PID, taken apart and put together, with a flag above them. -/
lemma join_pid (h : pid ≤ 0x1fff) (flag : Bool) :
    (((((pid >>> 8).setWidth 8 ||| (if flag then 0x40 else 0) : Byte).setWidth 16 <<< 8) |||
      (pid.setWidth 8 : Byte).setWidth 16) &&& 0x1fff) = pid := by
  have hmask : pid &&& 0x1fff = pid := by
    apply BitVec.eq_of_toNat_eq
    have hle : pid.toNat ≤ 0x1fff := h
    rw [BitVec.toNat_and]
    change pid.toNat &&& (2 ^ 13 - 1) = _
    rw [Nat.and_two_pow_sub_one_eq_mod, Nat.mod_eq_of_lt (by omega)]
  ext i hi
  rw [← hmask]
  cases flag <;> interval_cases i <;> simp

lemma packetPid_tsPacket (hpid : pid ≤ 0x1fff) (h : piece.length ≤ tsPayloadMax) :
    packetPid (tsPacket cc pid first piece) = pid := by
  have hbytes := @tsPacket_toList cc pid first piece h
  have hone : (tsPacket cc pid first piece)[1] = (tsPacket cc pid first piece).toList.getD 1 0 := by
    simp [List.getD]
  have htwo : (tsPacket cc pid first piece)[2] = (tsPacket cc pid first piece).toList.getD 2 0 := by
    simp [List.getD]
  rw [packetPid, hone, htwo, hbytes]
  exact join_pid hpid first

lemma adaption_tsPacket (h : piece.length ≤ tsPayloadMax) :
    adaption (tsPacket cc pid first piece) = 1 := by
  have hbytes := @tsPacket_toList cc pid first piece h
  have hthree : (tsPacket cc pid first piece)[3] =
      (tsPacket cc pid first piece).toList.getD 3 0 := by
    simp [List.getD]
  rw [adaption, hthree, hbytes]
  change ((0x10 ||| (cc &&& 0x0f)) >>> 4) &&& 0x03 = _
  ext i hi
  interval_cases i <;> simp

/-- The payload of a packet is the piece and stuffing behind it. -/
lemma payload_tsPacket (h : piece.length ≤ tsPayloadMax) :
    payload (tsPacket cc pid first piece) =
      piece ++ List.replicate (tsPayloadMax - piece.length) 0xff := by
  have hoffset : payloadOffset (tsPacket cc pid first piece) = 4 := by
    rw [payloadOffset, adaption_tsPacket h]
    rfl
  rw [payload, hoffset, tsPacket_toList h]
  rfl

lemma payloadUnitStart_tsPacket (hpid : pid ≤ 0x1fff) (h : piece.length ≤ tsPayloadMax) :
    payloadUnitStart (tsPacket cc pid first piece) = first := by
  have hlt : pid.toNat < 2 ^ 13 := Nat.lt_succ_of_le hpid
  have hbit : pid[14] = false :=
    Nat.testBit_lt_two_pow (hlt.trans_le (Nat.pow_le_pow_right Nat.two_pos (by norm_num)))
  rw [payloadUnitStart, tsPacket_toList h]
  change ((pid >>> 8).setWidth 8 ||| (if first then 0x40 else 0) : Byte).getLsbD 6 = first
  cases first <;> simp [hbit]

/-- The low four bits of an octet. -/
lemma toNat_mod_sixteen (b : Byte) : b.toNat % 16 = (b &&& 0x0f).toNat := by
  rw [BitVec.toNat_and]
  exact (Nat.and_two_pow_sub_one_eq_mod b.toNat 4).symm

lemma continuityCounter_tsPacket (h : piece.length ≤ tsPayloadMax) :
    continuityCounter (tsPacket cc pid first piece) = cc.toNat % 16 := by
  rw [continuityCounter, tsPacket_toList h]
  change (0x10 ||| (cc &&& 0x0f) : Byte).toNat % 16 = _
  have hlow : (0x10 ||| (cc &&& 0x0f)) &&& 0x0f = cc &&& 0x0f := by
    ext i hi
    interval_cases i <;> simp
  rw [toNat_mod_sixteen, toNat_mod_sixteen, hlow]

end Packet

/-! ### Pieces of a section -/

section Pieces

variable {bytes : List Byte} {i : ℕ}

lemma length_tsPiece : (tsPiece bytes i).length =
    min tsPayloadMax (bytes.length - i * tsPayloadMax) := by
  rw [tsPiece, List.length_take, List.length_drop]

lemma length_tsPiece_le : (tsPiece bytes i).length ≤ tsPayloadMax :=
  List.length_take_le _ _

/-- There is a packet for a piece exactly when the section goes on at its beginning. -/
lemma lt_tsCount_iff {byteCount : ℕ} : i < tsCount byteCount ↔ i * tsPayloadMax < byteCount := by
  have hmax : tsPayloadMax = 184 := rfl
  rw [tsCount, hmax, Nat.lt_div_iff_mul_lt (by norm_num)]
  omega

lemma le_tsCount_mul (byteCount : ℕ) : byteCount ≤ tsCount byteCount * tsPayloadMax :=
  not_lt.mp fun hlt => lt_irrefl _ (lt_tsCount_iff.mpr hlt)

lemma tsCount_le (byteCount : ℕ) : tsCount byteCount ≤ byteCount := by
  have hmax : tsPayloadMax = 184 := rfl
  rw [tsCount, hmax]
  omega

/-- The stuffing behind a section. -/
def tsStuffing (byteCount : ℕ) : ℕ := tsCount byteCount * tsPayloadMax - byteCount

/-- The pieces of a section, with stuffing behind the last one, are the section and the stuffing. -/
lemma flatMap_tsPiece (bytes : List Byte) {n : ℕ} (hn : n ≤ tsCount bytes.length) :
    ((List.range n).flatMap fun i =>
        tsPiece bytes i ++ List.replicate (tsPayloadMax - (tsPiece bytes i).length) 0xff) =
      bytes.take (n * tsPayloadMax) ++ List.replicate (n * tsPayloadMax - bytes.length) 0xff := by
  induction n with
  | zero => rw [Nat.zero_mul, List.take_zero, Nat.zero_sub]; rfl
  | succ n ih =>
    have hlt := lt_tsCount_iff.mp hn
    have hpad : tsPayloadMax - (tsPiece bytes n).length =
        (n + 1) * tsPayloadMax - bytes.length := by
      rw [length_tsPiece, Nat.succ_mul]
      omega
    rw [List.range_succ, List.flatMap_append, ih (Nat.le_of_succ_le hn), List.flatMap_singleton,
      Nat.sub_eq_zero_of_le hlt.le, List.replicate_zero, List.append_nil, hpad, ← List.append_assoc,
      tsPiece, Nat.succ_mul, List.take_add]

end Pieces

/-! ### The loop -/

/-- A copy behind the cells of a zeroed array that are written. -/
lemma copyTo_zeros (obj : MemObject) {pre l : List Byte} {off m : ℕ} (hoff : off = pre.length)
    (h : l.length ≤ m) :
    copyTo obj (pre ++ List.replicate m 0) off l =
      pure ((pre ++ l) ++ List.replicate (m - l.length) 0) := by
  have hsplit : List.replicate m (0 : Byte) =
      List.replicate l.length 0 ++ List.replicate (m - l.length) 0 := by
    rw [List.replicate_append_replicate, Nat.add_sub_cancel' h]
  rw [hoff, hsplit, copyTo_append obj pre l _ _ (List.length_replicate), List.append_assoc]

section Loop

variable {buf : List Byte} {byteCount : ℕ} {cc : Byte} {pid : Word} {allocated k : ℕ}

/-- The bytes of the first `k` packets. -/
def tsWritten (bytes : List Byte) (cc : Byte) (pid : Word) (k : ℕ) : List Byte :=
  (List.range k).flatMap fun i =>
    (tsPacket (cc + BitVec.ofNat 8 i) pid (i == 0) (tsPiece bytes i)).toList

/-- The variables after `k` rounds. -/
def tsLoopState (bytes : List Byte) (cc : Byte) (pid : Word) (allocated k : ℕ) : TsPacketizing where
  arr := tsWritten bytes cc pid k ++ List.replicate (allocated - k * packetSize) 0
  offset := min bytes.length (k * tsPayloadMax)
  cnt := k
  cc := cc + BitVec.ofNat 8 k

lemma tsWritten_succ (bytes : List Byte) (cc : Byte) (pid : Word) (k : ℕ) :
    tsWritten bytes cc pid (k + 1) = tsWritten bytes cc pid k ++
      (tsPacketHeader (cc + BitVec.ofNat 8 k) pid (k == 0) ++ (tsPiece bytes k ++
        List.replicate (tsPayloadMax - (tsPiece bytes k).length) 0xff)) := by
  rw [tsWritten, tsWritten, List.range_succ, List.flatMap_append, List.flatMap_singleton,
    tsPacket_toList length_tsPiece_le]

lemma length_tsWritten (bytes : List Byte) (cc : Byte) (pid : Word) (k : ℕ) :
    (tsWritten bytes cc pid k).length = k * packetSize := by
  rw [tsWritten, List.length_flatMap]
  simp [packetSize]

/-- An `int` that is small enough is converted to itself. -/
lemma sizeOfInt_ofNat {n : ℕ} (h : n < 2 ^ 31) : sizeOfInt (BitVec.ofNat 32 n).toInt = pure n := by
  have hint : (BitVec.ofNat 32 n).toInt = (n : ℤ) := by
    rw [BitVec.toInt_ofNat']
    exact Int.bmod_eq_of_le (by omega) (by omega)
  rw [hint, sizeOfInt_natCast (by omega)]

/-- The flag is set in the first packet only. -/
lemma tsPacketHeader_flag (pre rest : List Byte) (cc : Byte) (pid : Word) (k : ℕ)
    (hpre : pre.length = k * packetSize) :
    (if k = 0 then do
      let b ← readAt .outBuf (pre ++ (tsHeader cc pid ++ rest)) (k * packetSize + 1)
      copyTo .outBuf (pre ++ (tsHeader cc pid ++ rest)) (k * packetSize + 1) [b ||| 0x40]
    else pure (pre ++ (tsHeader cc pid ++ rest))) =
      pure (pre ++ (tsPacketHeader cc pid (k == 0) ++ rest)) := by
  by_cases hk : k = 0
  · subst hk
    obtain rfl : pre = [] := List.length_eq_zero_iff.mp (hpre.trans (Nat.zero_mul _))
    have hread : readAt .outBuf ([] ++ (tsHeader cc pid ++ rest)) (0 * packetSize + 1) =
        pure ((pid >>> 8).setWidth 8) := rfl
    rw [if_pos rfl, hread, pure_bind]
    exact @copyTo_append Byte .outBuf [0x47] [(pid >>> 8).setWidth 8 ||| 0x40]
      [(pid >>> 8).setWidth 8] ([pid.setWidth 8, 0x10 ||| (cc &&& 0x0f)] ++ rest) rfl
  · have hflag : (k == 0) = false := beq_false_of_ne hk
    have hheader : tsPacketHeader cc pid false = tsHeader cc pid := by
      rw [tsPacketHeader, tsHeader, if_neg Bool.false_ne_true]
      exact congrArg (fun b => [0x47, b, _, _]) BitVec.or_zero
    rw [if_neg hk, hflag, hheader]

/-- The cells of the section that a round copies. -/
lemma copyFrom_tsPiece (hbuf : byteCount ≤ buf.length) (hk : k < tsCount byteCount) :
    copyFrom .packetizerBuf buf (min byteCount (k * tsPayloadMax))
        (tsPiece (buf.take byteCount) k).length = pure (tsPiece (buf.take byteCount) k) := by
  have hlt := lt_tsCount_iff.mp hk
  have hbytes : (buf.take byteCount).length = byteCount := List.length_take_of_le hbuf
  have hpiece : tsPiece (buf.take byteCount) k =
      (buf.drop (k * tsPayloadMax)).take (tsPiece (buf.take byteCount) k).length := by
    rw [length_tsPiece, hbytes, tsPiece, List.drop_take, List.take_take]
  have hle : k * tsPayloadMax + (tsPiece (buf.take byteCount) k).length ≤ buf.length := by
    rw [length_tsPiece, hbytes]
    omega
  rw [min_eq_right hlt.le]
  refine Checked.ext (Eq.trans ?_ hpiece.symm) ((Checked.safe_readRange _ _ _).mpr (Or.inr hle))
  exact Checked.readRange_val_of_le _ _ _ hle

/-- One round writes one packet. -/
lemma tsPacketizeRound_eq (hbuf : byteCount ≤ buf.length) (hk : k < tsCount byteCount)
    (hroom : (k + 1) * packetSize ≤ allocated) (hint : k * packetSize < 2 ^ 31) :
    tsPacketizeRound buf pid (byteCount - k * tsPayloadMax)
        (tsLoopState (buf.take byteCount) cc pid allocated k) =
      pure (tsLoopState (buf.take byteCount) cc pid allocated (k + 1)) := by
  have hmax : tsPayloadMax = 184 := rfl
  have hsize : packetSize = 188 := rfl
  have hlt := lt_tsCount_iff.mp hk
  have hbytes : (buf.take byteCount).length = byteCount := List.length_take_of_le hbuf
  have hlen := @length_tsPiece (buf.take byteCount) k
  have hrem : (if tsPayloadMax < byteCount - k * tsPayloadMax then tsPayloadMax
      else byteCount - k * tsPayloadMax) = (tsPiece (buf.take byteCount) k).length := by
    rw [hlen, hbytes]
    split_ifs <;> omega
  have hpre := length_tsWritten (buf.take byteCount) cc pid k
  have hheader : (tsHeader (cc + BitVec.ofNat 8 k) pid).length = 4 := rfl
  have hpiece := @length_tsPiece_le (buf.take byteCount) k
  have hstuffing : (List.replicate (packetSize - (tsPiece (buf.take byteCount) k).length - 4)
      (0xff : Byte)).length = 184 - (tsPiece (buf.take byteCount) k).length := by
    rw [List.length_replicate]
    omega
  rw [Nat.succ_mul] at hroom
  rw [tsPacketizeRound, hrem]
  dsimp only [tsLoopState]
  rw [tsPosition, sizeOfInt_ofNat hint, pure_bind, hbytes,
    copyTo_zeros .outBuf hpre.symm (by omega), pure_bind, copyFrom_tsPiece hbuf hk,
    pure_bind, copyTo_zeros .outBuf (by rw [List.length_append]; omega) (by omega), pure_bind,
    copyTo_zeros .outBuf (by rw [List.length_append, List.length_append]; omega)
      (by rw [hstuffing]; omega), pure_bind, hheader, hstuffing]
  simp only [List.append_assoc]
  rw [tsPacketHeader_flag _ _ _ _ _ hpre, pure_bind]
  have hrest : allocated - k * packetSize - 4 - (tsPiece (buf.take byteCount) k).length -
      (184 - (tsPiece (buf.take byteCount) k).length) = allocated - (k + 1) * packetSize := by
    rw [Nat.succ_mul]
    omega
  have hoffset : min byteCount (k * tsPayloadMax) + (tsPiece (buf.take byteCount) k).length =
      min byteCount ((k + 1) * tsPayloadMax) := by
    rw [hlen, hbytes, Nat.succ_mul]
    omega
  have hcc : cc + BitVec.ofNat 8 k + 1 = cc + BitVec.ofNat 8 (k + 1) := by
    rw [BitVec.ofNat_add, BitVec.add_assoc]
    rfl
  have hstuff : packetSize - (tsPiece (buf.take byteCount) k).length - 4 =
      tsPayloadMax - (tsPiece (buf.take byteCount) k).length := by omega
  rw [hrest, hoffset, hcc, hstuff, tsWritten_succ]
  simp only [List.append_assoc]

/-- The loop writes the packets that are left. -/
lemma tsPacketizeLoop_eq (hbuf : byteCount ≤ buf.length)
    (hroom : tsCount byteCount * packetSize ≤ allocated)
    (hint : tsCount byteCount * packetSize < 2 ^ 31) {fuel : ℕ} (hk : k ≤ tsCount byteCount)
    (hfuel : tsCount byteCount - k ≤ fuel) :
    tsPacketizeLoop buf byteCount pid fuel
        (tsLoopState (buf.take byteCount) cc pid allocated k) =
      pure (tsLoopState (buf.take byteCount) cc pid allocated (tsCount byteCount)) := by
  induction fuel generalizing k with
  | zero =>
    obtain rfl : k = tsCount byteCount := by omega
    rfl
  | succ fuel ih =>
    have hoffset : (tsLoopState (buf.take byteCount) cc pid allocated k).offset =
        min byteCount (k * tsPayloadMax) := by
      rw [tsLoopState, List.length_take_of_le hbuf]
    rw [tsPacketizeLoop, hoffset]
    rcases hk.lt_or_eq with hlt | rfl
    · have hbegins := lt_tsCount_iff.mp hlt
      have hfits : (k + 1) * packetSize ≤ allocated := (Nat.mul_le_mul_right _ hlt).trans hroom
      rw [min_eq_right hbegins.le, if_neg (by omega), tsPacketizeRound_eq hbuf hlt hfits
        ((Nat.mul_le_mul_right _ hk).trans_lt hint), pure_bind]
      exact ih hlt (by omega)
    · rw [min_eq_left (le_tsCount_mul byteCount), Nat.sub_self, if_pos rfl]

end Loop

/-! ### Calls -/

section Call

variable {buf : List Byte} {byteCount : ℕ} {cc : Byte} {pid : Word}

/-- The bytes of the packets, as `ts_packetizer` counts them, are an `int`. -/
def TsFits (byteCount : ℕ) : Prop := (byteCount / tsPayloadMax + 1) * packetSize < 2 ^ 31

instance : DecidablePred TsFits := fun _ => Nat.decLt _ _

lemma tsAllocated_eq (h : TsFits byteCount) :
    tsAllocated byteCount = pure ((byteCount / tsPayloadMax + 1) * packetSize * packetSize) := by
  have hfits : (byteCount / tsPayloadMax + 1) * packetSize < 2 ^ 31 := h
  have hmul : (byteCount / tsPayloadMax + 1) * packetSize * packetSize < 2 ^ 64 :=
    (Nat.mul_lt_mul_of_pos_right hfits (Nat.succ_pos _)).trans (by norm_num [packetSize])
  rw [tsAllocated, sizeOfInt_ofNat hfits, pure_bind, sizeMul_eq hmul]

/-- There is room for the packets. -/
lemma tsCount_mul_le (byteCount : ℕ) :
    tsCount byteCount * packetSize ≤ (byteCount / tsPayloadMax + 1) * packetSize := by
  have hmax : tsPayloadMax = 184 := rfl
  refine Nat.mul_le_mul_right _ ?_
  rw [tsCount, hmax]
  omega

/-- A call puts out the packets of the section, at the beginning of a larger array of zeros. -/
theorem tsPacketizer_eq (hpos : 0 < byteCount) (hbuf : byteCount ≤ buf.length) (hpid : pid ≤ 0x1fff)
    (hfits : TsFits byteCount) :
    ∃ zeros, tsPacketizer buf byteCount 188 cc pid =
      pure (some ⟨(tsPacketsOf cc pid (buf.take byteCount)).flatMap Vector.toList ++
        List.replicate zeros 0, tsCount byteCount⟩, cc + BitVec.ofNat 8 (tsCount byteCount)) := by
  have hinput : ¬(byteCount = 0 ∨ (188 : ℤ) ≠ packetSize ∨ 0x1fff < pid) := by
    rintro (hzero | hsize | hlt)
    · omega
    · exact hsize rfl
    · exact absurd hpid (BitVec.not_le.mpr hlt)
  have hroom := tsCount_mul_le byteCount
  have hall : tsCount byteCount * packetSize ≤
      (byteCount / tsPayloadMax + 1) * packetSize * packetSize :=
    hroom.trans (Nat.le_mul_of_pos_right _ (Nat.succ_pos _))
  have hbegin : (⟨List.replicate ((byteCount / tsPayloadMax + 1) * packetSize * packetSize) 0, 0, 0,
      cc⟩ : TsPacketizing) = tsLoopState (buf.take byteCount) cc pid
        ((byteCount / tsPayloadMax + 1) * packetSize * packetSize) 0 := by
    rw [tsLoopState, tsWritten, Nat.zero_mul, Nat.zero_mul, Nat.min_zero, BitVec.add_zero]
    rfl
  have hwritten : tsWritten (buf.take byteCount) cc pid (tsCount byteCount) =
      (tsPacketsOf cc pid (buf.take byteCount)).flatMap Vector.toList := by
    rw [tsWritten, tsPacketsOf, List.length_take_of_le hbuf, List.flatMap_map]
  refine ⟨(byteCount / tsPayloadMax + 1) * packetSize * packetSize - tsCount byteCount * packetSize,
    ?_⟩
  rw [tsPacketizer, if_neg hinput, tsAllocated_eq hfits, pure_bind, hbegin,
    tsPacketizeLoop_eq hbuf hall
    (hroom.trans_lt hfits) (Nat.zero_le _) ((Nat.sub_le _ _).trans (tsCount_le byteCount)),
    pure_bind,
    ← hwritten]
  rfl

end Call

/-! ### Sections one after the other -/

/-- The packets that are written out, `packetCount` of 188 bytes each. -/
def TsPackets.written (out : TsPackets) : List TsPacket :=
  (List.range out.packetCount).map fun i =>
    zeroPad 188 ((out.pkts.drop (i * packetSize)).take packetSize)

/-- Sections that are cut into packets one after the other, with the same counter: the packets
written out. -/
def tsPacketizeSections (pid : Word) :
    Byte → List (List Byte) → Checked Fault (List TsPacket × Byte)
  | cc, [] => pure ([], cc)
  | cc, bytes :: sections => do
    let (out, cc) ← tsPacketizer bytes bytes.length packetSize cc pid
    let (pkts, cc) ← tsPacketizeSections pid cc sections
    pure ((out.map TsPackets.written).getD [] ++ pkts, cc)

section Sections

variable {cc : Byte} {pid : Word} {bytes : List Byte}

/-- A packet is made of its bytes. -/
lemma zeroPad_vector_toList (pkt : TsPacket) : zeroPad 188 pkt.toList = pkt := by
  apply Vector.toList_inj.mp
  have hlen : pkt.toList.length = 188 := Vector.length_toList
  rw [zeroPad_toList hlen.le, hlen, Nat.sub_self, List.replicate_zero, List.append_nil]

/-- Packets that lie behind one another. -/
lemma map_zeroPad_flatMap (pkts : List TsPacket) (rest : List Byte) :
    (List.range pkts.length).map
      (fun i => zeroPad 188
        (((pkts.flatMap Vector.toList ++ rest).drop (i * packetSize)).take packetSize))
      = pkts := by
  induction pkts with
  | nil => rfl
  | cons pkt pkts ih =>
    have hlen : pkt.toList.length = packetSize := Vector.length_toList
    rw [List.length_cons, List.range_succ_eq_map, List.map_cons, List.map_map]
    refine congrArg₂ List.cons ?_ ?_
    · rw [Nat.zero_mul, List.drop_zero, List.flatMap_cons, List.append_assoc, ← hlen,
        List.take_left, zeroPad_vector_toList]
    · refine Eq.trans (List.map_congr_left fun i _ => ?_) ih
      rw [Function.comp_apply, Nat.succ_mul, Nat.add_comm, ← List.drop_drop, List.flatMap_cons,
        List.append_assoc, ← hlen, List.drop_left]

/-- A section is written out as its packets. -/
lemma tsPacketizer_written (hpid : pid ≤ 0x1fff) (hfits : TsFits bytes.length) :
    ∃ out, tsPacketizer bytes bytes.length packetSize cc pid =
        pure (out, cc + BitVec.ofNat 8 (tsCount bytes.length)) ∧
      (out.map TsPackets.written).getD [] = tsPacketsOf cc pid bytes := by
  rcases Nat.eq_zero_or_pos bytes.length with hzero | hpos
  · refine ⟨none, ?_, ?_⟩
    · rw [tsPacketizer, if_pos (Or.inl hzero), hzero]
      simp [tsCount, tsPayloadMax, packetSize]
    · rw [tsPacketsOf, hzero]
      rfl
  · obtain ⟨zeros, hout⟩ := @tsPacketizer_eq bytes bytes.length cc pid hpos le_rfl hpid hfits
    rw [List.take_length] at hout
    refine ⟨_, hout, ?_⟩
    have hcount : tsCount bytes.length = (tsPacketsOf cc pid bytes).length := by
      rw [tsPacketsOf, List.length_map, List.length_range]
    rw [Option.map_some, Option.getD_some, TsPackets.written, hcount]
    exact map_zeroPad_flatMap _ _

/-- The packets of one section. -/
lemma tsPacketsOf_wellFormed (hpid : pid ≤ 0x1fff) (cc : Byte) (bytes : List Byte) :
    (∀ pkt ∈ tsPacketsOf cc pid bytes, pkt.toList.head? = some 0x47 ∧ packetPid pkt = pid ∧
        adaption pkt = 1) ∧
      (tsPacketsOf cc pid bytes).map continuityCounter =
        (List.range (tsCount bytes.length)).map (fun i => (cc.toNat + i) % 16) ∧
      (tsPacketsOf cc pid bytes).map payloadUnitStart =
        (List.range (tsCount bytes.length)).map (· == 0) ∧
      (tsPacketsOf cc pid bytes).flatMap payload =
        bytes ++ List.replicate (tsStuffing bytes.length) 0xff := by
  refine ⟨fun pkt hmem => ?_, ?_, ?_, ?_⟩
  · obtain ⟨i, -, rfl⟩ := List.mem_map.mp hmem
    refine ⟨?_, packetPid_tsPacket hpid length_tsPiece_le, adaption_tsPacket length_tsPiece_le⟩
    rw [tsPacket_toList length_tsPiece_le]
    rfl
  · rw [tsPacketsOf, List.map_map]
    refine List.map_congr_left fun i _ => ?_
    rw [Function.comp_apply, continuityCounter_tsPacket length_tsPiece_le, BitVec.toNat_add,
      BitVec.toNat_ofNat]
    omega
  · rw [tsPacketsOf, List.map_map]
    exact List.map_congr_left fun i _ => payloadUnitStart_tsPacket hpid length_tsPiece_le
  · have hall := flatMap_tsPiece bytes le_rfl
    rw [List.take_of_length_le (le_tsCount_mul _)] at hall
    rw [tsPacketsOf, List.flatMap_map, tsStuffing, ← hall]
    exact List.flatMap_congr fun i _ => payload_tsPacket length_tsPiece_le

lemma length_tsPacketsOf : (tsPacketsOf cc pid bytes).length = tsCount bytes.length := by
  rw [tsPacketsOf, List.length_map, List.length_range]

/-- The packets of sections that are cut one after the other. -/
def tsPacketsOfAll (pid : Word) : Byte → List (List Byte) → List TsPacket
  | _, [] => []
  | cc, bytes :: sections =>
    tsPacketsOf cc pid bytes ++
      tsPacketsOfAll pid (cc + BitVec.ofNat 8 (tsCount bytes.length)) sections

/-- The packets of the sections are written out, and the counter goes on by their number. -/
theorem tsPacketizeSections_eq (hpid : pid ≤ 0x1fff) (cc : Byte) {sections : List (List Byte)}
    (hfits : ∀ bytes ∈ sections, TsFits bytes.length) :
    tsPacketizeSections pid cc sections =
      pure (tsPacketsOfAll pid cc sections,
        cc + BitVec.ofNat 8 (tsPacketsOfAll pid cc sections).length) := by
  induction sections generalizing cc with
  | nil =>
    rw [tsPacketsOfAll, List.length_nil, BitVec.add_zero]
    rfl
  | cons bytes sections ih =>
    obtain ⟨hfit, hrest⟩ := List.forall_mem_cons.mp hfits
    obtain ⟨out, hout, hwritten⟩ := @tsPacketizer_written cc pid bytes hpid hfit
    rw [tsPacketizeSections, hout, pure_bind]
    dsimp only
    rw [ih _ hrest, pure_bind, hwritten, tsPacketsOfAll, List.length_append, length_tsPacketsOf,
      BitVec.ofNat_add, BitVec.add_assoc]

/-- The packets of the sections are well-formed packets on the PID without adaptation fields. -/
lemma tsPacketsOfAll_onPid (hpid : pid ≤ 0x1fff) (cc : Byte) (sections : List (List Byte)) :
    ∀ pkt ∈ tsPacketsOfAll pid cc sections,
      pkt.toList.head? = some 0x47 ∧ packetPid pkt = pid ∧ adaption pkt = 1 := by
  induction sections generalizing cc with
  | nil => exact fun pkt hmem => absurd hmem List.not_mem_nil
  | cons bytes sections ih =>
    exact List.forall_mem_append.mpr ⟨(tsPacketsOf_wellFormed hpid cc bytes).1, ih _⟩

/-- The continuity counters of the packets go on from one section to the next. -/
lemma continuityCounter_tsPacketsOfAll (hpid : pid ≤ 0x1fff) (cc : Byte)
    (sections : List (List Byte)) :
    (tsPacketsOfAll pid cc sections).map continuityCounter =
      (List.range (tsPacketsOfAll pid cc sections).length).map fun i => (cc.toNat + i) % 16 := by
  induction sections generalizing cc with
  | nil => rfl
  | cons bytes sections ih =>
    have hcc := (tsPacketsOf_wellFormed hpid cc bytes).2.1
    rw [tsPacketsOfAll, List.map_append, hcc, ih, List.length_append, length_tsPacketsOf,
      List.range_add, List.map_append, List.map_map]
    refine congrArg _ (List.map_congr_left fun i _ => ?_)
    rw [Function.comp_apply, BitVec.toNat_add, BitVec.toNat_ofNat]
    omega

/-- Sections that are cut one after the other: the packets are well-formed packets on the PID
without adaptation fields, the continuity counters go on from one packet to the next over all the
sections, the first packet of each section has the start flag and no other one, and the payloads are
the sections with stuffing behind each. -/
theorem tsPacketizeSections_wellFormed (hpid : pid ≤ 0x1fff) (cc : Byte)
    {sections : List (List Byte)}
    (hfits : ∀ bytes ∈ sections, TsFits bytes.length) :
    ∃ pkts, tsPacketizeSections pid cc sections = pure (pkts, cc + BitVec.ofNat 8 pkts.length) ∧
      (∀ pkt ∈ pkts, pkt.toList.head? = some 0x47 ∧ packetPid pkt = pid ∧ adaption pkt = 1) ∧
      pkts.map continuityCounter = (List.range pkts.length).map (fun i => (cc.toNat + i) % 16) ∧
      pkts.map payloadUnitStart = sections.flatMap
        (fun bytes => (List.range (tsCount bytes.length)).map (· == 0)) ∧
      pkts.flatMap payload = sections.flatMap
        (fun bytes => bytes ++ List.replicate (tsStuffing bytes.length) 0xff) := by
  refine ⟨_, tsPacketizeSections_eq hpid cc hfits, tsPacketsOfAll_onPid hpid cc sections,
    continuityCounter_tsPacketsOfAll hpid cc sections, ?_⟩
  clear hfits
  induction sections generalizing cc with
  | nil => exact ⟨rfl, rfl⟩
  | cons bytes sections ih =>
    obtain ⟨-, -, hstart, hpayload⟩ := tsPacketsOf_wellFormed hpid cc bytes
    obtain ⟨hstart', hpayload'⟩ := ih (cc + BitVec.ofNat 8 (tsCount bytes.length))
    rw [tsPacketsOfAll, List.map_append, List.flatMap_append, hstart, hstart', hpayload, hpayload',
      List.flatMap_cons, List.flatMap_cons]
    exact ⟨rfl, rfl⟩

end Sections

/-- Two sections in three packets, between which the counter wraps around. -/
theorem tsPacketizeSections_wellFormed_three :
    ∃ pkts, tsPacketizeSections 0x80 14 [[0, 0, 1, 0xbd, 0, 0], List.replicate 200 7] =
        pure (pkts, 14 + BitVec.ofNat 8 pkts.length) ∧
      pkts.map continuityCounter = (List.range pkts.length).map (fun i => (14 + i) % 16) ∧
      pkts.map payloadUnitStart = [true, true, false] := by
  have hfits : ∀ bytes ∈ [[0, 0, 1, 0xbd, 0, 0], List.replicate 200 (7 : Byte)],
      TsFits bytes.length := by
    rw [List.forall_mem_cons, List.forall_mem_singleton, List.length_replicate]
    exact ⟨by decide, by decide⟩
  obtain ⟨pkts, hsections, -, hcc, hstart, -⟩ :=
    @tsPacketizeSections_wellFormed 0x80 (by decide) 14 _ hfits
  refine ⟨pkts, hsections, hcc, hstart.trans ?_⟩
  rw [List.flatMap_cons, List.flatMap_singleton, List.length_replicate]
  rfl

/-! ### Sections that are too long -/

section Long

variable {buf : List Byte} {byteCount : ℕ} {cc : Byte} {pid : Word}

/-- An `int` below zero is not a size. -/
lemma not_safe_sizeOfInt {n : ℕ} (h : 2 ^ 31 ≤ n) (hlt : n < 2 ^ 32) :
    ¬(sizeOfInt (BitVec.ofNat 32 n).toInt).Safe := by
  have hneg : (BitVec.ofNat 32 n).toInt < 0 := by
    rw [BitVec.toInt_ofNat', Int.bmod_def]
    omega
  rw [sizeOfInt, if_neg (not_le.mpr hneg)]
  exact List.cons_ne_nil _ _

/-- A round goes on to the next packet, also where it is not safe. -/
lemma tsPacketizeRound_next (buf : List Byte) (pid : Word) (rem : ℕ) (s : TsPacketizing) :
    (tsPacketizeRound buf pid rem s).val.cnt = s.cnt + 1 ∧
      (tsPacketizeRound buf pid rem s).val.offset = s.offset + min tsPayloadMax rem := by
  refine ⟨rfl, ?_⟩
  change s.offset + (if tsPayloadMax < rem then tsPayloadMax else rem) = _
  split_ifs <;> omega

/-- The loop is not safe when it comes to a packet whose offset is no `int`. -/
lemma not_safe_tsPacketizeLoop {s : TsPacketizing} {last fuel : ℕ} (hcnt : s.cnt ≤ last)
    (hoffset : s.offset = s.cnt * tsPayloadMax) (hlast : last * tsPayloadMax < byteCount)
    (hlow : 2 ^ 31 ≤ last * packetSize) (hhigh : last * packetSize < 2 ^ 32)
    (hfuel : last - s.cnt < fuel) : ¬(tsPacketizeLoop buf byteCount pid fuel s).Safe := by
  induction fuel generalizing s with
  | zero => omega
  | succ fuel ih =>
    have hle := Nat.mul_le_mul_right tsPayloadMax hcnt
    rw [tsPacketizeLoop, if_neg (by omega), Checked.safe_bind, not_and]
    intro hround
    rcases hcnt.lt_or_eq with hlt | rfl
    · obtain ⟨hnext, hnext'⟩ := tsPacketizeRound_next buf pid (byteCount - s.offset) s
      have hle' := Nat.mul_le_mul_right tsPayloadMax hlt
      rw [Nat.succ_mul] at hle'
      refine ih (hnext ▸ hlt) ?_ (by omega)
      rw [hnext', hnext, hoffset, Nat.succ_mul]
      omega
    · rw [tsPacketizeRound, Checked.safe_bind] at hround
      exact absurd hround.1 (not_safe_sizeOfInt hlow hhigh)

/-- A call stays inside the array exactly when the number of bytes of the packets is an `int`. -/
theorem tsPacketizer_safe_iff (hpos : 0 < byteCount) (hbuf : byteCount ≤ buf.length)
    (huint : byteCount < 2 ^ 32) (hpid : pid ≤ 0x1fff) :
    (tsPacketizer buf byteCount 188 cc pid).Safe ↔ TsFits byteCount := by
  refine ⟨fun hsafe => ?_, fun hfits => ?_⟩
  · by_contra hnot
    have hlow : 2 ^ 31 ≤ (byteCount / tsPayloadMax + 1) * packetSize := not_lt.mp hnot
    have hmax : tsPayloadMax = 184 := rfl
    have hsize : packetSize = 188 := rfl
    have hinput : ¬(byteCount = 0 ∨ (188 : ℤ) ≠ packetSize ∨ 0x1fff < pid) := by
      rintro (hzero | hne | hlt)
      · omega
      · exact hne rfl
      · exact absurd hpid (BitVec.not_le.mpr hlt)
    rw [tsPacketizer, if_neg hinput, Checked.safe_bind, tsAllocated, Checked.safe_bind,
      Checked.safe_bind] at hsafe
    obtain ⟨⟨hpackets, -⟩, hloop, -⟩ := hsafe
    by_cases hhigh : (byteCount / tsPayloadMax + 1) * packetSize < 2 ^ 32
    · exact not_safe_sizeOfInt hlow hhigh hpackets
    · refine not_safe_tsPacketizeLoop (Nat.zero_le 11422786) rfl ?_ ?_ ?_ ?_ hloop
      all_goals rw [hmax, hsize] at *; omega
  · obtain ⟨zeros, heq⟩ := @tsPacketizer_eq buf byteCount cc pid hpos hbuf hpid hfits
    rw [heq]
    exact Checked.safe_pure _

/-- A call with three bytes, and one with more than `2 ^ 31`. -/
theorem tsPacketizer_safe_three :
    (tsPacketizer [1, 2, 3] 3 188 0 0x80).Safe ∧
      ∀ buf : List Byte, buf.length = 3 * 10 ^ 9 →
        ¬(tsPacketizer buf (3 * 10 ^ 9) 188 0 0x80).Safe := by
  refine ⟨(@tsPacketizer_safe_iff [1, 2, 3] 3 0 0x80 (by decide) (by decide) (by decide)
    (by decide)).mpr (by decide), fun buf hbuf hsafe => ?_⟩
  have hfits := (@tsPacketizer_safe_iff buf (3 * 10 ^ 9) 0 0x80 (by norm_num) hbuf.ge (by norm_num)
    (by decide)).mp hsafe
  exact absurd hfits (by decide)

end Long

end Libklvanc
