import Libklvanc.Bitstream.Writer
import Libklvanc.Core.SdiPayload
import Libklvanc.Services.Fixed

/-!
# Encoding the services of fixed layout

The `*_to_packetBytes` and `*_to_words` functions of `core-packet-afd.c`, `core-packet-eia_608.c`,
`core-packet-kl_u64le_counter.c` and `core-packet-smpte_12_2.c`. The octets are written into a fresh
buffer, counted, and handed to `klvanc_sdi_create_payload`, whose return value none of the functions
looks at.

The fresh buffer is taken to be zeroed. The octets that the time code encoder changes without having
written them do not count.

What is put out are the octets `FixedPacket.octets`, and for a time code of a type that is not
supported there are none (`FixedPacket.packetBytes_eq`, `FixedPacket.toWords_eq`).
-/

namespace Libklvanc

/-- The common shape of the `*_to_packetBytes` functions: the fields `fields` are written into a
fresh buffer of `size` octets. The return value, the octets of the buffer and the number of octets
written. -/
def klbsPacketBytes (size : ℕ) (fields : List (ℕ × ℕ)) : Checked Fault (ℤ × List Byte × ℕ) :=
  let bs := klbsWriteFields (klbsWriteSetBuffer (List.replicate size 0) size) fields
  let bs := klbsWriteBufferComplete bs
  ⟨(0, bs.buf, klbsGetByteCount bs % 2 ^ 16), bs.faults⟩

/-- The common shape of the `*_to_words` functions: the octets are made into words, which stay unset
when `klvanc_sdi_create_payload` fails. -/
def packetBytesToWords (sdid did : Byte) (convert : Checked Fault (ℤ × List Byte × ℕ)) :
    Checked Fault (ℤ × Option (List Word)) := do
  let (ret, buf, byteCount) ← convert
  if ret ≠ 0 then pure (ret, none)
  else pure (0, klvancSdiCreatePayload sdid did (buf.take byteCount) 10)

/-! ### Active format description -/

/-- The fields of the bars. -/
def KlvancPacketAfd.barFields (pkt : KlvancPacketAfd) : List (ℕ × ℕ) :=
  if pkt.barDataFlags = barsTopBottom then [(pkt.top.toNat, 16), (pkt.bottom.toNat, 16)]
  else if pkt.barDataFlags = barsLeftRight then [(pkt.left.toNat, 16), (pkt.right.toNat, 16)]
  else [(0x00, 32)]

/-- `klvanc_convert_AFD_to_packetBytes`. -/
def klvancConvertAFDToPacketBytes (pkt : KlvancPacketAfd) : Checked Fault (ℤ × List Byte × ℕ) :=
  let afd : Byte := (pkt.afd <<< 3).setWidth 8
  let afd := if pkt.aspectRatio = .aspect16x9 then afd ||| 0x04 else afd
  klbsPacketBytes 255
    ([(afd.toNat, 8), (0x00, 8), (0x00, 8), ((pkt.barDataFlags <<< 4).toNat, 8)] ++ pkt.barFields)

/-- `klvanc_convert_AFD_to_words`. -/
def klvancConvertAFDToWords (pkt : KlvancPacketAfd) : Checked Fault (ℤ × Option (List Word)) :=
  packetBytesToWords 0x05 0x41 (klvancConvertAFDToPacketBytes pkt)

/-! ### EIA-608 captions -/

/-- `klvanc_convert_EIA_608_to_packetBytes`. -/
def klvancConvertEIA608ToPacketBytes (pkt : KlvancPacketEia608) :
    Checked Fault (ℤ × List Byte × ℕ) :=
  klbsPacketBytes 255
    [(if pkt.field = 0 then 1 else 0, 1), (0, 2), (pkt.lineOffset.toNat, 5),
      (pkt.ccData1.toNat, 8), (pkt.ccData2.toNat, 8)]

/-- `klvanc_convert_EIA_608_to_words`. -/
def klvancConvertEIA608ToWords (pkt : KlvancPacketEia608) :
    Checked Fault (ℤ × Option (List Word)) :=
  packetBytesToWords 0x02 0x61 (klvancConvertEIA608ToPacketBytes pkt)

/-! ### The 64-bit counter -/

/-- The octets of the counter, the most significant one first. -/
def KlvancPacketKlU64leCounter.octets (pkt : KlvancPacketKlU64leCounter) : List Byte :=
  (List.range 8).map fun i => (pkt.counter >>> (56 - 8 * i)).setWidth 8

/-- `klvanc_convert_KL_U64LE_COUNTER_to_words`. -/
def klvancConvertKLU64LECounterToWords (pkt : KlvancPacketKlU64leCounter) :
    Checked Fault (ℤ × Option (List Word)) :=
  pure (0, klvancSdiCreatePayload 0xfe 0x40 pkt.octets 10)

/-! ### Ancillary time code -/

/-- The units of a time value and the user bits behind them: two UDW. -/
def timeUnitsFields (value : Byte) : List (ℕ × ℕ) :=
  [(value.toNat % 10, 4), (0x00, 4), (0x00, 4), (0x00, 4)]

/-- The tens of a time value behind two flags, and the user bits behind them: two UDW. -/
def timeTensFields (b₇ b₆ : ℕ) (value : Byte) : List (ℕ × ℕ) :=
  [(b₇, 1), (b₆, 1), (value.toNat / 20 &&& 0x01, 1), (value.toNat / 10 &&& 0x01, 1), (0x00, 4),
    (0x00, 4), (0x00, 4)]

namespace KlvancPacketSmpte12_2

variable (pkt : KlvancPacketSmpte12_2)

/-- The type of the time code is one of those that are supported. -/
def HasTimeCode : Prop := pkt.dbb1 = 0x00 ∨ pkt.dbb1 = 0x01 ∨ pkt.dbb1 = 0x02

instance : Decidable pkt.HasTimeCode := inferInstanceAs (Decidable (_ ∨ _ ∨ _))

/-- The sixteen UDW of the time code (SMPTE 12-2:2014 Table 6), without DBB1 and DBB2. -/
def timeCodeFields : List (ℕ × ℕ) :=
  timeUnitsFields pkt.frames ++ timeTensFields pkt.flag14.toNat pkt.flag15.toNat pkt.frames ++
  timeUnitsFields pkt.seconds ++
    timeTensFields pkt.flag35.toNat (pkt.seconds.toNat / 40 &&& 0x01) pkt.seconds ++
  timeUnitsFields pkt.minutes ++
    timeTensFields pkt.flag55.toNat (pkt.minutes.toNat / 40 &&& 0x01) pkt.minutes ++
  timeUnitsFields pkt.hours ++ timeTensFields pkt.flag74.toNat pkt.flag75.toNat pkt.hours

/-- DBB2, made of the line and the flags. -/
def composedDbb2 : Byte :=
  pkt.vitcLineSelect ||| (if pkt.lineDuplicationFlag ≠ 0 then 0x20 else 0) |||
    (if pkt.tcValidityFlag ≠ 0 then 0x40 else 0) |||
    (if pkt.userBitsProcessFlag ≠ 0 then 0x80 else 0)

end KlvancPacketSmpte12_2

/-- Distribute the bits of `dbb` over the eight cells of the buffer from `start` on. -/
def storeDbb (dbb : Byte) (start : ℕ) (buf : List Byte) : List Byte :=
  (List.range 8).foldl
    (fun buf i => buf.modify (i + start) (· ||| (dbb >>> i &&& 0x01) <<< 3)) buf

/-- `klvanc_convert_SMPTE_12_2_to_packetBytes`. The cells that get DBB1 and DBB2 are those of the
buffer. -/
def klvancConvertSMPTE12_2ToPacketBytes (pkt : KlvancPacketSmpte12_2) :
    Checked Fault (ℤ × List Byte × ℕ) := do
  let (ret, buf, byteCount) ←
    klbsPacketBytes 16 (if pkt.HasTimeCode then pkt.timeCodeFields else [])
  pure (ret, storeDbb pkt.composedDbb2 8 (storeDbb pkt.dbb1 0 buf), byteCount)

/-- `klvanc_convert_SMPTE_12_2_to_words`. -/
def klvancConvertSMPTE12_2ToWords (pkt : KlvancPacketSmpte12_2) :
    Checked Fault (ℤ × Option (List Word)) := do
  let (ret, buf, byteCount) ← klvancConvertSMPTE12_2ToPacketBytes pkt
  if ret ≠ 0 then pure (-1, none)
  else pure (0, klvancSdiCreatePayload 0x60 0x60 (buf.take byteCount) 10)

/-! ### The services together -/

/-- A packet of one of the services of fixed layout. -/
inductive FixedPacket
  | afd (pkt : KlvancPacketAfd)
  | eia608 (pkt : KlvancPacketEia608)
  | klU64leCounter (pkt : KlvancPacketKlU64leCounter)
  | smpte12_2 (pkt : KlvancPacketSmpte12_2)

namespace FixedPacket

/-- The data identifier. -/
def did : FixedPacket → Byte
  | .afd _ => 0x41
  | .eia608 _ => 0x61
  | .klU64leCounter _ => 0x40
  | .smpte12_2 _ => 0x60

/-- The secondary data identifier. -/
def sdid : FixedPacket → Byte
  | .afd _ => 0x05
  | .eia608 _ => 0x02
  | .klU64leCounter _ => 0xfe
  | .smpte12_2 _ => 0x60

lemma did_ne (p : FixedPacket) : p.did ≠ 0 := by
  cases p <;> simp [did]

lemma sdid_ne (p : FixedPacket) : p.sdid ≠ 0 := by
  cases p <;> simp [sdid]

/-- The `*_to_packetBytes` function of the service. For the counter there is none, and the octets
are those that are handed to `klvanc_sdi_create_payload`. -/
def packetBytes : FixedPacket → Checked Fault (ℤ × List Byte × ℕ)
  | .afd pkt => klvancConvertAFDToPacketBytes pkt
  | .eia608 pkt => klvancConvertEIA608ToPacketBytes pkt
  | .klU64leCounter pkt => pure (0, pkt.octets, 8)
  | .smpte12_2 pkt => klvancConvertSMPTE12_2ToPacketBytes pkt

/-- The `*_to_words` function of the service. -/
def toWords : FixedPacket → Checked Fault (ℤ × Option (List Word))
  | .afd pkt => klvancConvertAFDToWords pkt
  | .eia608 pkt => klvancConvertEIA608ToWords pkt
  | .klU64leCounter pkt => klvancConvertKLU64LECounterToWords pkt
  | .smpte12_2 pkt => klvancConvertSMPTE12_2ToWords pkt

end FixedPacket

/-! ### The octets put out -/

/-- Fields that make up octets are put out as these. -/
lemma klbsPacketBytes_eq {size : ℕ} {fields : List (ℕ × ℕ)} {bytes : List Byte}
    (h : Bits.ofFields fields = Bits.ofBytes bytes) (hle : bytes.length ≤ size)
    (hsize : size < 2 ^ 16) :
    klbsPacketBytes size fields =
      pure (0, bytes ++ List.replicate (size - bytes.length) 0, bytes.length) := by
  have hbuf : (List.replicate size (0 : Byte)).length = size := List.length_replicate
  have hfields := (KlbsContext.Writes.setBuffer hbuf.ge).writeFields fields
  rw [List.nil_append, h] at hfields
  have hwrites : KlbsContext.WritesBytes size _ _ bytes := hfields
  have hfaults := (hwrites.faults_eq_nil_iff hbuf).mpr hle
  unfold klbsPacketBytes
  dsimp only
  rw [hwrites.writeBufferComplete, hwrites.buf_eq hle, hwrites.byteCount, hfaults,
    Nat.mod_eq_of_lt (hle.trans_lt hsize), List.drop_replicate]
  rfl

/-- A field of eight bits is the low octet of its value. -/
lemma ofNat_eight {w : ℕ} (v : BitVec w) :
    Bits.ofNat 8 v.toNat = Bits.ofNat 8 (v.setWidth 8).toNat := by
  rw [BitVec.toNat_setWidth, Bits.ofNat_mod]

/-- The octets of the bars. -/
def KlvancPacketAfd.barOctets (pkt : KlvancPacketAfd) : List Byte :=
  if pkt.barDataFlags = barsTopBottom then
    Bits.bigEndian 2 pkt.top.toNat ++ Bits.bigEndian 2 pkt.bottom.toNat
  else if pkt.barDataFlags = barsLeftRight then
    Bits.bigEndian 2 pkt.left.toNat ++ Bits.bigEndian 2 pkt.right.toNat
  else [0, 0, 0, 0]

/-- The octets of active format description. -/
def KlvancPacketAfd.octets (pkt : KlvancPacketAfd) : List Byte :=
  [(pkt.afd <<< 3).setWidth 8 ||| (if pkt.aspectRatio = .aspect16x9 then 0x04 else 0), 0, 0,
    (pkt.barDataFlags <<< 4).setWidth 8] ++ pkt.barOctets

/-- The octets of EIA-608 captions. -/
def KlvancPacketEia608.octets (pkt : KlvancPacketEia608) : List Byte :=
  [(if pkt.field = 0 then 0x80 else 0) ||| (pkt.lineOffset.setWidth 5).setWidth 8, pkt.ccData1,
    pkt.ccData2]

/-- The units of a time value. -/
def timeUnitsOctet (value : Byte) : Byte := (value % 10) <<< 4

/-- The tens of a time value behind two flags. -/
def timeTensOctet (b₇ b₆ : Bool) (value : Byte) : Byte :=
  (if b₇ then 0x80 else 0) ||| (if b₆ then 0x40 else 0) ||| (value / 20 &&& 0x01) <<< 5 |||
    (value / 10 &&& 0x01) <<< 4

/-- The octets of a time code, without DBB1 and DBB2. -/
def KlvancPacketSmpte12_2.timeCodeOctets (pkt : KlvancPacketSmpte12_2) : List Byte :=
  [timeUnitsOctet pkt.frames, 0,
    timeTensOctet (pkt.flag14.getLsbD 0) (pkt.flag15.getLsbD 0) pkt.frames, 0,
    timeUnitsOctet pkt.seconds, 0,
    timeTensOctet (pkt.flag35.getLsbD 0) ((pkt.seconds / 40).getLsbD 0) pkt.seconds, 0,
    timeUnitsOctet pkt.minutes, 0,
    timeTensOctet (pkt.flag55.getLsbD 0) ((pkt.minutes / 40).getLsbD 0) pkt.minutes, 0,
    timeUnitsOctet pkt.hours, 0,
    timeTensOctet (pkt.flag74.getLsbD 0) (pkt.flag75.getLsbD 0) pkt.hours, 0]

/-- The octets of a time code, as long as its type is supported. -/
def KlvancPacketSmpte12_2.octets (pkt : KlvancPacketSmpte12_2) : List Byte :=
  if pkt.HasTimeCode then
    storeDbb pkt.composedDbb2 8 (storeDbb pkt.dbb1 0 pkt.timeCodeOctets)
  else []

/-- The octets that are put out. -/
def FixedPacket.octets : FixedPacket → List Byte
  | .afd pkt => pkt.octets
  | .eia608 pkt => pkt.octets
  | .klU64leCounter pkt => pkt.octets
  | .smpte12_2 pkt => pkt.octets

/-- The fields of the bars make up their octets. -/
lemma ofFields_barFields (pkt : KlvancPacketAfd) :
    Bits.ofFields pkt.barFields = Bits.ofBytes pkt.barOctets := by
  unfold KlvancPacketAfd.barFields KlvancPacketAfd.barOctets
  split_ifs
  · rw [Bits.ofBytes_append, Bits.ofBytes_bigEndian, Bits.ofBytes_bigEndian]
    simp
  · rw [Bits.ofBytes_append, Bits.ofBytes_bigEndian, Bits.ofBytes_bigEndian]
    simp
  · decide

lemma KlvancPacketAfd.octets_length (pkt : KlvancPacketAfd) : pkt.octets.length = 8 := by
  unfold KlvancPacketAfd.octets KlvancPacketAfd.barOctets
  split_ifs <;> simp

lemma KlvancPacketEia608.octets_length (pkt : KlvancPacketEia608) : pkt.octets.length = 3 := rfl

lemma KlvancPacketKlU64leCounter.octets_length (pkt : KlvancPacketKlU64leCounter) :
    pkt.octets.length = 8 := by
  rw [octets, List.length_map, List.length_range]

/-- `klvanc_convert_AFD_to_packetBytes` puts out eight octets. -/
lemma klvancConvertAFDToPacketBytes_eq (pkt : KlvancPacketAfd) :
    klvancConvertAFDToPacketBytes pkt = pure (0, pkt.octets ++ List.replicate 247 0, 8) := by
  have hflag : ∀ b : Byte, (if pkt.aspectRatio = .aspect16x9 then b ||| 0x04 else b) =
      b ||| (if pkt.aspectRatio = .aspect16x9 then 0x04 else 0) := by
    intro b
    split_ifs
    · rfl
    · exact BitVec.or_zero.symm
  have hlen := pkt.octets_length
  unfold klvancConvertAFDToPacketBytes
  dsimp only
  rw [hflag, @klbsPacketBytes_eq 255 _ pkt.octets _ (by omega) (by norm_num), hlen]
  rw [KlvancPacketAfd.octets, Bits.ofFields_append, Bits.ofBytes_append, ofFields_barFields]
  simp only [Bits.ofFields_cons, Bits.ofFields_nil, Bits.ofBytes_cons, Bits.ofBytes_nil,
    ofNat_eight (pkt.barDataFlags <<< 4)]
  rfl

/-- `klvanc_convert_EIA_608_to_packetBytes` puts out three octets. -/
lemma klvancConvertEIA608ToPacketBytes_eq (pkt : KlvancPacketEia608) :
    klvancConvertEIA608ToPacketBytes pkt = pure (0, pkt.octets ++ List.replicate 252 0, 3) := by
  have hoctet : ∀ (b : Bool) (l : BitVec 5),
      Bits.ofNat 1 (if b then 1 else 0) ++ (Bits.ofNat 2 0 ++ Bits.ofNat 5 l.toNat) =
        Bits.ofNat 8 ((if b then 0x80 else 0) ||| l.setWidth 8 : Byte).toNat := by
    decide +kernel
  have hfirst := hoctet (pkt.field = 0) (pkt.lineOffset.setWidth 5)
  rw [BitVec.toNat_setWidth, Bits.ofNat_mod] at hfirst
  simp only [decide_eq_true_eq] at hfirst
  unfold klvancConvertEIA608ToPacketBytes
  rw [@klbsPacketBytes_eq 255 _ pkt.octets _ (by norm_num [pkt.octets_length]) (by norm_num)]
  · rfl
  · simp only [Bits.ofFields_cons, Bits.ofFields_nil, KlvancPacketEia608.octets, Bits.ofBytes_cons,
      Bits.ofBytes_nil, ← hfirst, List.append_assoc]

/-- The two UDW of the units of a time value. -/
lemma ofFields_timeUnitsFields (value : Byte) :
    Bits.ofFields (timeUnitsFields value) = Bits.ofBytes [timeUnitsOctet value, 0] := by
  have hdigit : ∀ d : BitVec 4, Bits.ofFields [(d.toNat, 4), (0x00, 4), (0x00, 4), (0x00, 4)] =
      Bits.ofBytes [(d.setWidth 8) <<< 4, 0] := by
    decide +kernel
  have hlt : (value % 10).toNat < 2 ^ 4 := by
    rw [BitVec.toNat_umod]
    exact (Nat.mod_lt _ (by decide)).trans (by decide)
  obtain ⟨d, hd⟩ := exists_setWidth (by norm_num) hlt
  have hvalue : value.toNat % 10 = d.toNat := by
    have h := congrArg BitVec.toNat hd
    rwa [BitVec.toNat_umod, BitVec.toNat_setWidth, Nat.mod_eq_of_lt (d.isLt.trans (by norm_num))]
      at h
  rw [timeUnitsFields, timeUnitsOctet, hvalue, hd]
  exact hdigit d

/-- The lowest bit of a number. -/
lemma and_one_eq (n : ℕ) : n &&& 0x01 = (n.testBit 0).toNat := by
  rw [Nat.and_one_is_mod, Nat.testBit_zero]
  rcases Nat.mod_two_eq_zero_or_one n with h | h
  · rw [h]
    rfl
  · rw [h]
    rfl

/-- The lowest bit of an octet. -/
lemma byte_and_one_eq (b : Byte) : b &&& 0x01 = if b.getLsbD 0 then 1 else 0 := by
  apply BitVec.eq_of_toNat_eq
  have h := and_one_eq b.toNat
  rw [BitVec.toNat_and, BitVec.getLsbD]
  cases hbit : b.toNat.testBit 0
  · rw [hbit] at h
    exact h
  · rw [hbit] at h
    exact h

/-- The tens of a time value are two bits. -/
lemma timeTensOctet_eq (b₇ b₆ : Bool) (value : Byte) :
    timeTensOctet b₇ b₆ value = (if b₇ then 0x80 else 0) ||| (if b₆ then 0x40 else 0) |||
      (if (value / 20).getLsbD 0 then (1 : Byte) else 0) <<< 5 |||
      (if (value / 10).getLsbD 0 then (1 : Byte) else 0) <<< 4 := by
  rw [timeTensOctet, byte_and_one_eq, byte_and_one_eq]

/-- The two UDW of the tens of a time value. -/
lemma ofFields_timeTensFields (b₇ b₆ : ℕ) (value : Byte) :
    Bits.ofFields (timeTensFields b₇ b₆ value) =
      Bits.ofBytes [timeTensOctet (b₇.testBit 0) (b₆.testBit 0) value, 0] := by
  have hbits : ∀ c₇ c₆ c₅ c₄ : Bool,
      [c₇] ++ ([c₆] ++ Bits.ofFields
        [(c₅.toNat, 1), (c₄.toNat, 1), (0x00, 4), (0x00, 4), (0x00, 4)]) =
      Bits.ofBytes [(if c₇ then 0x80 else 0) ||| (if c₆ then 0x40 else 0) |||
        (if c₅ then (1 : Byte) else 0) <<< 5 ||| (if c₄ then (1 : Byte) else 0) <<< 4, 0] := by
    decide +kernel
  have h₂₀ : (value / 20).getLsbD 0 = (value.toNat / 20).testBit 0 := rfl
  have h₁₀ : (value / 10).getLsbD 0 = (value.toNat / 10).testBit 0 := rfl
  rw [timeTensFields, timeTensOctet_eq, h₂₀, h₁₀, and_one_eq, and_one_eq]
  exact hbits _ _ _ _

/-- The fields of a time code make up its octets. -/
lemma ofFields_timeCodeFields (pkt : KlvancPacketSmpte12_2) :
    Bits.ofFields pkt.timeCodeFields = Bits.ofBytes pkt.timeCodeOctets := by
  have hforty : ∀ value : Byte,
      (value.toNat / 40 &&& 0x01).testBit 0 = (value / 40).getLsbD 0 := by
    decide +kernel
  simp only [KlvancPacketSmpte12_2.timeCodeFields, Bits.ofFields_append, ofFields_timeUnitsFields,
    ofFields_timeTensFields, hforty, ← Bits.ofBytes_append]
  rfl

/-- Distributing an octet does not change the number of cells. -/
@[simp] lemma storeDbb_length (dbb : Byte) (start : ℕ) (buf : List Byte) :
    (storeDbb dbb start buf).length = buf.length := by
  simp [storeDbb, List.range, List.range.loop]

lemma KlvancPacketSmpte12_2.octets_length {pkt : KlvancPacketSmpte12_2} (h : pkt.HasTimeCode) :
    pkt.octets.length = 16 := by
  rw [octets, if_pos h, storeDbb_length, storeDbb_length]
  rfl

/-- `klvanc_convert_SMPTE_12_2_to_packetBytes` puts out the octets of a time code whose type is
supported, and none of another one. -/
lemma klvancConvertSMPTE12_2ToPacketBytes_eq (pkt : KlvancPacketSmpte12_2) :
    ∃ rest, klvancConvertSMPTE12_2ToPacketBytes pkt =
      pure (0, pkt.octets ++ rest, pkt.octets.length) := by
  unfold klvancConvertSMPTE12_2ToPacketBytes KlvancPacketSmpte12_2.octets
  split_ifs
  · have hlen : pkt.timeCodeOctets.length = 16 := rfl
    rw [klbsPacketBytes_eq (ofFields_timeCodeFields pkt) hlen.le (by norm_num), pure_bind, hlen]
    refine ⟨[], ?_⟩
    simp [hlen]
  · rw [@klbsPacketBytes_eq 16 [] [] rfl (by norm_num) (by norm_num), pure_bind]
    exact ⟨_, rfl⟩

namespace FixedPacket

/-- The octets of a packet are put out, in front of what the buffer holds behind them. -/
lemma packetBytes_eq (p : FixedPacket) :
    ∃ rest, p.packetBytes = pure (0, p.octets ++ rest, p.octets.length) := by
  cases p with
  | afd pkt =>
    refine ⟨List.replicate 247 0, ?_⟩
    rw [octets, pkt.octets_length]
    exact klvancConvertAFDToPacketBytes_eq pkt
  | eia608 pkt => exact ⟨_, klvancConvertEIA608ToPacketBytes_eq pkt⟩
  | klU64leCounter pkt =>
    refine ⟨[], ?_⟩
    rw [List.append_nil]
    rfl
  | smpte12_2 pkt => exact klvancConvertSMPTE12_2ToPacketBytes_eq pkt

/-- The octets of a packet are made into words. -/
lemma toWords_eq (p : FixedPacket) :
    p.toWords = pure (0, klvancSdiCreatePayload p.sdid p.did p.octets 10) := by
  obtain ⟨rest, hbytes⟩ := p.packetBytes_eq
  cases p with
  | afd pkt =>
    have hconvert : klvancConvertAFDToPacketBytes pkt = _ := hbytes
    rw [toWords, klvancConvertAFDToWords, packetBytesToWords, hconvert, pure_bind]
    simp
    rfl
  | eia608 pkt =>
    have hconvert : klvancConvertEIA608ToPacketBytes pkt = _ := hbytes
    rw [toWords, klvancConvertEIA608ToWords, packetBytesToWords, hconvert, pure_bind]
    simp
    rfl
  | klU64leCounter pkt => rfl
  | smpte12_2 pkt =>
    have hconvert : klvancConvertSMPTE12_2ToPacketBytes pkt = _ := hbytes
    rw [toWords, klvancConvertSMPTE12_2ToWords, hconvert, pure_bind]
    simp
    rfl

/-- The packet is serialised: it is not a time code of a type that is not supported. -/
def Serialised : FixedPacket → Prop
  | .smpte12_2 pkt => pkt.HasTimeCode
  | _ => True

/-- A packet that is serialised has octets, and no more than the data count can hold. -/
lemma octets_length_of_serialised {p : FixedPacket} (h : p.Serialised) :
    1 ≤ p.octets.length ∧ p.octets.length ≤ 255 := by
  have hlen : p.octets.length = 8 ∨ p.octets.length = 3 ∨ p.octets.length = 16 := by
    cases p with
    | afd pkt => exact Or.inl pkt.octets_length
    | eia608 pkt => exact Or.inr (Or.inl pkt.octets_length)
    | klU64leCounter pkt => exact Or.inl pkt.octets_length
    | smpte12_2 pkt => exact Or.inr (Or.inr (KlvancPacketSmpte12_2.octets_length h))
  omega

lemma octets_eq_nil_of_not_serialised {p : FixedPacket} (h : ¬p.Serialised) : p.octets = [] := by
  cases p with
  | smpte12_2 pkt => exact if_neg h
  | _ => exact absurd trivial h

end FixedPacket

end Libklvanc
