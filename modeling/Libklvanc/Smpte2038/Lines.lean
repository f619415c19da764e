import Libklvanc.Smpte2038.Header

/-!
# Lines of ancillary data as bit strings

A line begins with seven zero bits; its data count stands behind 50 bits and announces how long the
line is (`lineLength`). In a bit string the line that begins it is complete, or the bit string is
cut off inside it (`CutLine`), or no line begins it. `parseAncDataLine` reads a complete line
(`parseAncDataLine_complete`). It rejects one that is cut off only where more bits are missing than
rounding hides (`parseAncDataLine_misses`), and reads the others past the end
(`parseAncDataLine_past`).

Behind a line the parser looks for the next one at the end of the octet or, where the line ends with
an octet, behind the ones that follow (`afterLine`, `alignToLine_stands`).
-/

namespace Libklvanc.Smpte2038

open KlbsDecoder

/-! ### Fields -/

lemma readUserDataWords_takes (count : ℕ) : (readUserDataWords count).Takes (10 * count) := by
  induction count with
  | zero => exact .pure []
  | succ count ih =>
    have h := (Takes.readBits 16 10).bind fun w => ih.bind fun ws => Takes.pure (w :: ws)
    rwa [show 10 + (10 * count + 0) = 10 * (count + 1) by omega] at h

/-- The words are read back, each in ten bits. -/
lemma readUserDataWords_yields (ws : List Word) :
    (readUserDataWords ws.length).Yields (Bits.ofFields (ws.map fun w => (w.toNat, 10)))
      (ws.map fun w => BitVec.ofNat 16 (w.toNat % 2 ^ 10)) := by
  induction ws with
  | nil => exact .pure []
  | cons w ws ih =>
    rw [List.map_cons, Bits.ofFields_cons, ← List.append_nil (Bits.ofFields _)]
    exact (Yields.readBits_mod 16 (by norm_num) w.toNat).bind (ih.bind (.pure _))

lemma readAncDataHeader_takes (reserved flag : Byte) : (readAncDataHeader reserved flag).Takes 53 :=
  (Takes.readBits 16 11).bind fun _ => (Takes.readBits 16 12).bind fun _ =>
    (Takes.readBits 16 10).bind fun _ => (Takes.readBits 16 10).bind fun _ =>
      (Takes.readBits 16 10).bind fun _ => .pure _

/-- The fields of a line are read back. -/
lemma readAncDataHeader_yields (reserved flag : Byte) {a b c d e : ℕ} (ha : a < 2 ^ 11)
    (hb : b < 2 ^ 12) (hc : c < 2 ^ 10) (hd : d < 2 ^ 10) (he : e < 2 ^ 10) :
    (readAncDataHeader reserved flag).Yields
      (Bits.ofFields [(a, 11), (b, 12), (c, 10), (d, 10), (e, 10)])
      { reserved000000 := reserved, cNotYChannelFlag := flag, lineNumber := BitVec.ofNat 16 a,
        horizontalOffset := BitVec.ofNat 16 b, did := BitVec.ofNat 16 c, sdid := BitVec.ofNat 16 d,
        dataCount := BitVec.ofNat 16 e, userDataWords := [], checksumWord := 0 } :=
  (Yields.readBits 16 (by norm_num) ha).bind <| (Yields.readBits 16 (by norm_num) hb).bind <|
    (Yields.readBits 16 (by norm_num) hc).bind <| (Yields.readBits 16 (by norm_num) hd).bind <|
      (Yields.readBits 16 (by norm_num) he).bind (.pure _)

lemma readAncDataWords_takes (l : KlvancSmpte2038AncDataLine) :
    (readAncDataWords l).Takes (10 * (vanc8 l.dataCount + 1)) := by
  have h := (readUserDataWords_takes (vanc8 l.dataCount)).bind fun ws =>
    (Takes.readBits 16 10).bind fun w =>
      Takes.pure { l with userDataWords := ws, checksumWord := w }
  rwa [show 10 * vanc8 l.dataCount + (10 + 0) = 10 * (vanc8 l.dataCount + 1) by omega] at h

/-! ### Lines -/

/-- The bit string begins like a line, as far as it goes. -/
def LineOpens (bits : List Bool) : Prop := ∀ b ∈ bits.take 7, b = false

/-- The number of user data words that the line announces. -/
def announcedWords (bits : List Bool) : ℕ := Bits.toNat ((bits.drop 50).take 10) % 256

/-- The number of bits that the line takes. -/
def lineLength (bits : List Bool) : ℕ := 70 + 10 * announcedWords bits

/-- A whole line begins the bit string. -/
structure CompleteLine (bits : List Bool) : Prop where
  opens : LineOpens bits
  header_le : 60 ≤ bits.length
  length_le : lineLength bits ≤ bits.length

/-- The bit string ends inside the line that begins it. -/
structure CutLine (bits : List Bool) : Prop where
  ne_nil : bits ≠ []
  opens : LineOpens bits
  lt : bits.length < 60 ∨ bits.length < lineLength bits

/-- The bits behind a line without the stuffing: up to the end of the octet or, where the line ends
with an octet, as many ones as follow. -/
def skipAlignment (rest : List Bool) : List Bool :=
  if rest.length % 8 = 0 then rest.dropWhile id else rest.drop (rest.length % 8)

/-- The bits behind the line that begins the bit string, without the stuffing. -/
def afterLine (bits : List Bool) : List Bool := skipAlignment (bits.drop (lineLength bits))

/-- The places at which a line is looked for: the beginning, and behind every complete line. -/
inductive LineStart (bits : List Bool) : List Bool → Prop
  | first : LineStart bits bits
  | next {rest : List Bool} (h : LineStart bits rest) (hline : CompleteLine rest) :
    LineStart bits (afterLine rest)

section Line

variable {bits rest : List Bool} {ctx : KlbsContext}

/-- A line is opened by two zero fields. -/
lemma LineOpens.eq (h : LineOpens rest) (h7 : 7 ≤ rest.length) :
    rest = Bits.ofNat 6 0 ++ (Bits.ofNat 1 0 ++ rest.drop 7) := by
  have hzero : rest.take 7 = List.replicate 7 false :=
    List.eq_replicate_iff.mpr ⟨by rw [List.length_take]; omega, h⟩
  conv_lhs => rw [← List.take_append_drop 7 rest, hzero]
  rfl

/-- What does not open a line is rejected. -/
lemma parseAncDataLine_rejects (h : ctx.Reads rest) (h7 : 7 ≤ rest.length)
    (hopens : ¬LineOpens rest) :
    ∃ ctx', parseAncDataLine.run.run ctx = (.error (-1), ctx') ∧ ctx'.faults = ctx.faults := by
  have hsplit := @Bits.ofFields_toFields [6, 1] rest h7
  simp only [Bits.toFields, Bits.ofFields_cons, Bits.ofFields_nil, List.append_nil,
    List.append_assoc] at hsplit
  have hv := Bits.toNat_take_lt 6 rest
  have hu := Bits.toNat_take_lt 1 (rest.drop 6)
  generalize Bits.toNat (rest.take 6) = v at hsplit hv
  generalize Bits.toNat ((rest.drop 6).take 1) = u at hsplit hu
  rw [← hsplit] at h
  obtain ⟨ctx₁, hread₁, h₁, hfaults₁, -⟩ := Yields.readBits 8 (by norm_num) hv ctx _ h
  unfold parseAncDataLine
  rw [run_bind_of_ok hread₁]
  by_cases hv0 : v = 0
  · have hu0 : u ≠ 0 := by
      rintro rfl
      refine hopens ?_
      rw [← hsplit, hv0]
      simp [LineOpens, Bits.ofNat]
    obtain ⟨ctx₂, hread₂, -, hfaults₂, -⟩ := Yields.readBits 8 (by norm_num) hu ctx₁ _ h₁
    have hne : BitVec.ofNat 8 u ≠ 0 := by
      rw [Ne, ← BitVec.toNat_inj, BitVec.toNat_ofNat, Nat.mod_eq_of_lt (by omega)]
      exact hu0
    rw [validate_bind (by rw [hv0]; rfl), run_bind_of_ok hread₂, validate_bind_of_ne hne]
    exact ⟨ctx₂, rfl, hfaults₂.trans hfaults₁⟩
  · have hne : BitVec.ofNat 8 v ≠ 0 := by
      rw [Ne, ← BitVec.toNat_inj, BitVec.toNat_ofNat, Nat.mod_eq_of_lt (by omega)]
      exact hv0
    rw [validate_bind_of_ne hne]
    exact ⟨ctx₁, rfl, hfaults₁⟩

/-- Behind the zero fields that open a line the other fields are read. -/
lemma parseAncDataLine_opening (h : ctx.Reads rest) (h7 : 7 ≤ rest.length)
    (hopens : LineOpens rest) :
    ∃ ctx', parseAncDataLine.run.run ctx =
        (readAncDataHeader 0 0 >>= fun l =>
          needOctets ((vanc8 l.dataCount + 1) * 10 / 8) (-1) >>= fun _ =>
            readAncDataWords l).run.run ctx' ∧
      ctx'.Reads (rest.drop 7) ∧ ctx'.faults = ctx.faults ∧ ctx'.buflen = ctx.buflen := by
  rw [hopens.eq h7] at h
  obtain ⟨ctx₁, hread₁, h₁, hfaults₁, hlen₁⟩ :=
    Yields.readBits 8 (show 6 ≤ 64 by norm_num) (show 0 < 2 ^ 6 by norm_num) ctx _ h
  obtain ⟨ctx₂, hread₂, h₂, hfaults₂, hlen₂⟩ :=
    Yields.readBits 8 (show 1 ≤ 64 by norm_num) (show 0 < 2 ^ 1 by norm_num) ctx₁ _ h₁
  refine ⟨ctx₂, ?_, h₂, hfaults₂.trans hfaults₁, hlen₂.trans hlen₁⟩
  have hzero : BitVec.ofNat 8 0 = (0 : Byte) := rfl
  rw [hzero] at hread₁ hread₂
  unfold parseAncDataLine
  rw [run_bind_of_ok hread₁, validate_bind rfl, run_bind_of_ok hread₂, validate_bind rfl]

/-- The data count is the fifth field behind those that open a line. -/
lemma readAncDataHeader_count (h : ctx.Reads (rest.drop 7)) (h60 : 60 ≤ rest.length) :
    ∃ l ctx', (readAncDataHeader 0 0).run.run ctx = (.ok l, ctx') ∧
      vanc8 l.dataCount = announcedWords rest ∧ ctx'.Reads (rest.drop 60) ∧
      ctx'.faults = ctx.faults ∧ ctx'.buflen = ctx.buflen := by
  have hsplit := @Bits.ofFields_toFields [11, 12, 10, 10, 10] (rest.drop 7)
    (by rw [List.length_drop]; change 53 ≤ _; omega)
  rw [← hsplit, List.drop_drop] at h
  obtain ⟨ctx', hread, h', hfaults, hlen⟩ :=
    readAncDataHeader_yields 0 0 (Bits.toNat_take_lt 11 _) (Bits.toNat_take_lt 12 _)
      (Bits.toNat_take_lt 10 _) (Bits.toNat_take_lt 10 _) (Bits.toNat_take_lt 10 _) ctx _ h
  refine ⟨_, ctx', hread, ?_, h', hfaults, hlen⟩
  have hlt := Bits.toNat_take_lt 10 (rest.drop 50)
  dsimp only
  rw [List.drop_drop, List.drop_drop, List.drop_drop, List.drop_drop,
    show 7 + (11 + (12 + (10 + 10))) = 50 by norm_num, vanc8, announcedWords, BitVec.toNat_and,
    BitVec.toNat_ofNat, Nat.mod_eq_of_lt (by omega)]
  exact Nat.and_two_pow_sub_one_eq_mod _ 8

/-- Behind the data count of a line that is opened, the octets of its words are asked for, and then
the words are read. -/
lemma parseAncDataLine_opened (h : ctx.Reads rest) (h60 : 60 ≤ rest.length)
    (hopens : LineOpens rest) :
    ∃ l ctx', parseAncDataLine.run.run ctx =
        (needOctets ((announcedWords rest + 1) * 10 / 8) (-1) >>= fun _ =>
          readAncDataWords l).run.run ctx' ∧
      vanc8 l.dataCount = announcedWords rest ∧ ctx'.Reads (rest.drop 60) ∧
      ctx'.faults = ctx.faults ∧ ctx'.buflen = ctx.buflen := by
  obtain ⟨ctx₁, hrun₁, h₁, hfaults₁, hlen₁⟩ := parseAncDataLine_opening h (by omega) hopens
  obtain ⟨l, ctx₂, hread₂, hcount, h₂, hfaults₂, hlen₂⟩ := readAncDataHeader_count h₁ h60
  refine ⟨l, ctx₂, ?_, hcount, h₂, hfaults₂.trans hfaults₁, hlen₂.trans hlen₁⟩
  rw [hrun₁, run_bind_of_ok hread₂, hcount]

/-- A complete line is read. -/
lemma parseAncDataLine_complete (h : ctx.Reads rest) (hline : CompleteLine rest) :
    ∃ l ctx', parseAncDataLine.run.run ctx = (.ok l, ctx') ∧
      ctx'.Reads (rest.drop (lineLength rest)) ∧ ctx'.faults = ctx.faults ∧
      ctx'.buflen = ctx.buflen := by
  obtain ⟨l, ctx₁, hrun, hcount, h₁, hfaults₁, hlen₁⟩ :=
    parseAncDataLine_opened h hline.header_le hline.opens
  have hle := hline.length_le
  unfold lineLength at hle ⊢
  have htakes := readAncDataWords_takes l
  rw [hcount] at htakes
  have hlength : ((rest.drop 60).take (10 * (announcedWords rest + 1))).length =
      10 * (announcedWords rest + 1) := by
    rw [List.length_take, List.length_drop]
    omega
  obtain ⟨l', hyields⟩ := htakes.yields _ hlength
  rw [← List.take_append_drop (10 * (announcedWords rest + 1)) (rest.drop 60)] at h₁
  obtain ⟨ctx₂, hrun₂, h₂, hfaults₂, hlen₂⟩ :=
    hyields.needOctets_bind (f := fun _ => readAncDataWords l) (-1) (by rw [hlength, Nat.mul_comm])
      ctx₁ _ h₁
  refine ⟨l', ctx₂, hrun.trans hrun₂, ?_, hfaults₂.trans hfaults₁, hlen₂.trans hlen₁⟩
  rw [List.drop_drop] at h₂
  rwa [show 70 + 10 * announcedWords rest = 60 + 10 * (announcedWords rest + 1) by omega]

/-- The octets of the words that a line announces are missing, as far as whole octets tell. -/
def MissesOctets (rest : List Bool) : Prop :=
  60 ≤ rest.length ∧ (rest.length - 60) / 8 < (announcedWords rest + 1) * 10 / 8

/-- A line whose octets are missing is rejected. -/
lemma parseAncDataLine_misses (h : ctx.Reads rest) (hopens : LineOpens rest)
    (hmiss : MissesOctets rest) :
    ∃ ctx', parseAncDataLine.run.run ctx = (.error (-1), ctx') ∧ ctx'.faults = ctx.faults := by
  obtain ⟨l, ctx₁, hrun, -, h₁, hfaults₁, -⟩ := parseAncDataLine_opened h hmiss.1 hopens
  have hfree := h₁.byteCountFree_eq
  rw [List.length_drop] at hfree
  refine ⟨ctx₁, hrun.trans (run_bind_of_error ?_), hfaults₁⟩
  rw [needOctets_run, if_pos (by rw [hfree]; exact hmiss.2)]

lemma parseAncDataLine_progresses : parseAncDataLine.Progresses :=
  (Progresses.readBits 8 6).bind fun reserved => (validate_progresses reserved 0).bind fun _ =>
    (Progresses.readBits 8 1).bind fun flag => (validate_progresses flag 0).bind fun _ =>
      (readAncDataHeader_takes reserved flag).progresses.bind fun l =>
        (Progresses.needOctets _ _).bind fun _ => (readAncDataWords_takes l).progresses

/-- A line that is cut off is read past the end, unless its octets are missed. -/
lemma parseAncDataLine_past (h : ctx.Reads rest) (h7 : 7 ≤ rest.length) (hcut : CutLine rest)
    (hmiss : ¬MissesOctets rest) : (parseAncDataLine.run.run ctx).2.Past := by
  by_cases h60 : 60 ≤ rest.length
  · obtain ⟨l, ctx₁, hrun, hcount, h₁, -, -⟩ := parseAncDataLine_opened h h60 hcut.opens
    have hfree := h₁.byteCountFree_eq
    rw [List.length_drop] at hfree
    have hneed : (needOctets ((announcedWords rest + 1) * 10 / 8) (-1)).run.run ctx₁ =
        (.ok (), ctx₁) := by
      rw [needOctets_run, if_neg]
      intro hlt
      exact hmiss ⟨h60, by rwa [hfree] at hlt⟩
    have htakes := readAncDataWords_takes l
    rw [hcount] at htakes
    have hlt := hcut.lt
    unfold lineLength at hlt
    rw [hrun, run_bind_of_ok hneed]
    exact htakes.past ctx₁ _ h₁ (by rw [List.length_drop]; omega)
  · obtain ⟨ctx₁, hrun, h₁, -, -⟩ := parseAncDataLine_opening h h7 hcut.opens
    rw [hrun]
    exact (readAncDataHeader_takes 0 0).past_bind
      (fun l => (Progresses.needOctets _ _).bind fun _ => (readAncDataWords_takes l).progresses)
      h₁ (by rw [List.length_drop]; omega)

end Line

/-! ### Stuffing -/

section Stuffing

variable {rest : List Bool} {ctx : KlbsContext}

/-- What holds before each round of the loop over the lines: the bits `rest` are left, and `rem` is
the number of octets that they touch with eight bits or seven, unless the loop is about to end. -/
def Stands (rem : ℤ) (ctx : KlbsContext) (rest : List Bool) : Prop :=
  rem = 0 ∧ rest.length ≤ 6 ∨ ctx.Reads rest ∧ rem = ((rest.length + 1) / 8 : ℕ)

/-- `rem` is the number of octets left. -/
lemma byteCountRem_eq (h : ctx.Reads rest) (hlt : rest.length < 2 ^ 34) :
    byteCountRem ctx = (rest.length / 8 : ℕ) := by
  rw [byteCountRem, h.byteCountFree_eq, BitVec.toInt_eq_toNat_of_lt]
  · rw [BitVec.toNat_ofNat, Nat.mod_eq_of_lt (by omega)]
  · rw [BitVec.toNat_ofNat, Nat.mod_eq_of_lt (by omega)]
    omega

/-- The inner loop stops behind the ones, or when less than an octet is left. -/
lemma skipStuffing_stands (h : ctx.Reads rest) (hlt : rest.length < 2 ^ 34) :
    ∃ rem ctx', (∀ fuel, rest.length ≤ fuel →
        skipStuffing fuel ((rest.length + 1) / 8 : ℕ) ctx = (rem, ctx')) ∧
      Stands rem ctx' (rest.dropWhile id) ∧ ctx'.faults = ctx.faults := by
  induction rest generalizing ctx with
  | nil =>
    refine ⟨0, ctx, fun fuel _ => ?_, Or.inl ⟨rfl, Nat.zero_le _⟩, rfl⟩
    cases fuel with
    | zero => rfl
    | succ fuel => rfl
  | cons b rest ih =>
    rw [List.length_cons] at hlt
    by_cases hrem : (((b :: rest).length + 1) / 8 : ℕ) = 0
    · have hlen : ((b :: rest).dropWhile id).length ≤ (b :: rest).length :=
        List.length_dropWhile_le _ _
      rw [hrem]
      refine ⟨0, ctx, fun fuel _ => ?_, Or.inl ⟨rfl, ?_⟩, rfl⟩
      · cases fuel with
        | zero => rfl
        | succ fuel => rfl
      · rw [List.length_cons] at hrem hlen
        omega
    · have hpeek : klbsPeekBits ctx 1 = (BitVec.ofNat 64 b.toNat, ctx) := by
        obtain ⟨v, hpeek, hv⟩ := @KlbsContext.Reads.peekBits ctx rest [b] h (by simp)
        rw [List.length_singleton] at hpeek
        have hbit : v = BitVec.ofNat 64 b.toNat := by
          rw [← BitVec.setWidth_eq v, ← BitVec.ofNat_toNat 64 v, hv]
          simp [Bits.toNat]
        rw [hpeek, hbit]
      obtain ⟨ctx', hread, h', hfaults, -, -⟩ := h.readBit
      cases b with
      | false =>
        refine ⟨_, ctx, fun fuel hfuel => ?_, Or.inr ⟨h, rfl⟩, rfl⟩
        rw [List.length_cons] at hfuel
        obtain ⟨fuel, rfl⟩ : ∃ n, fuel = n + 1 := ⟨fuel - 1, by omega⟩
        rw [skipStuffing, if_pos (by exact_mod_cast hrem), hpeek]
        rfl
      | true =>
        obtain ⟨rem, ctx'', hrun, hstands, hfaults'⟩ := ih h' (by omega)
        refine ⟨rem, ctx'', fun fuel hfuel => ?_, hstands, hfaults'.trans hfaults⟩
        rw [List.length_cons] at hfuel
        obtain ⟨fuel, rfl⟩ : ∃ n, fuel = n + 1 := ⟨fuel - 1, by omega⟩
        rw [skipStuffing, if_pos (by exact_mod_cast hrem), hpeek]
        change skipStuffing fuel (byteCountRem ctx) (klbsReadBit ctx).2 = _
        rw [hread, byteCountRem_eq h (by rw [List.length_cons]; omega), List.length_cons]
        exact hrun fuel (by omega)

/-- Behind a line the stuffing is removed. -/
lemma alignToLine_stands (h : ctx.Reads rest) (hlt : rest.length < 2 ^ 34) :
    ∃ rem ctx', (∀ fuel, rest.length ≤ fuel → alignToLine fuel ctx = (rem, ctx')) ∧
      Stands rem ctx' (skipAlignment rest) ∧ ctx'.faults = ctx.faults := by
  have hreg := h.regUsed_eq
  have hmod := Nat.mod_lt rest.length (show 0 < 8 by norm_num)
  have hlen : (rest.drop (rest.length % 8)).length = rest.length - rest.length % 8 :=
    List.length_drop
  rw [← List.take_append_drop (rest.length % 8) rest] at h
  obtain ⟨h', hfaults, -⟩ := h.readByteStuff (by rw [List.length_take]; omega) (by omega)
  have hrem := byteCountRem_eq h' (by omega)
  unfold alignToLine skipAlignment
  dsimp only
  rw [hreg]
  by_cases halign : rest.length % 8 = 0
  · rw [if_pos halign]
    rw [halign, List.drop_zero] at h' hrem
    by_cases hrem0 : byteCountRem (klbsReadByteStuff ctx) = 0
    · refine ⟨_, _, fun fuel _ => if_neg (by simp [hrem0]), Or.inl ⟨hrem0, ?_⟩, hfaults⟩
      have hle : (rest.dropWhile id).length ≤ rest.length := List.length_dropWhile_le _ _
      rw [hrem] at hrem0
      omega
    · obtain ⟨rem, ctx', hrun, hstands, hfaults'⟩ := skipStuffing_stands h' hlt
      refine ⟨rem, ctx', fun fuel hfuel => ?_, hstands, hfaults'.trans hfaults⟩
      rw [if_pos ⟨halign, hrem0⟩, hrem, show rest.length / 8 = (rest.length + 1) / 8 by omega]
      exact hrun fuel hfuel
  · rw [if_neg halign]
    refine ⟨_, _, fun fuel _ => if_neg fun hc => halign hc.1, Or.inr ⟨h', ?_⟩, hfaults⟩
    rw [hrem, hlen, show (rest.length - rest.length % 8) / 8 =
      (rest.length - rest.length % 8 + 1) / 8 by omega]

end Stuffing

end Libklvanc.Smpte2038
