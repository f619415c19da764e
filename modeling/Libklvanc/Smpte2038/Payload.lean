import Libklvanc.Smpte2038.Lines

/-!
# The loop over the lines

`smpte2038_parse_pes_payload_int` walks from line to line (`LineStart`) up to a place where no
complete line begins. There it stops without an error when little is left, rejects what is left, or
reads past the end: the last only when a line is cut off and the parser does not notice (`Runs`,
`parsePesPayloadLoop_runs`).
-/

namespace Libklvanc.Smpte2038

open KlbsDecoder

/-! ### Line starts -/

section LineStart

variable {bits rest : List Bool}

/-- The line starts behind the first line are line starts. -/
lemma LineStart.behind (hline : CompleteLine bits) (h : LineStart (afterLine bits) rest) :
    LineStart bits rest := by
  induction h with
  | first => exact .next .first hline
  | next _ hrest ih => exact .next ih hrest

/-- A line starts at the beginning or behind the first line. -/
lemma LineStart.eq_or_behind (h : LineStart bits rest) :
    rest = bits ∨ CompleteLine bits ∧ LineStart (afterLine bits) rest := by
  induction h with
  | first => exact Or.inl rfl
  | next _ hrest ih =>
    rcases ih with rfl | ⟨hline, hstart⟩
    · exact Or.inr ⟨hrest, .first⟩
    · exact Or.inr ⟨hline, .next hstart hrest⟩

/-- When no complete line begins the bit string, it is the only line start. -/
lemma LineStart.eq_of_not_complete (h : LineStart bits rest) (hline : ¬CompleteLine bits) :
    rest = bits :=
  h.eq_or_behind.resolve_right fun hc => hline hc.1

/-- A line that is cut off is not complete. -/
lemma CutLine.not_complete (h : CutLine bits) : ¬CompleteLine bits := by
  intro hline
  have hlt := h.lt
  have hheader := hline.header_le
  have hle := hline.length_le
  omega

/-- What begins like a line is a complete line or one that is cut off. -/
lemma LineOpens.complete_or_cut (h : LineOpens bits) (hne : bits ≠ []) :
    CompleteLine bits ∨ CutLine bits := by
  by_cases hlt : bits.length < 60 ∨ bits.length < lineLength bits
  · exact Or.inr ⟨hne, h, hlt⟩
  · exact Or.inl ⟨h, by omega, by omega⟩

/-- A line takes at least 70 bits. -/
lemma afterLine_length_le (h : CompleteLine bits) : (afterLine bits).length + 70 ≤ bits.length := by
  have hle := h.length_le
  have hdrop : (bits.drop (lineLength bits)).length = bits.length - lineLength bits :=
    List.length_drop
  have hskip : (skipAlignment (bits.drop (lineLength bits))).length ≤
      (bits.drop (lineLength bits)).length := by
    unfold skipAlignment
    split_ifs
    · exact List.length_dropWhile_le _ _
    · exact (List.drop_sublist _ _).length_le
  unfold afterLine
  unfold lineLength at *
  omega

end LineStart

/-! ### Runs of the loop -/

section Runs

variable {lines : List KlvancSmpte2038AncDataLine} {rem : ℤ} {ctx : KlbsContext} {rest : List Bool}

/-- Every line of the bit string that is cut off is one whose octets are missed. -/
def CutLinesMissed (bits : List Bool) : Prop :=
  ∀ rest, LineStart bits rest → CutLine rest → MissesOctets rest

/-- From this place the loop ends by itself, with a return value `ret` and without a fault: however
many rounds `fuel` allows, it does not use them up. -/
def Ends (lines : List KlvancSmpte2038AncDataLine) (rem : ℤ) (ctx : KlbsContext) (rest : List Bool)
    (ret : ℤ) : Prop :=
  ∃ lines' ctx', ctx'.faults = ctx.faults ∧ ∀ fuel, rest.length ≤ fuel →
    parsePesPayloadLoop fuel lines rem ctx = ((ret, lines'), ctx')

/-- Where less than five octets are left, the loop ends. -/
lemma parsePesPayloadLoop_stop (fuel : ℕ) (hrem : ¬4 < rem) :
    parsePesPayloadLoop fuel lines rem ctx = ((0, lines), ctx) := by
  cases fuel with
  | zero => rfl
  | succ fuel => exact if_neg hrem

-- Otherwise the loop is unfolded together with the decoder of a line.
attribute [local irreducible] parseAncDataLine alignToLine in
/-- One round of the loop. -/
lemma parsePesPayloadLoop_succ (fuel : ℕ) (hrem : 4 < rem) :
    parsePesPayloadLoop (fuel + 1) lines rem ctx =
      match parseAncDataLine.run.run ctx with
      | (.error ret, ctx') => ((ret, lines), ctx')
      | (.ok l, ctx') => parsePesPayloadLoop fuel (lines ++ [l]) (alignToLine fuel ctx').1
          (alignToLine fuel ctx').2 :=
  if_pos hrem

/-- Where what is left is rejected, the loop ends with an error. -/
lemma Ends.of_error {ctx' : KlbsContext} (hrem : 4 < rem) (hne : rest ≠ [])
    (hline : parseAncDataLine.run.run ctx = (.error (-1), ctx'))
    (hfaults : ctx'.faults = ctx.faults) :
    Ends lines rem ctx rest (-1) := by
  refine ⟨lines, ctx', hfaults, fun fuel hfuel => ?_⟩
  have hpos := List.length_pos_of_ne_nil hne
  obtain ⟨fuel, rfl⟩ : ∃ n, fuel = n + 1 := ⟨fuel - 1, by omega⟩
  rw [parsePesPayloadLoop_succ fuel hrem, hline]

/-- Behind a line the loop goes on. -/
lemma parsePesPayloadLoop_line {l : KlvancSmpte2038AncDataLine} {ctx₁ : KlbsContext}
    (hparse : parseAncDataLine.run.run ctx = (.ok l, ctx₁)) (h₁ : ctx₁.Reads rest)
    (hlt : rest.length < 2 ^ 34) (hrem : 4 < rem) :
    ∃ rem' ctx', Stands rem' ctx' (skipAlignment rest) ∧ ctx'.faults = ctx₁.faults ∧
      ∀ fuel, rest.length ≤ fuel → parsePesPayloadLoop (fuel + 1) lines rem ctx =
        parsePesPayloadLoop fuel (lines ++ [l]) rem' ctx' := by
  obtain ⟨rem', ctx₂, halign, hstands, hfaults⟩ := alignToLine_stands h₁ hlt
  refine ⟨rem', ctx₂, hstands, hfaults, fun fuel hfuel => ?_⟩
  rw [parsePesPayloadLoop_succ fuel hrem, hparse]
  dsimp only
  rw [halign fuel hfuel]

/-- Behind a complete line the loop goes on. -/
lemma parsePesPayloadLoop_complete (h : ctx.Reads rest) (hlt : rest.length < 2 ^ 34)
    (hrem : 4 < rem) (hline : CompleteLine rest) :
    ∃ l rem' ctx', Stands rem' ctx' (afterLine rest) ∧ ctx'.faults = ctx.faults ∧
      ∀ fuel, rest.length ≤ fuel + 1 → parsePesPayloadLoop (fuel + 1) lines rem ctx =
        parsePesPayloadLoop fuel (lines ++ [l]) rem' ctx' := by
  obtain ⟨l, ctx₁, hparse, h₁, hfaults₁, -⟩ := parseAncDataLine_complete h hline
  have hlen : (rest.drop (lineLength rest)).length = rest.length - lineLength rest :=
    List.length_drop
  have hpos : 0 < lineLength rest := by
    unfold lineLength
    omega
  obtain ⟨rem', ctx', hstands, hfaults, hrun⟩ :=
    @parsePesPayloadLoop_line lines rem ctx _ l ctx₁ hparse h₁ (by omega) hrem
  exact ⟨l, rem', ctx', hstands, hfaults.trans hfaults₁, fun fuel hfuel => hrun fuel (by omega)⟩

/-- Skipping stuffing makes progress. -/
lemma skipStuffing_progress (fuel : ℕ) (rem : ℤ) (ctx : KlbsContext) :
    ctx.Progress (skipStuffing fuel rem ctx).2 := by
  induction fuel generalizing rem ctx with
  | zero => exact .refl ctx
  | succ fuel ih =>
    have hpeek := KlbsContext.Progress.peekBits ctx 1
    unfold skipStuffing
    by_cases hrem : rem ≠ 0
    · rw [if_pos hrem]
      dsimp only
      split_ifs
      · exact hpeek.trans ((KlbsContext.Progress.readBit _).trans (ih _ _))
      · exact hpeek
    · rw [if_neg hrem]
      exact .refl ctx

/-- So does what follows a line. -/
lemma alignToLine_progress (fuel : ℕ) (ctx : KlbsContext) :
    ctx.Progress (alignToLine fuel ctx).2 := by
  have hstuff := KlbsContext.Progress.readByteStuff ctx
  unfold alignToLine
  dsimp only
  split_ifs
  · exact hstuff.trans (skipStuffing_progress _ _ _)
  · exact hstuff

/-- The loop makes progress. -/
lemma parsePesPayloadLoop_progress (fuel : ℕ) (lines : List KlvancSmpte2038AncDataLine) (rem : ℤ)
    (ctx : KlbsContext) : ctx.Progress (parsePesPayloadLoop fuel lines rem ctx).2 := by
  induction fuel generalizing lines rem ctx with
  | zero => exact .refl ctx
  | succ fuel ih =>
    by_cases hrem : 4 < rem
    · rw [parsePesPayloadLoop_succ fuel hrem]
      have hprogress := parseAncDataLine_progresses ctx
      rcases hline : parseAncDataLine.run.run ctx with ⟨e | l, ctx'⟩
      · rw [hline] at hprogress
        exact hprogress
      · rw [hline] at hprogress
        exact (hprogress.trans (alignToLine_progress fuel ctx')).trans (ih _ _ _)
    · rw [parsePesPayloadLoop_stop _ hrem]
      exact .refl ctx

/-- Where a line is cut off and its octets are not missed, the loop stops without an error or reads
past the end. -/
lemma parsePesPayloadLoop_cut (h : Stands rem ctx rest) (hcut : CutLine rest)
    (hmiss : ¬MissesOctets rest) {fuel : ℕ} (hfuel : rest.length ≤ fuel) :
    (parsePesPayloadLoop fuel lines rem ctx).1.1 = 0 ∨
      (parsePesPayloadLoop fuel lines rem ctx).2.Past := by
  by_cases hrem : 4 < rem
  · rcases h with ⟨rfl, -⟩ | ⟨hreads, hrem'⟩
    · exact absurd hrem (by norm_num)
    · obtain ⟨fuel, rfl⟩ : ∃ n, fuel = n + 1 := ⟨fuel - 1, by omega⟩
      have hpast := parseAncDataLine_past hreads (by omega) hcut hmiss
      refine Or.inr ?_
      rw [parsePesPayloadLoop_succ fuel hrem]
      rcases hline : parseAncDataLine.run.run ctx with ⟨e | l, ctx'⟩
      · rw [hline] at hpast
        exact hpast
      · rw [hline] at hpast
        exact ((alignToLine_progress fuel ctx').trans
          (parsePesPayloadLoop_progress _ _ _ _)).past hpast
  · rw [parsePesPayloadLoop_stop _ hrem]
    exact Or.inl rfl

/-- Where no complete line begins and no line is cut off unnoticed, the loop ends, with an error
where a line is cut off. -/
lemma ends_of_not_complete (h : Stands rem ctx rest) (hline : ¬CompleteLine rest)
    (hmissed : CutLine rest → MissesOctets rest) :
    ∃ ret, Ends lines rem ctx rest ret ∧ ret ≤ 0 ∧ (CutLine rest → ret < 0) := by
  by_cases hrem : 4 < rem
  · rcases h with ⟨rfl, -⟩ | ⟨hreads, hrem'⟩
    · exact absurd hrem (by norm_num)
    · have hlen : 39 ≤ rest.length := by omega
      have hne : rest ≠ [] := List.ne_nil_of_length_pos (by omega)
      obtain ⟨ctx', hparse, hfaults⟩ : ∃ ctx', parseAncDataLine.run.run ctx = (.error (-1), ctx') ∧
          ctx'.faults = ctx.faults := by
        by_cases hopens : LineOpens rest
        · exact parseAncDataLine_misses hreads hopens
            (hmissed ((hopens.complete_or_cut hne).resolve_left hline))
        · exact parseAncDataLine_rejects hreads (by omega) hopens
      exact ⟨-1, .of_error hrem hne hparse hfaults, by norm_num, fun _ => by norm_num⟩
  · refine ⟨0, ⟨lines, ctx, rfl, fun fuel _ => parsePesPayloadLoop_stop fuel hrem⟩, le_rfl,
      fun hcut => absurd (hmissed hcut).1 ?_⟩
    rcases h with ⟨-, hlen⟩ | ⟨-, hrem'⟩
    · omega
    · omega

/-- The run of the loop: when every line that is cut off is missed, the loop ends by itself and
returns an error where a line is cut off. -/
theorem ends_of_cutLinesMissed (h : Stands rem ctx rest) (hlt : rest.length < 2 ^ 34)
    (hmissed : CutLinesMissed rest) :
    ∃ ret, Ends lines rem ctx rest ret ∧ ret ≤ 0 ∧
      ((∃ bits, LineStart rest bits ∧ CutLine bits) → ret < 0) := by
  induction hn : rest.length using Nat.strong_induction_on generalizing lines rem ctx rest with
  | _ n ih =>
    by_cases hline : CompleteLine rest ∧ 4 < rem
    · obtain ⟨hline, hrem⟩ := hline
      rcases h with ⟨rfl, -⟩ | ⟨hreads, hrem'⟩
      · exact absurd hrem (by norm_num)
      · have hshort := afterLine_length_le hline
        obtain ⟨l, rem', ctx', hstands, hfaults, hrun⟩ :=
          @parsePesPayloadLoop_complete lines rem ctx rest hreads hlt hrem hline
        obtain ⟨ret, ⟨lines', ctx'', hfaults', hends⟩, hret, hcut⟩ :=
          @ih (afterLine rest).length (by omega) (lines ++ [l]) rem' ctx' (afterLine rest) hstands
            (by omega) (fun r hr => hmissed r (hr.behind hline)) rfl
        refine ⟨ret, ⟨lines', ctx'', hfaults'.trans hfaults, fun fuel hfuel => ?_⟩, hret, ?_⟩
        · obtain ⟨fuel, rfl⟩ : ∃ n, fuel = n + 1 := ⟨fuel - 1, by omega⟩
          rw [hrun fuel hfuel]
          exact hends fuel (by omega)
        · rintro ⟨r, hr, hrcut⟩
          rcases hr.eq_or_behind with rfl | ⟨-, hbehind⟩
          · exact absurd hline hrcut.not_complete
          · exact hcut ⟨r, hbehind, hrcut⟩
    · have hcomplete : ¬CompleteLine rest := by
        intro hc
        have hle := hc.header_le
        rcases h with ⟨-, hlen⟩ | ⟨-, hrem'⟩
        · omega
        · exact hline ⟨hc, by omega⟩
      obtain ⟨ret, hends, hret, hcut⟩ :=
        @ends_of_not_complete lines rem ctx rest h hcomplete (hmissed rest .first)
      refine ⟨ret, hends, hret, ?_⟩
      rintro ⟨r, hr, hrcut⟩
      rw [hr.eq_of_not_complete hcomplete] at hrcut
      exact hcut hrcut

/-- The run of the loop: a line that is cut off and not missed is passed over, or read past the
end. -/
theorem parsePesPayloadLoop_not_missed (h : Stands rem ctx rest) (hlt : rest.length < 2 ^ 34)
    (hmissed : ¬CutLinesMissed rest) {fuel : ℕ} (hfuel : rest.length ≤ fuel) :
    (parsePesPayloadLoop fuel lines rem ctx).1.1 = 0 ∨
      (parsePesPayloadLoop fuel lines rem ctx).2.Past := by
  induction fuel generalizing lines rem ctx rest with
  | zero => exact Or.inl rfl
  | succ fuel ih =>
    by_cases hline : CompleteLine rest
    · have hlen := hline.header_le
      rcases h with ⟨-, hshort⟩ | ⟨hreads, hrem'⟩
      · omega
      · have hshort := afterLine_length_le hline
        obtain ⟨l, rem', ctx', hstands, -, hrun⟩ :=
          @parsePesPayloadLoop_complete lines rem ctx rest hreads hlt (by omega) hline
        rw [hrun fuel hfuel]
        refine ih hstands (by omega) (fun hall => hmissed fun r hr hcut => ?_) (by omega)
        rcases hr.eq_or_behind with rfl | ⟨-, hbehind⟩
        · exact absurd hline hcut.not_complete
        · exact hall r hbehind hcut
    · obtain ⟨r, hr, hcut, hmiss⟩ : ∃ r, LineStart rest r ∧ CutLine r ∧ ¬MissesOctets r := by
        unfold CutLinesMissed at hmissed
        push Not at hmissed
        exact hmissed
      rw [hr.eq_of_not_complete hline] at hcut hmiss
      exact parsePesPayloadLoop_cut h hcut hmiss hfuel

end Runs

end Libklvanc.Smpte2038
