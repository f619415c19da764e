import Libklvanc.Core.Lines
import Libklvanc.Foundation.Keyed

/-!
# Collecting packets on the lines of a line set

Any number of `klvanc_line_insert` calls on an empty line set. What the set holds is determined by
the calls alone (`KlvancLineSet.Collects`): its slots belong to the first line numbers used, in
order of first use, and a line holds the packets that were inserted for its number. One call
preserves this (`KlvancLineSet.Collects.insert`), so it holds after every run, and it says when the
next call fails (`klvancLineInsert_run`).
-/

namespace Libklvanc

/-- The arguments of one `klvanc_line_insert`. -/
structure LineInsert where
  pixels : List Word
  lineNumber : ℤ
  horizontalOffset : ℤ

/-- The copy that `klvanc_line_insert` makes of its packet. -/
def LineInsert.entry (op : LineInsert) : KlvancEntry where
  hOffset := op.horizontalOffset
  payload := op.pixels
  pixelWidth := op.pixels.length

/-- The call itself. -/
def LineInsert.run (op : LineInsert) (set : KlvancLineSet) : ℤ × KlvancLineSet :=
  klvancLineInsert set op.pixels op.lineNumber op.horizontalOffset

/-- The line set after some calls, and those of them that have returned 0. -/
def insertLines (ops : List LineInsert) : KlvancLineSet × List LineInsert :=
  ops.foldl
    (fun s op => ((op.run s.1).2, if (op.run s.1).1 = 0 then s.2 ++ [op] else s.2)) ({}, [])

lemma insertLines_concat (ops : List LineInsert) (op : LineInsert) :
    insertLines (ops ++ [op]) =
      ((op.run (insertLines ops).1).2,
        if (op.run (insertLines ops).1).1 = 0 then (insertLines ops).2 ++ [op]
        else (insertLines ops).2) := by
  unfold insertLines
  rw [List.foldl_append]
  rfl

/-- The line numbers that get a line, in order of first use. -/
def usedLineNumbers (ops : List LineInsert) : List ℤ :=
  Keyed.firstUses maxVancLines (ops.map LineInsert.lineNumber)

/-- A call adds its line number if this is new and there is room for a line. -/
lemma usedLineNumbers_concat (ops : List LineInsert) (op : LineInsert) :
    usedLineNumbers (ops ++ [op]) =
      if op.lineNumber ∈ usedLineNumbers ops ∨ (usedLineNumbers ops).length = maxVancLines then
        usedLineNumbers ops
      else usedLineNumbers ops ++ [op.lineNumber] := by
  unfold usedLineNumbers
  rw [List.map_append, List.map_singleton, Keyed.firstUses_concat]

/-- The packets among `done` for one line, in order. -/
def packetsFor (lineNumber : ℤ) (done : List LineInsert) : List KlvancEntry :=
  (done.filter fun op => op.lineNumber = lineNumber).map LineInsert.entry

lemma packetsFor_concat (lineNumber : ℤ) (done : List LineInsert) (op : LineInsert) :
    packetsFor lineNumber (done ++ [op]) =
      if op.lineNumber = lineNumber then packetsFor lineNumber done ++ [op.entry]
      else packetsFor lineNumber done := by
  unfold packetsFor
  split_ifs with h <;> simp [h]

namespace KlvancLineSet

/-- No slot is left for the line `lineNumber`, or its line is full. -/
def IsFullFor (set : KlvancLineSet) (lineNumber : ℤ) : Prop :=
  (set.numLines = maxVancLines ∧
      ∀ i : Fin maxVancLines, ∀ line, set.slot i = some line → line.lineNumber ≠ lineNumber) ∨
    ∃ i : Fin maxVancLines, ∃ line, set.slot i = some line ∧ line.lineNumber = lineNumber ∧
      line.entries.length = maxVancEntries

/-- The set is what the calls `ops` make of an empty one when those among them that return 0 are
`done`. -/
structure Collects (set : KlvancLineSet) (ops done : List LineInsert) : Prop where
  /-- There is a line for each line number used. -/
  numLines_eq : set.numLines = (usedLineNumbers ops).length
  /-- The lines stand in the first slots, in order of first use. -/
  lineNumber_eq : ∀ i : Fin maxVancLines,
    (set.slot i).map KlvancLine.lineNumber = (usedLineNumbers ops)[(i : ℕ)]?
  /-- A line holds the packets inserted for it. -/
  entries_eq : ∀ i : Fin maxVancLines, ∀ line, set.slot i = some line →
    line.entries = packetsFor line.lineNumber done
  /-- A packet is inserted on a line that exists. -/
  used : ∀ op ∈ done, op.lineNumber ∈ usedLineNumbers ops

namespace Collects

variable {set : KlvancLineSet} {ops done : List LineInsert}

/-- An empty set collects nothing. -/
lemma empty : Collects {} [] [] where
  numLines_eq := rfl
  lineNumber_eq i := by
    have hempty : ({} : KlvancLineSet).slot i = none := Vector.getElem_replicate i.isLt
    rw [hempty]
    rfl
  entries_eq i line h := by
    have hempty : ({} : KlvancLineSet).slot i = none := Vector.getElem_replicate i.isLt
    rw [hempty] at h
    cases h
  used op h := absurd h List.not_mem_nil

/-- A slot is taken exactly when it is one of the first `num_lines`. -/
lemma isSome_iff (h : set.Collects ops done) (i : Fin maxVancLines) :
    (set.slot i).isSome ↔ (i : ℕ) < set.numLines := by
  rw [← Option.isSome_map (f := KlvancLine.lineNumber), h.lineNumber_eq, h.numLines_eq,
    isSome_getElem?]

/-- The line in a slot belongs to a line number used. -/
lemma getElem?_eq (h : set.Collects ops done) {i : Fin maxVancLines} {line : KlvancLine}
    (hi : set.slot i = some line) :
    (usedLineNumbers ops)[(i : ℕ)]? = some line.lineNumber := by
  rw [← h.lineNumber_eq, hi, Option.map_some]

/-! ### What the search finds -/

/-- The slot found is the first one that is free or holds the line. -/
lemma findSlot_eq_some {lineNumber : ℤ} {i : Fin maxVancLines}
    (hi : ∀ line, set.slot i = some line → line.lineNumber = lineNumber)
    (hlt : ∀ j < i, ∃ line, set.slot j = some line ∧ line.lineNumber ≠ lineNumber) :
    set.findSlot lineNumber = some i := by
  unfold KlvancLineSet.findSlot
  rw [List.find?_eq_some_iff_getElem]
  refine ⟨?_, i, by rw [List.length_finRange]; exact i.isLt, List.getElem_finRange _, ?_⟩
  · split
    · rfl
    · next line hline => simpa using hi line hline
  · intro j hj
    obtain ⟨line, hline, hne⟩ := hlt ⟨j, hj.trans i.isLt⟩ hj
    rw [← KlvancLineSet.getElem_lines] at hline
    rw [List.getElem_finRange]
    simp only [Fin.cast_mk, hline]
    simpa using hne

/-- A line number in use is found in its slot. -/
lemma findSlot_of_mem (h : set.Collects ops done) {lineNumber : ℤ}
    (hmem : lineNumber ∈ usedLineNumbers ops) :
    ∃ i line, set.findSlot lineNumber = some i ∧ set.slot i = some line ∧
      line.lineNumber = lineNumber := by
  obtain ⟨i, hi, hget⟩ := List.getElem_of_mem hmem
  have hlt : i < maxVancLines := hi.trans_le (Keyed.length_firstUses_le _ _)
  obtain ⟨line, hline⟩ := Option.isSome_iff_exists.mp
    ((h.isSome_iff ⟨i, hlt⟩).mpr (h.numLines_eq ▸ hi))
  have hnumber : line.lineNumber = lineNumber := by
    have hsome := h.getElem?_eq hline
    rw [List.getElem?_eq_getElem hi, Option.some_inj] at hsome
    rw [← hsome, hget]
  refine ⟨⟨i, hlt⟩, line, findSlot_eq_some ?_ ?_, hline, hnumber⟩
  · intro line' hline'
    rw [hline, Option.some_inj] at hline'
    rw [← hline', hnumber]
  · intro j hj
    have hjlt : (j : ℕ) < (usedLineNumbers ops).length := lt_trans hj hi
    obtain ⟨line', hline'⟩ := Option.isSome_iff_exists.mp
      ((h.isSome_iff j).mpr (h.numLines_eq ▸ hjlt))
    refine ⟨line', hline', ?_⟩
    intro heq
    have hsome := h.getElem?_eq hline'
    rw [List.getElem?_eq_getElem hjlt, Option.some_inj, heq, ← hget] at hsome
    exact absurd ((Keyed.nodup_firstUses _ _).getElem_inj_iff.mp hsome) (ne_of_lt hj)

/-- Every slot in use belongs to another line when the number is new. -/
lemma lineNumber_ne (h : set.Collects ops done) {lineNumber : ℤ}
    (hnew : lineNumber ∉ usedLineNumbers ops) {i : Fin maxVancLines} {line : KlvancLine}
    (hi : set.slot i = some line) : line.lineNumber ≠ lineNumber := by
  intro heq
  exact hnew (heq ▸ List.mem_of_getElem? (h.getElem?_eq hi))

/-- A new line number is found in the first free slot. -/
lemma findSlot_of_lt (h : set.Collects ops done) {lineNumber : ℤ}
    (hnew : lineNumber ∉ usedLineNumbers ops)
    (hlt : (usedLineNumbers ops).length < maxVancLines) :
    set.findSlot lineNumber = some ⟨_, hlt⟩ ∧ set.slot ⟨_, hlt⟩ = none := by
  have hnone : set.slot ⟨_, hlt⟩ = none := by
    rw [← Option.not_isSome_iff_eq_none, h.isSome_iff, h.numLines_eq]
    exact lt_irrefl _
  refine ⟨findSlot_eq_some ?_ ?_, hnone⟩
  · intro line hline
    rw [hnone] at hline
    cases hline
  · intro j hj
    obtain ⟨line, hline⟩ := Option.isSome_iff_exists.mp
      ((h.isSome_iff j).mpr (h.numLines_eq ▸ hj))
    exact ⟨line, hline, h.lineNumber_ne hnew hline⟩

/-- A new line number is not found when every slot is taken. -/
lemma findSlot_of_full (h : set.Collects ops done) {lineNumber : ℤ}
    (hnew : lineNumber ∉ usedLineNumbers ops)
    (hfull : (usedLineNumbers ops).length = maxVancLines) : set.findSlot lineNumber = none := by
  unfold KlvancLineSet.findSlot
  rw [List.find?_eq_none]
  intro i _
  obtain ⟨line, hline⟩ := Option.isSome_iff_exists.mp
    ((h.isSome_iff i).mpr (by rw [h.numLines_eq, hfull]; exact i.isLt))
  have hne := h.lineNumber_ne hnew hline
  rw [← KlvancLineSet.getElem_lines] at hline
  simp only [hline]
  simpa using hne

/-- A line number has one slot only. -/
lemma slot_unique (h : set.Collects ops done) {i j : Fin maxVancLines} {line line' : KlvancLine}
    (hi : set.slot i = some line) (hj : set.slot j = some line')
    (heq : line.lineNumber = line'.lineNumber) : i = j := by
  have hi' := h.getElem?_eq hi
  have hj' := h.getElem?_eq hj
  rw [← heq, ← hi'] at hj'
  have hlt : (i : ℕ) < (usedLineNumbers ops).length :=
    (List.getElem?_eq_some_iff.mp hi').choose
  exact Fin.ext (List.getElem?_inj hlt (Keyed.nodup_firstUses _ _) |>.mp hj'.symm)

end Collects

end KlvancLineSet

/-! ### What one call does -/

section Insert

variable {set : KlvancLineSet} {op : LineInsert}

/-- Without a slot the call fails. -/
lemma run_of_no_slot (hslot : set.findSlot op.lineNumber = none) :
    op.run set = (-enomem, set) := by
  unfold LineInsert.run klvancLineInsert
  simp only [hslot]

/-- In a free slot the call creates the line of its packet. -/
lemma run_of_free {i : Fin maxVancLines} (hslot : set.findSlot op.lineNumber = some i)
    (hi : set.slot i = none) :
    ∃ line, line.lineNumber = op.lineNumber ∧ line.entries = [op.entry] ∧
      op.run set = (0, set.withSlot i (set.numLines + 1) line) := by
  have hroom : (klvancLineCreate op.lineNumber).entries.length < maxVancEntries :=
    Nat.zero_lt_succ _
  rw [← KlvancLineSet.getElem_lines] at hi
  unfold LineInsert.run klvancLineInsert
  simp only [hslot, hi, hroom, dite_true, Vector.set_set]
  exact ⟨_, rfl, rfl, rfl⟩

/-- On a line with room the call appends the packet. -/
lemma run_of_room {i : Fin maxVancLines} {line : KlvancLine}
    (hslot : set.findSlot op.lineNumber = some i) (hi : set.slot i = some line)
    (hroom : line.entries.length < maxVancEntries) :
    ∃ line', line'.lineNumber = line.lineNumber ∧ line'.entries = line.entries ++ [op.entry] ∧
      op.run set = (0, set.withSlot i set.numLines line') := by
  rw [← KlvancLineSet.getElem_lines] at hi
  unfold LineInsert.run klvancLineInsert
  simp only [hslot, hi, hroom, dite_true]
  refine ⟨{ line with
    entries := line.entries ++ [op.entry]
    entries_le := ?_ }, rfl, rfl, rfl⟩
  rw [List.length_append, List.length_singleton]
  exact hroom

/-- On a full line the call fails. -/
lemma run_of_full {i : Fin maxVancLines} {line : KlvancLine}
    (hslot : set.findSlot op.lineNumber = some i) (hi : set.slot i = some line)
    (hfull : ¬line.entries.length < maxVancEntries) : op.run set = (-enomem, set) := by
  rw [← KlvancLineSet.getElem_lines] at hi
  unfold LineInsert.run klvancLineInsert
  simp only [hslot, hi, hfull, dite_false]

end Insert

namespace KlvancLineSet.Collects

variable {set : KlvancLineSet} {ops done : List LineInsert}

/-- Everything a call can do to a set that has collected some packets: fail, append to the line of
its number, or create this line behind the others. -/
lemma run_cases (h : set.Collects ops done) (op : LineInsert) :
    (set.IsFullFor op.lineNumber ∧ op.run set = (-enomem, set) ∧
        (op.lineNumber ∈ usedLineNumbers ops ∨ (usedLineNumbers ops).length = maxVancLines)) ∨
      (¬set.IsFullFor op.lineNumber ∧ op.lineNumber ∈ usedLineNumbers ops ∧
        ∃ i : Fin maxVancLines, ∃ line line', set.slot i = some line ∧
          line.lineNumber = op.lineNumber ∧
          line'.lineNumber = op.lineNumber ∧ line'.entries = line.entries ++ [op.entry] ∧
          op.run set = (0, set.withSlot i set.numLines line')) ∨
      (¬set.IsFullFor op.lineNumber ∧ op.lineNumber ∉ usedLineNumbers ops ∧
        ∃ hlt : (usedLineNumbers ops).length < maxVancLines, ∃ line,
          line.lineNumber = op.lineNumber ∧ line.entries = [op.entry] ∧
          op.run set = (0, set.withSlot ⟨_, hlt⟩ (set.numLines + 1) line)) := by
  by_cases hmem : op.lineNumber ∈ usedLineNumbers ops
  · obtain ⟨i, line, hslot, hi, hnumber⟩ := h.findSlot_of_mem hmem
    by_cases hroom : line.entries.length < maxVancEntries
    · obtain ⟨line', hnumber', hentries, hrun⟩ := run_of_room hslot hi hroom
      refine Or.inr (Or.inl ⟨?_, hmem, i, line, line', hi, hnumber, hnumber'.trans hnumber,
        hentries, hrun⟩)
      rintro (⟨-, hne⟩ | ⟨j, line₂, hj, hnumber₂, hfull⟩)
      · exact hne i line hi hnumber
      · rw [h.slot_unique hj hi (hnumber₂.trans hnumber.symm), hi, Option.some_inj] at hj
        rw [hj, hfull] at hroom
        exact lt_irrefl _ hroom
    · refine Or.inl ⟨Or.inr ⟨i, line, hi, hnumber, ?_⟩, run_of_full hslot hi hroom, Or.inl hmem⟩
      exact le_antisymm line.entries_le (not_lt.mp hroom)
  · rcases (Keyed.length_firstUses_le maxVancLines
      (ops.map LineInsert.lineNumber)).lt_or_eq with hlt | hfull
    · obtain ⟨hslot, hi⟩ := h.findSlot_of_lt hmem hlt
      obtain ⟨line, hnumber, hentries, hrun⟩ := run_of_free hslot hi
      refine Or.inr (Or.inr ⟨?_, hmem, hlt, line, hnumber, hentries, hrun⟩)
      rintro (⟨hfull, -⟩ | ⟨j, line₂, hj, hnumber₂, -⟩)
      · rw [h.numLines_eq] at hfull
        exact absurd hfull (ne_of_lt hlt)
      · exact h.lineNumber_ne hmem hj hnumber₂
    · refine Or.inl ⟨Or.inl ⟨h.numLines_eq.trans hfull, ?_⟩,
        run_of_no_slot (h.findSlot_of_full hmem hfull), Or.inr hfull⟩
      intro i line hi
      exact h.lineNumber_ne hmem hi

/-- A call that fails adds no line number. -/
lemma failed (h : set.Collects ops done) {op : LineInsert}
    (hused : op.lineNumber ∈ usedLineNumbers ops ∨ (usedLineNumbers ops).length = maxVancLines) :
    set.Collects (ops ++ [op]) done := by
  have hsame : usedLineNumbers (ops ++ [op]) = usedLineNumbers ops := by
    rw [usedLineNumbers_concat, if_pos hused]
  exact ⟨hsame ▸ h.numLines_eq, hsame ▸ h.lineNumber_eq, h.entries_eq, hsame ▸ h.used⟩

/-- A packet joins its line. -/
lemma joined (h : set.Collects ops done) {op : LineInsert}
    (hmem : op.lineNumber ∈ usedLineNumbers ops) {i : Fin maxVancLines} {line line' : KlvancLine}
    (hi : set.slot i = some line) (hnumber : line.lineNumber = op.lineNumber)
    (hnumber' : line'.lineNumber = op.lineNumber)
    (hentries : line'.entries = line.entries ++ [op.entry]) :
    (set.withSlot i set.numLines line').Collects (ops ++ [op]) (done ++ [op]) := by
  have hsame : usedLineNumbers (ops ++ [op]) = usedLineNumbers ops := by
    rw [usedLineNumbers_concat, if_pos (Or.inl hmem)]
  refine ⟨hsame ▸ h.numLines_eq, ?_, ?_, ?_⟩
  · intro j
    rw [hsame, ← h.lineNumber_eq j]
    by_cases hij : (i : ℕ) = j
    · obtain rfl := Fin.ext hij
      rw [KlvancLineSet.slot_withSlot, hi, Option.map_some, Option.map_some, hnumber, hnumber']
    · rw [KlvancLineSet.slot_withSlot_ne set hij]
  · intro j line₂ hj
    by_cases hij : (i : ℕ) = j
    · obtain rfl := Fin.ext hij
      rw [KlvancLineSet.slot_withSlot, Option.some_inj] at hj
      rw [← hj, hentries, hnumber', packetsFor_concat, if_pos rfl, h.entries_eq i line hi, hnumber]
    · rw [KlvancLineSet.slot_withSlot_ne set hij] at hj
      have hne : op.lineNumber ≠ line₂.lineNumber := fun heq =>
        hij (congrArg Fin.val (h.slot_unique hi hj (hnumber.trans heq)))
      rw [packetsFor_concat, if_neg hne, h.entries_eq j line₂ hj]
  · intro op' hop'
    rw [hsame]
    rcases List.mem_append.mp hop' with hop' | hop'
    · exact h.used op' hop'
    · rwa [List.mem_singleton.mp hop']

/-- Nothing has been inserted for a new line number. -/
lemma packetsFor_of_new (h : set.Collects ops done) {lineNumber : ℤ}
    (hnew : lineNumber ∉ usedLineNumbers ops) : packetsFor lineNumber done = [] := by
  unfold packetsFor
  rw [List.map_eq_nil_iff, List.filter_eq_nil_iff]
  intro op hop heq
  exact hnew (of_decide_eq_true heq ▸ h.used op hop)

/-- A packet gets a new line behind the others. -/
lemma created (h : set.Collects ops done) {op : LineInsert}
    (hnew : op.lineNumber ∉ usedLineNumbers ops)
    (hlt : (usedLineNumbers ops).length < maxVancLines) {line : KlvancLine}
    (hnumber : line.lineNumber = op.lineNumber) (hentries : line.entries = [op.entry]) :
    (set.withSlot ⟨_, hlt⟩ (set.numLines + 1) line).Collects (ops ++ [op]) (done ++ [op]) := by
  have hmore : usedLineNumbers (ops ++ [op]) = usedLineNumbers ops ++ [op.lineNumber] := by
    rw [usedLineNumbers_concat, if_neg (not_or.mpr ⟨hnew, ne_of_lt hlt⟩)]
  refine ⟨?_, ?_, ?_, ?_⟩
  · rw [hmore, List.length_append, List.length_singleton]
    exact congrArg (· + 1) h.numLines_eq
  · intro j
    rw [hmore]
    by_cases hij : (usedLineNumbers ops).length = j
    · obtain rfl : (⟨_, hlt⟩ : Fin maxVancLines) = j := Fin.ext hij
      rw [KlvancLineSet.slot_withSlot, Option.map_some, hnumber]
      exact List.getElem?_concat_length.symm
    · rw [@KlvancLineSet.slot_withSlot_ne set ⟨_, hlt⟩ j hij, h.lineNumber_eq j]
      rcases lt_or_gt_of_ne hij with hbehind | hbefore
      · rw [List.getElem?_eq_none hbehind.le, List.getElem?_eq_none]
        rw [List.length_append, List.length_singleton]
        exact hbehind
      · exact (List.getElem?_append_left hbefore).symm
  · intro j line₂ hj
    by_cases hij : (usedLineNumbers ops).length = j
    · obtain rfl : (⟨_, hlt⟩ : Fin maxVancLines) = j := Fin.ext hij
      rw [KlvancLineSet.slot_withSlot, Option.some_inj] at hj
      rw [← hj, hentries, hnumber, packetsFor_concat, if_pos rfl, h.packetsFor_of_new hnew,
        List.nil_append]
    · rw [KlvancLineSet.slot_withSlot_ne set hij] at hj
      have hne : op.lineNumber ≠ line₂.lineNumber := (h.lineNumber_ne hnew hj).symm
      rw [packetsFor_concat, if_neg hne, h.entries_eq j line₂ hj]
  · intro op' hop'
    rw [hmore]
    rcases List.mem_append.mp hop' with hop' | hop'
    · exact List.mem_append_left _ (h.used op' hop')
    · exact List.mem_append_right _ (by rw [List.mem_singleton.mp hop']; exact List.mem_cons_self)

/-- One call preserves what the set is. -/
lemma insert (h : set.Collects ops done) (op : LineInsert) :
    (op.run set).2.Collects (ops ++ [op])
      (if (op.run set).1 = 0 then done ++ [op] else done) := by
  rcases h.run_cases op with ⟨-, hrun, hused⟩ |
    ⟨-, hmem, i, line, line', hi, hnumber, hnumber', hentries, hrun⟩ |
    ⟨-, hnew, hlt, line', hnumber', hentries, hrun⟩
  · rw [hrun, if_neg (by simp [enomem])]
    exact h.failed hused
  · rw [hrun, if_pos rfl]
    exact h.joined hmem hi hnumber hnumber' hentries
  · rw [hrun, if_pos rfl]
    exact h.created hnew hlt hnumber' hentries

/-- A call returns `-ENOMEM` exactly when the set is full for it, and then it changes nothing. -/
lemma run_result (h : set.Collects ops done) (op : LineInsert) :
    ((op.run set).1 = 0 ∨ (op.run set).1 = -enomem) ∧
      ((op.run set).1 = -enomem ↔ set.IsFullFor op.lineNumber) ∧
      ((op.run set).1 ≠ 0 → (op.run set).2 = set) := by
  have hne : (0 : ℤ) ≠ -enomem := by simp [enomem]
  rcases h.run_cases op with ⟨hfull, hrun, -⟩ | ⟨hroom, -, i, line, line', -, -, -, -, hrun⟩ |
    ⟨hroom, -, hlt, line', -, -, hrun⟩
  · rw [hrun]
    exact ⟨Or.inr rfl, ⟨fun _ => hfull, fun _ => rfl⟩, fun _ => rfl⟩
  · rw [hrun]
    exact ⟨Or.inl rfl, ⟨fun h => absurd h hne, fun h => absurd h hroom⟩, fun h => absurd rfl h⟩
  · rw [hrun]
    exact ⟨Or.inl rfl, ⟨fun h => absurd h hne, fun h => absurd h hroom⟩, fun h => absurd rfl h⟩

end KlvancLineSet.Collects

/-! ### Any number of calls -/

/-- After any calls the set is what they make of an empty one. -/
theorem insertLines_collects (ops : List LineInsert) :
    (insertLines ops).1.Collects ops (insertLines ops).2 := by
  induction ops using List.reverseRecOn with
  | nil => exact KlvancLineSet.Collects.empty
  | append_singleton ops op ih =>
    rw [insertLines_concat]
    exact ih.insert op

/-- After any calls on an empty set, its first `num_lines` slots, at most 64, hold lines, and the
others none. The lines have distinct numbers, in order of first use, and hold in order the packets
that were inserted for them, at most 16. The next call returns `-ENOMEM` exactly when it needs a
65th line or its line holds 16 packets, and 0 otherwise, and it changes nothing when it fails. -/
theorem klvancLineInsert_run (ops : List LineInsert) :
    let set := (insertLines ops).1
    let done := (insertLines ops).2
    set.numLines ≤ 64 ∧
      (∀ i : Fin 64, set.lines[i].isSome ↔ (i : ℕ) < set.numLines) ∧
      (∀ i : Fin 64, set.lines[i].map KlvancLine.lineNumber = (usedLineNumbers ops)[(i : ℕ)]?) ∧
      (usedLineNumbers ops).Nodup ∧
      (∀ i : Fin 64, ∀ line, set.lines[i] = some line →
        line.entries = packetsFor line.lineNumber done ∧ line.entries.length ≤ 16) ∧
      ∀ op : LineInsert,
        ((op.run set).1 = 0 ∨ (op.run set).1 = -enomem) ∧
          ((op.run set).1 = -enomem ↔ set.IsFullFor op.lineNumber) ∧
          ((op.run set).1 ≠ 0 → (op.run set).2 = set) := by
  intro set done
  have h : set.Collects ops done := insertLines_collects ops
  refine ⟨?_, h.isSome_iff, h.lineNumber_eq, Keyed.nodup_firstUses _ _, ?_, h.run_result⟩
  · rw [h.numLines_eq]
    exact Keyed.length_firstUses_le _ _
  · intro i line hi
    exact ⟨h.entries_eq i line hi, line.entries_le⟩

end Libklvanc
