import Libklvanc.Foundation.RateLimit

/-!
# The rate limiter

`klrestricted_code_path.h`: a block of code is executed at most once in an interval, measured with
`gettimeofday`. `klrcp_timeval_subtract` carries by rewriting the time it subtracts, and that is the
stored time of the last execution, which is so left with a number of microseconds that may be
negative. But its instant stays the same (`klrcpTimevalSubtract_instant`), and this is all that the
next call depends on: a run of calls grants what `RateLimit.granted` does (`executeAll_granted`).

`long` and `time_t` are modelled by the integers; `Timeval.IsClockReading` bounds what
`gettimeofday` puts out.
-/

namespace Libklvanc

/-- `struct timeval`. -/
structure Timeval where
  tvSec : ℤ := 0
  tvUsec : ℤ := 0
  deriving DecidableEq

/-- The instant of a time, in microseconds since time 0. -/
def Timeval.instant (t : Timeval) : ℤ := t.tvSec * 1000000 + t.tvUsec

/-- The time can be put out by `gettimeofday`: it is normalised, and its milliseconds fit a
`long`. -/
def Timeval.IsClockReading (t : Timeval) : Prop :=
  0 ≤ t.tvSec ∧ t.tvSec * 1000 + 999 < 2 ^ 63 ∧ 0 ≤ t.tvUsec ∧ t.tvUsec < 1000000

instance : DecidablePred Timeval.IsClockReading := fun t =>
  inferInstanceAs (Decidable (0 ≤ t.tvSec ∧ t.tvSec * 1000 + 999 < 2 ^ 63 ∧ 0 ≤ t.tvUsec ∧
    t.tvUsec < 1000000))

/-- `struct klrestricted_code_path_block_s`. -/
structure KlrestrictedCodePathBlock where
  enableChecking : ℤ
  id : ℤ
  minimumIntervalMs : BitVec 64
  lastExecuteTime : Timeval := {}
  countBlockEntered : BitVec 64 := 0
  countBlockAvoided : BitVec 64 := 0
  deriving DecidableEq

/-- `klrcp_timeval_subtract`: what it returns, `result`, and `y` after the call. -/
def klrcpTimevalSubtract (x y : Timeval) : ℤ × Timeval × Timeval :=
  -- the carry for the subtraction
  let y : Timeval :=
    if x.tvUsec < y.tvUsec then
      let nsec := (y.tvUsec - x.tvUsec).tdiv 1000000 + 1
      { tvSec := y.tvSec + nsec, tvUsec := y.tvUsec - 1000000 * nsec }
    else y
  let y : Timeval :=
    if 1000000 < x.tvUsec - y.tvUsec then
      let nsec := (x.tvUsec - y.tvUsec).tdiv 1000000
      { tvSec := y.tvSec - nsec, tvUsec := y.tvUsec + 1000000 * nsec }
    else y
  (if x.tvSec < y.tvSec then 1 else 0,
    { tvSec := x.tvSec - y.tvSec, tvUsec := x.tvUsec - y.tvUsec }, y)

/-- `klrcp_timediff_to_msecs`. -/
def klrcpTimediffToMsecs (tv : Timeval) : BitVec 64 :=
  BitVec.ofInt 64 (tv.tvSec * 1000 + tv.tvUsec.tdiv 1000)

/-- `klrestricted_code_path_block_initialize`. -/
def klrestrictedCodePathBlockInitialize (id enableChecking : ℤ) (minimumIntervalMs : BitVec 64) :
    KlrestrictedCodePathBlock :=
  { enableChecking, id, minimumIntervalMs }

/-- `klrestricted_code_path_block_execute` at the clock reading `now`: what it returns, and the
block after the call. -/
def klrestrictedCodePathBlockExecute (blk : KlrestrictedCodePathBlock) (now : Timeval) :
    ℤ × KlrestrictedCodePathBlock :=
  if blk.enableChecking = 0 then
    (1, { blk with countBlockEntered := blk.countBlockEntered + 1 })
  else
    let (_, diff, y) := klrcpTimevalSubtract now blk.lastExecuteTime
    let blk := { blk with lastExecuteTime := y }
    if klrcpTimediffToMsecs diff < blk.minimumIntervalMs then
      (0, { blk with countBlockAvoided := blk.countBlockAvoided + 1 })
    else
      (1, { blk with
        lastExecuteTime := now
        countBlockEntered := blk.countBlockEntered + 1 })

/-! ### Subtracting times -/

section Subtract

variable {x y : Timeval}

/-- The carry leaves the subtracted time at its instant, and makes the difference of the
microseconds a number from 0 to 1000000. -/
theorem klrcpTimevalSubtract_instant (x y : Timeval) :
    (klrcpTimevalSubtract x y).2.2.instant = y.instant ∧
      (klrcpTimevalSubtract x y).2.1.instant = x.instant - y.instant ∧
      0 ≤ (klrcpTimevalSubtract x y).2.1.tvUsec ∧
      (klrcpTimevalSubtract x y).2.1.tvUsec ≤ 1000000 := by
  unfold klrcpTimevalSubtract Timeval.instant
  by_cases hcarry : x.tvUsec < y.tvUsec
  · -- the first carry leaves at most 1000000 microseconds, and the second one is not needed
    have hdiv : (y.tvUsec - x.tvUsec).tdiv 1000000 = (y.tvUsec - x.tvUsec) / 1000000 :=
      Int.tdiv_eq_ediv_of_nonneg (by omega)
    simp only [hcarry, if_true, hdiv]
    rw [if_neg (by omega)]
    dsimp only
    refine ⟨?_, ?_, ?_, ?_⟩ <;> omega
  · have hdiv : (x.tvUsec - y.tvUsec).tdiv 1000000 = (x.tvUsec - y.tvUsec) / 1000000 :=
      Int.tdiv_eq_ediv_of_nonneg (by omega)
    simp only [hcarry, if_false, hdiv]
    split_ifs with hmore
    · dsimp only
      refine ⟨?_, ?_, ?_, ?_⟩ <;> omega
    · refine ⟨rfl, ?_, ?_, ?_⟩ <;> omega

/-- The carry keeps the microseconds of the subtracted time between -1000000 and 1000000. -/
lemma klrcpTimevalSubtract_usec (hx : 0 ≤ x.tvUsec ∧ x.tvUsec < 1000000) :
    -1000000 ≤ (klrcpTimevalSubtract x y).2.2.tvUsec ∧
      (klrcpTimevalSubtract x y).2.2.tvUsec < 1000000 := by
  obtain ⟨-, -, hlow, hhigh⟩ := klrcpTimevalSubtract_instant x y
  have hdiff : (klrcpTimevalSubtract x y).2.1.tvUsec =
      x.tvUsec - (klrcpTimevalSubtract x y).2.2.tvUsec := rfl
  omega

/-- The milliseconds of a difference are the whole milliseconds of its instant. -/
lemma klrcpTimediffToMsecs_toNat {tv : Timeval} (h : 0 ≤ tv.tvUsec) (hnonneg : 0 ≤ tv.instant)
    (hlt : tv.instant / 1000 < 2 ^ 64) :
    ((klrcpTimediffToMsecs tv).toNat : ℤ) = tv.instant / 1000 := by
  have hdiv : tv.tvUsec.tdiv 1000 = tv.tvUsec / 1000 := Int.tdiv_eq_ediv_of_nonneg h
  have hmsecs : tv.tvSec * 1000 + tv.tvUsec / 1000 = tv.instant / 1000 := by
    unfold Timeval.instant
    omega
  rw [klrcpTimediffToMsecs, hdiv, hmsecs, BitVec.toNat_ofInt]
  rw [Int.toNat_of_nonneg (Int.emod_nonneg _ (by norm_num)), Int.emod_eq_of_lt]
  · exact Int.ediv_nonneg hnonneg (by norm_num)
  · exact_mod_cast hlt

end Subtract

/-! ### One call -/

section Call

variable {blk : KlrestrictedCodePathBlock} {now : Timeval}

/-- What a call with checking enabled does: it executes the block when the interval is over, and
counts. A call that does not leaves the time of the last execution at its instant. -/
lemma klrestrictedCodePathBlockExecute_cases (henable : blk.enableChecking ≠ 0)
    (hnow : now.IsClockReading) (hlast : 0 ≤ blk.lastExecuteTime.instant)
    (hle : blk.lastExecuteTime.instant ≤ now.instant) :
    (blk.lastExecuteTime.instant + 1000 * blk.minimumIntervalMs.toNat ≤ now.instant ∧
        klrestrictedCodePathBlockExecute blk now =
          (1, { blk with
            lastExecuteTime := now
            countBlockEntered := blk.countBlockEntered + 1 })) ∨
      (now.instant < blk.lastExecuteTime.instant + 1000 * blk.minimumIntervalMs.toNat ∧
        ∃ last : Timeval, last.instant = blk.lastExecuteTime.instant ∧
          (-1000000 ≤ last.tvUsec ∧ last.tvUsec < 1000000) ∧
          klrestrictedCodePathBlockExecute blk now =
            (0, { blk with
              lastExecuteTime := last
              countBlockAvoided := blk.countBlockAvoided + 1 })) := by
  obtain ⟨hy, hdiff, hlow, -⟩ := klrcpTimevalSubtract_instant now blk.lastExecuteTime
  have hnonneg : 0 ≤ (klrcpTimevalSubtract now blk.lastExecuteTime).2.1.instant := by
    rw [hdiff]
    exact sub_nonneg.mpr hle
  have hlt : (klrcpTimevalSubtract now blk.lastExecuteTime).2.1.instant / 1000 < 2 ^ 64 := by
    rw [hdiff]
    obtain ⟨-, hfits, -, husec⟩ := hnow
    unfold Timeval.instant at hlast ⊢
    omega
  have hmsecs := klrcpTimediffToMsecs_toNat hlow hnonneg hlt
  rw [hdiff] at hmsecs
  unfold klrestrictedCodePathBlockExecute
  rw [if_neg henable]
  dsimp only
  by_cases hearly : klrcpTimediffToMsecs (klrcpTimevalSubtract now blk.lastExecuteTime).2.1 <
      blk.minimumIntervalMs
  · rw [if_pos hearly]
    rw [BitVec.lt_def] at hearly
    exact Or.inr ⟨by omega, _, hy, klrcpTimevalSubtract_usec hnow.2.2, rfl⟩
  · rw [if_neg hearly]
    rw [BitVec.lt_def] at hearly
    exact Or.inl ⟨by omega, rfl⟩

end Call

/-! ### Any number of calls -/

/-- The block after calls at some clock readings, and the readings of the calls that returned 1. -/
def executeAll (blk : KlrestrictedCodePathBlock) (readings : List Timeval) :
    KlrestrictedCodePathBlock × List Timeval :=
  readings.foldl
    (fun s now =>
      ((klrestrictedCodePathBlockExecute s.1 now).2,
        if (klrestrictedCodePathBlockExecute s.1 now).1 = 1 then s.2 ++ [now] else s.2)) (blk, [])

lemma executeAll_concat (blk : KlrestrictedCodePathBlock) (readings : List Timeval)
    (now : Timeval) :
    executeAll blk (readings ++ [now]) =
      ((klrestrictedCodePathBlockExecute (executeAll blk readings).1 now).2,
        if (klrestrictedCodePathBlockExecute (executeAll blk readings).1 now).1 = 1 then
          (executeAll blk readings).2 ++ [now]
        else (executeAll blk readings).2) := by
  unfold executeAll
  rw [List.foldl_append]
  rfl

/-- The instants of some clock readings. -/
abbrev instants (readings : List Timeval) : List ℤ := readings.map Timeval.instant

/-- What the block is after calls at the readings `readings`, of which those in `grants` returned 1,
when its interval is `M` milliseconds. -/
structure KlrestrictedCodePathBlock.Keeps (blk : KlrestrictedCodePathBlock) (M : BitVec 64)
    (readings grants : List Timeval) : Prop where
  enableChecking_ne : blk.enableChecking ≠ 0
  minimumIntervalMs_eq : blk.minimumIntervalMs = M
  /-- The stored time is at the instant of the last execution. -/
  last_eq : blk.lastExecuteTime.instant = RateLimit.lastGrant 0 (instants grants)
  /-- Its microseconds fit an `int`. -/
  usec_bounds : -1000000 ≤ blk.lastExecuteTime.tvUsec ∧ blk.lastExecuteTime.tvUsec < 1000000
  grants_eq : instants grants = RateLimit.granted (1000 * M.toNat : ℤ) 0 (instants readings)
  entered_eq : blk.countBlockEntered = BitVec.ofNat 64 grants.length
  count_eq : blk.countBlockEntered + blk.countBlockAvoided = BitVec.ofNat 64 readings.length

namespace KlrestrictedCodePathBlock.Keeps

variable {blk : KlrestrictedCodePathBlock} {M : BitVec 64} {readings grants : List Timeval}
  {now : Timeval}

/-- The stored time is time 0 or that of an earlier reading. -/
lemma last_bounds (h : blk.Keeps M readings grants)
    (hread : ∀ t ∈ readings, t.IsClockReading) (hnow : now.IsClockReading)
    (hmono : ∀ t ∈ readings, t.instant ≤ now.instant) :
    0 ≤ blk.lastExecuteTime.instant ∧ blk.lastExecuteTime.instant ≤ now.instant := by
  have hpos : ∀ t : Timeval, t.IsClockReading → 0 ≤ t.instant := by
    rintro t ⟨hsec, -, husec, -⟩
    unfold Timeval.instant
    omega
  rw [h.last_eq, h.grants_eq]
  rcases RateLimit.lastGrant_granted (instants readings) with hzero | hmem
  · rw [hzero]
    exact ⟨le_rfl, hpos now hnow⟩
  · obtain ⟨t, ht, heq⟩ := List.mem_map.mp hmem
    rw [← heq]
    exact ⟨hpos t (hread t ht), hmono t ht⟩

/-- A call returns 1 exactly when the interval since the last execution is over, and 0 otherwise. -/
lemma execute_eq_one_iff (h : blk.Keeps M readings grants)
    (hread : ∀ t ∈ readings, t.IsClockReading) (hnow : now.IsClockReading)
    (hmono : ∀ t ∈ readings, t.instant ≤ now.instant) :
    ((klrestrictedCodePathBlockExecute blk now).1 = 1 ↔
        RateLimit.lastGrant 0 (instants grants) + 1000 * M.toNat ≤ now.instant) ∧
      ((klrestrictedCodePathBlockExecute blk now).1 = 0 ∨
        (klrestrictedCodePathBlockExecute blk now).1 = 1) := by
  obtain ⟨hlast, hle⟩ := h.last_bounds hread hnow hmono
  rw [← h.last_eq, ← h.minimumIntervalMs_eq]
  rcases klrestrictedCodePathBlockExecute_cases h.enableChecking_ne hnow hlast hle with
    ⟨hover, hrun⟩ | ⟨hearly, last, -, -, hrun⟩
  · rw [hrun]
    exact ⟨⟨fun _ => hover, fun _ => rfl⟩, Or.inr rfl⟩
  · rw [hrun]
    exact ⟨⟨fun hone => absurd hone zero_ne_one, fun hover => absurd hearly (not_lt.mpr hover)⟩,
      Or.inl rfl⟩

/-- One call preserves what the block is. -/
lemma execute (h : blk.Keeps M readings grants) (hread : ∀ t ∈ readings, t.IsClockReading)
    (hnow : now.IsClockReading) (hmono : ∀ t ∈ readings, t.instant ≤ now.instant) :
    (klrestrictedCodePathBlockExecute blk now).2.Keeps M (readings ++ [now])
      (if (klrestrictedCodePathBlockExecute blk now).1 = 1 then grants ++ [now] else grants) := by
  obtain ⟨hlast, hle⟩ := h.last_bounds hread hnow hmono
  have hgranted := @RateLimit.granted_concat ℤ _ _ (1000 * M.toNat) 0 (instants readings)
    now.instant
  rw [← h.grants_eq, ← h.last_eq, ← h.minimumIntervalMs_eq] at hgranted
  have hreadings : instants (readings ++ [now]) = instants readings ++ [now.instant] :=
    List.map_append
  have hcount : BitVec.ofNat 64 (readings ++ [now]).length =
      blk.countBlockEntered + blk.countBlockAvoided + 1 := by
    rw [h.count_eq, List.length_append, List.length_singleton, BitVec.ofNat_add]
    rfl
  rcases klrestrictedCodePathBlockExecute_cases h.enableChecking_ne hnow hlast hle with
    ⟨hover, hrun⟩ | ⟨hearly, last, hinstant, husec, hrun⟩
  · have hgrants : instants (grants ++ [now]) = instants grants ++ [now.instant] := List.map_append
    rw [if_pos hover, h.minimumIntervalMs_eq] at hgranted
    rw [hrun, if_pos rfl]
    refine ⟨h.enableChecking_ne, h.minimumIntervalMs_eq, ?_, ?_, ?_, ?_, ?_⟩
    · rw [hgrants, RateLimit.lastGrant_concat]
    · obtain ⟨-, -, hlow, hhigh⟩ := hnow
      exact ⟨by dsimp only; omega, hhigh⟩
    · rw [hgrants, hreadings, hgranted]
    · rw [List.length_append, List.length_singleton, BitVec.ofNat_add, ← h.entered_eq]
      rfl
    · rw [hcount]
      exact add_right_comm _ _ _
  · rw [if_neg (not_le.mpr hearly), h.minimumIntervalMs_eq] at hgranted
    rw [hrun, if_neg zero_ne_one]
    refine ⟨h.enableChecking_ne, h.minimumIntervalMs_eq, ?_, husec, ?_, h.entered_eq, ?_⟩
    · exact hinstant.trans h.last_eq
    · rw [hreadings, hgranted]
    · rw [hcount]
      exact (add_assoc _ _ _).symm

end KlrestrictedCodePathBlock.Keeps

/-- After calls at nondecreasing clock readings, the block is what they make of an initialised
one. -/
theorem executeAll_keeps (id : ℤ) {enableChecking : ℤ} (henable : enableChecking ≠ 0)
    (M : BitVec 64) {readings : List Timeval} (hread : ∀ t ∈ readings, t.IsClockReading)
    (hmono : readings.Pairwise fun s t => s.instant ≤ t.instant) :
    (executeAll (klrestrictedCodePathBlockInitialize id enableChecking M) readings).1.Keeps M
      readings
      (executeAll (klrestrictedCodePathBlockInitialize id enableChecking M) readings).2 := by
  induction readings using List.reverseRecOn with
  | nil =>
    have husec : -1000000 ≤ (0 : ℤ) ∧ (0 : ℤ) < 1000000 := by norm_num
    exact ⟨henable, rfl, rfl, husec, rfl, rfl, rfl⟩
  | append_singleton readings now ih =>
    obtain ⟨hbefore, hnow⟩ := List.forall_mem_append.mp hread
    obtain ⟨hmono', -, hlast⟩ := List.pairwise_append.mp hmono
    rw [executeAll_concat]
    refine (ih hbefore hmono').execute hbefore (hnow now (List.mem_singleton_self now)) ?_
    exact fun t ht => hlast t ht now (List.mem_singleton_self now)

/-- The rate limiter keeps its interval. At nondecreasing clock readings, a call on a block that is
initialised with checking enabled and an interval of `M` milliseconds returns 1 exactly when at
least `M` whole milliseconds have passed since the last call that returned 1, since time 0 if there
is none, and 0 otherwise. The stored time stays at that instant, executions are `M` milliseconds
apart, and, as far as 64 bits can count, one counter has the number of executions and the two
together the number of calls. -/
theorem klrestrictedCodePathBlockExecute_run (id : ℤ) {enableChecking : ℤ}
    (henable : enableChecking ≠ 0) (M : BitVec 64) {readings : List Timeval}
    (hread : ∀ t ∈ readings, t.IsClockReading)
    (hmono : readings.Pairwise fun s t => s.instant ≤ t.instant) :
    let run := executeAll (klrestrictedCodePathBlockInitialize id enableChecking M)
    (∀ past now future, readings = past ++ now :: future →
      ((klrestrictedCodePathBlockExecute (run past).1 now).1 = 1 ↔
        (M.toNat : ℤ) ≤
          (now.instant - RateLimit.lastGrant 0 (instants (run past).2)) / 1000) ∧
      ((klrestrictedCodePathBlockExecute (run past).1 now).1 = 0 ∨
        (klrestrictedCodePathBlockExecute (run past).1 now).1 = 1)) ∧
    (run readings).1.lastExecuteTime.instant =
      RateLimit.lastGrant 0 (instants (run readings).2) ∧
    (instants (run readings).2).Pairwise (fun s t => s + (1000 * M.toNat : ℤ) ≤ t) ∧
    (run readings).1.countBlockEntered = BitVec.ofNat 64 (run readings).2.length ∧
    (run readings).1.countBlockEntered + (run readings).1.countBlockAvoided =
      BitVec.ofNat 64 readings.length := by
  intro run
  have hkeeps := executeAll_keeps id henable M hread hmono
  refine ⟨?_, hkeeps.last_eq, ?_, hkeeps.entered_eq, hkeeps.count_eq⟩
  · intro past now future hreadings
    rw [hreadings] at hread hmono
    obtain ⟨hpast, hrest⟩ := List.forall_mem_append.mp hread
    obtain ⟨hmono', -, hcross⟩ := List.pairwise_append.mp hmono
    have hcall := (executeAll_keeps id henable M hpast hmono').execute_eq_one_iff hpast
      (hrest now List.mem_cons_self) fun t ht => hcross t ht now List.mem_cons_self
    refine ⟨hcall.1.trans ?_, hcall.2⟩
    rw [Int.le_ediv_iff_mul_le (by norm_num)]
    constructor <;> intro h <;> linarith
  · rw [hkeeps.grants_eq]
    exact RateLimit.granted_apart (by positivity) _

/-- Readings two microseconds short of a second apart, and a second apart. -/
def closeReadings : List Timeval := [⟨100, 999999⟩, ⟨101, 999997⟩, ⟨101, 999999⟩]

/-- With an interval of a second the second call is denied and the third one is not. -/
theorem klrestrictedCodePathBlockExecute_run_close :
    (klrestrictedCodePathBlockExecute
        (executeAll (klrestrictedCodePathBlockInitialize 7 1 1000) [⟨100, 999999⟩]).1
        ⟨101, 999997⟩).1 ≠ 1 ∧
      (klrestrictedCodePathBlockExecute
        (executeAll (klrestrictedCodePathBlockInitialize 7 1 1000)
          [⟨100, 999999⟩, ⟨101, 999997⟩]).1 ⟨101, 999999⟩).1 = 1 := by
  obtain ⟨hcalls, -⟩ := @klrestrictedCodePathBlockExecute_run 7 1 (by decide) 1000 closeReadings
    (by decide) (by decide)
  refine ⟨?_, ?_⟩
  · rw [Ne, (hcalls [⟨100, 999999⟩] ⟨101, 999997⟩ [⟨101, 999999⟩] rfl).1]
    decide
  · rw [(hcalls [⟨100, 999999⟩, ⟨101, 999997⟩] ⟨101, 999999⟩ [] rfl).1]
    decide

end Libklvanc
