import Libklvanc.Foundation.Checked

/-!
# Runs of a program that records its faults

A program takes inputs one after the other (`step`). A condition on the steps holds throughout a run
when it holds of every step in the state it starts from: `Runs.Meets` for a condition on the state
and the input, `Runs.Behaves` for a step that meets no fault and a relation between the states
before and after it. Where an invariant makes the one imply the other for a step and is preserved,
it does so for a run (`Runs.behaves_of_meets`), and where the two are the same for a step, they are
the same for a run (`Runs.behaves_iff_meets`).
-/

namespace Runs

variable {φ σ ι ο : Type} (step : σ → ι → Checked φ (ο × σ))

/-- Every step of the run starts in a state that is `ok` for its input. -/
def Meets (ok : σ → ι → Prop) : σ → List ι → Prop
  | _, [] => True
  | s, i :: is => ok s i ∧ Meets ok (step s i).val.2 is

/-- Every step of the run meets no fault and relates the states before and after it as `spec`
says. -/
def Behaves (spec : σ → ι → ο → σ → Prop) : σ → List ι → Prop
  | _, [] => True
  | s, i :: is =>
    ((step s i).Safe ∧ spec s i (step s i).val.1 (step s i).val.2) ∧
      Behaves spec (step s i).val.2 is

/-- The outputs of the run and the state after it. -/
def run : σ → List ι → List ο × σ
  | s, [] => ([], s)
  | s, i :: is =>
    let rest := run (step s i).val.2 is
    ((step s i).val.1 :: rest.1, rest.2)

variable {step} {ok : σ → ι → Prop} {spec : σ → ι → ο → σ → Prop} {inv : σ → Prop}

instance Meets.instDecidable [∀ s i, Decidable (ok s i)] :
    ∀ s is, Decidable (Meets step ok s is)
  | _, [] => inferInstanceAs (Decidable True)
  | s, i :: is =>
    have := instDecidable (step s i).val.2 is
    inferInstanceAs (Decidable (ok s i ∧ Meets step ok (step s i).val.2 is))

/-- A condition on the inputs alone holds throughout a run when it holds of every input. -/
lemma meets_iff_forall {p : ι → Prop} (s : σ) (is : List ι) :
    Meets step (fun _ i => p i) s is ↔ ∀ i ∈ is, p i := by
  induction is generalizing s with
  | nil => simp [Meets]
  | cons i is ih => rw [Meets, ih, List.forall_mem_cons]

/-- A condition holds throughout a run that goes on when it holds throughout both parts. -/
lemma meets_append {s : σ} {is js : List ι} :
    Meets step ok s (is ++ js) ↔ Meets step ok s is ∧ Meets step ok (run step s is).2 js := by
  induction is generalizing s with
  | nil => simp [Meets, run]
  | cons i is ih => rw [List.cons_append, Meets, Meets, ih, and_assoc, run]

/-- The outputs of a run that goes on. -/
lemma run_append_fst {s : σ} {is js : List ι} :
    (run step s (is ++ js)).1 = (run step s is).1 ++ (run step (run step s is).2 js).1 := by
  induction is generalizing s with
  | nil => rfl
  | cons i is ih =>
    rw [List.cons_append, run, run]
    dsimp only
    rw [ih, List.cons_append]

/-- Two conditions that hold throughout a run hold together throughout it. -/
lemma Meets.and {ok' : σ → ι → Prop} {s : σ} {is : List ι} (h : Meets step ok s is)
    (h' : Meets step ok' s is) : Meets step (fun s i => ok s i ∧ ok' s i) s is := by
  induction is generalizing s with
  | nil => trivial
  | cons i is ih => exact ⟨⟨h.1, h'.1⟩, ih h.2 h'.2⟩

/-- What holds at a point of a run where `i` comes next as soon as it holds at all the earlier ones
holds at all of them. -/
theorem forall_points {P : List ι → Prop} {i : ι} {is : List ι}
    (h : ∀ pre, pre ++ [i] <+: is → (∀ pre', pre' ++ [i] <+: pre → P pre') → P pre) :
    ∀ pre, pre ++ [i] <+: is → P pre := by
  intro pre
  induction hn : pre.length using Nat.strong_induction_on generalizing pre with
  | h n ih =>
    intro hpre
    refine h pre hpre fun pre' hpre' => ?_
    have hshorter := hpre'.length_le
    rw [List.length_append, List.length_singleton] at hshorter
    exact ih pre'.length (by omega) pre' rfl (hpre'.trans ((List.prefix_append _ _).trans hpre))

/-- What the condition and the invariant imply for a step, they imply for a run. -/
theorem behaves_of_meets
    (h : ∀ s i, inv s → ok s i →
      ((step s i).Safe ∧ spec s i (step s i).val.1 (step s i).val.2) ∧ inv (step s i).val.2)
    {s : σ} (hs : inv s) {is : List ι} (hok : Meets step ok s is) : Behaves step spec s is := by
  induction is generalizing s with
  | nil => trivial
  | cons i is ih =>
    obtain ⟨hi, his⟩ := hok
    obtain ⟨hstep, hinv⟩ := h s i hs hi
    exact ⟨hstep, ih hinv his⟩

/-- Where the condition is what a step needs, it is what a run needs. -/
theorem behaves_iff_meets
    (h : ∀ s i, inv s →
      ((step s i).Safe ∧ spec s i (step s i).val.1 (step s i).val.2 ↔ ok s i))
    (hinv : ∀ s i, inv s → ok s i → inv (step s i).val.2)
    {s : σ} (hs : inv s) (is : List ι) : Behaves step spec s is ↔ Meets step ok s is := by
  induction is generalizing s with
  | nil => exact Iff.rfl
  | cons i is ih =>
    rw [Behaves, Meets, h s i hs]
    exact and_congr_right fun hi => ih (hinv s i hs hi)

end Runs
