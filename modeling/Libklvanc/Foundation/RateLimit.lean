import Mathlib

/-!
# Events with a minimum interval

Of events at given times, those are granted that come at least an interval after the last one
granted, or after a starting time when there is none (`RateLimit.granted`). Any two events granted
are then an interval apart (`RateLimit.granted_apart`).
-/

namespace RateLimit

variable {τ : Type}

/-- The last time granted, or the starting time. -/
def lastGrant (start : τ) (grants : List τ) : τ := grants.getLast?.getD start

@[simp] lemma lastGrant_nil (start : τ) : lastGrant start [] = start := rfl

@[simp] lemma lastGrant_concat (start : τ) (grants : List τ) (t : τ) :
    lastGrant start (grants ++ [t]) = t := by
  rw [lastGrant, List.getLast?_concat, Option.getD_some]

variable [AddCommMonoid τ] [LinearOrder τ]

/-- The times granted, in order. -/
def granted (interval start : τ) (times : List τ) : List τ :=
  times.foldl
    (fun grants t => if lastGrant start grants + interval ≤ t then grants ++ [t] else grants) []

variable {interval start : τ}

/-- One more event is granted or not. -/
lemma granted_concat (times : List τ) (t : τ) :
    granted interval start (times ++ [t]) =
      if lastGrant start (granted interval start times) + interval ≤ t then
        granted interval start times ++ [t]
      else granted interval start times := by
  unfold granted
  rw [List.foldl_append, List.foldl_cons, List.foldl_nil]

/-- Only events are granted. -/
lemma granted_sublist (times : List τ) : (granted interval start times).Sublist times := by
  induction times using List.reverseRecOn with
  | nil => exact List.Sublist.refl _
  | append_singleton times t ih =>
    rw [granted_concat]
    split_ifs
    · exact ih.append (List.Sublist.refl _)
    · exact ih.trans (List.sublist_append_left _ _)

/-- The last time granted is the starting time or one of the times. -/
lemma lastGrant_granted (times : List τ) :
    lastGrant start (granted interval start times) = start ∨
      lastGrant start (granted interval start times) ∈ times := by
  rcases List.eq_nil_or_concat' (granted interval start times) with hnil | ⟨grants, t, hgrants⟩
  · rw [hnil]
    exact Or.inl rfl
  · have hmem : t ∈ granted interval start times := by
      rw [hgrants]
      exact List.mem_append_right _ (List.mem_singleton_self t)
    rw [hgrants, lastGrant_concat]
    exact Or.inr ((granted_sublist times).subset hmem)

/-- Any two events granted are an interval apart. -/
theorem granted_apart [IsOrderedAddMonoid τ] (h : 0 ≤ interval) (times : List τ) :
    (granted interval start times).Pairwise fun a b => a + interval ≤ b := by
  induction times using List.reverseRecOn with
  | nil => exact List.Pairwise.nil
  | append_singleton times t ih =>
    rw [granted_concat]
    split_ifs with hgrant
    · refine List.pairwise_append.mpr ⟨ih, List.pairwise_singleton _ _, ?_⟩
      intro a ha b hb
      rw [List.mem_singleton.mp hb]
      -- no event granted before is behind the last one
      refine le_trans (add_le_add_left ?_ interval) hgrant
      rcases List.eq_nil_or_concat' (granted interval start times) with hnil | ⟨grants, c, hgrants⟩
      · rw [hnil] at ha
        exact absurd ha List.not_mem_nil
      · rw [hgrants] at ha ih ⊢
        rw [lastGrant_concat]
        rcases List.mem_append.mp ha with ha | ha
        · exact le_trans (le_add_of_nonneg_right h)
            ((List.pairwise_append.mp ih).2.2 a ha c (List.mem_singleton_self c))
        · exact le_of_eq (List.mem_singleton.mp ha)
    · exact ih

end RateLimit
