import Libklvanc.Foundation.Checked

/-!
# Loops that may run for ever

A function of some fuel returns a value when enough fuel gives this value (`Returns`). A `while`
loop is run with one unit of fuel for each evaluation of its condition (`WhileLoop.run`). It returns
where an invariant holds and every round lowers a variant (`WhileLoop.run_of_variant`), in a state
in which the condition fails; it never returns where an invariant that implies the condition is kept
(`WhileLoop.run_eq_none`).
-/

section Fuel

variable {α β : Type} {f : ℕ → Option α} {a b : α}

/-- With enough fuel the function returns `a`. -/
def Returns (f : ℕ → Option α) (a : α) : Prop := ∃ enough, ∀ fuel, enough ≤ fuel → f fuel = some a

/-- A function returns one value only. -/
lemma Returns.unique (ha : Returns f a) (hb : Returns f b) : a = b := by
  obtain ⟨m, hm⟩ := ha
  obtain ⟨n, hn⟩ := hb
  have hboth := (hm (max m n) (le_max_left m n)).symm.trans (hn (max m n) (le_max_right m n))
  exact Option.some.inj hboth

/-- What is computed from a returned value is returned. -/
lemma Returns.map (h : Returns f a) (g : α → β) :
    Returns (fun fuel => (f fuel).map g) (g a) := by
  obtain ⟨enough, henough⟩ := h
  refine ⟨enough, fun fuel hfuel => ?_⟩
  dsimp only
  rw [henough fuel hfuel, Option.map_some]

/-- Where no fuel is enough nothing is returned. -/
lemma not_returns (h : ∀ fuel, f fuel = none) : ¬Returns f a := by
  rintro ⟨enough, henough⟩
  have hsome := henough enough le_rfl
  rw [h enough] at hsome
  cases hsome

end Fuel

namespace WhileLoop

variable {φ σ : Type} (cond : σ → Bool) (body : σ → Checked φ σ)

/-- The state in which the loop ends, if its condition is evaluated at most `fuel` times. -/
def run : ℕ → σ → Option (Checked φ σ)
  | 0, _ => none
  | fuel + 1, s =>
    if cond s then (run fuel (body s).val).map fun last => body s >>= fun _ => last
    else some (pure s)

variable {cond body} {inv : σ → Prop}

/-- A round of the loop. -/
lemma run_of_true {s : σ} (h : cond s = true) (fuel : ℕ) :
    run cond body (fuel + 1) s =
      (run cond body fuel (body s).val).map fun last => body s >>= fun _ => last := by
  rw [run, if_pos h]

/-- The end of the loop. -/
lemma run_of_false {s : σ} (h : cond s = false) (fuel : ℕ) :
    run cond body (fuel + 1) s = some (pure s) := by
  rw [run, if_neg (Bool.not_eq_true _ ▸ h)]

/-- Where every round keeps the invariant, meets no fault and lowers the variant, the loop returns
with more fuel than the variant is at first. -/
theorem run_of_variant {variant : σ → ℕ}
    (hbody : ∀ s, inv s → cond s = true →
      (body s).Safe ∧ inv (body s).val ∧ variant (body s).val < variant s)
    {s : σ} (hs : inv s) :
    ∃ t, (∀ fuel, variant s < fuel → run cond body fuel s = some (pure t)) ∧ inv t ∧
      cond t = false := by
  induction hn : variant s using Nat.strong_induction_on generalizing s with
  | h n ih =>
    subst hn
    cases hcond : cond s with
    | false =>
      refine ⟨s, fun fuel hfuel => ?_, hs, hcond⟩
      obtain ⟨k, rfl⟩ := Nat.exists_eq_succ_of_ne_zero (Nat.ne_zero_of_lt hfuel)
      exact run_of_false hcond k
    | true =>
      obtain ⟨hsafe, hinv, hlt⟩ := hbody s hs hcond
      obtain ⟨t, hrun, ht, hend⟩ := ih _ hlt hinv rfl
      refine ⟨t, fun fuel hfuel => ?_, ht, hend⟩
      obtain ⟨k, rfl⟩ := Nat.exists_eq_succ_of_ne_zero (Nat.ne_zero_of_lt hfuel)
      have hround : body s = pure (body s).val := Checked.ext rfl hsafe
      rw [run_of_true hcond, hrun k (by omega), Option.map_some, hround, pure_bind]

/-- Where every round keeps an invariant that implies the condition, the loop runs for ever. -/
theorem run_eq_none (hcond : ∀ s, inv s → cond s = true) (hbody : ∀ s, inv s → inv (body s).val)
    {s : σ} (hs : inv s) (fuel : ℕ) : run cond body fuel s = none := by
  induction fuel generalizing s with
  | zero => rfl
  | succ fuel ih => rw [run_of_true (hcond s hs), ih (hbody s hs), Option.map_none]

end WhileLoop
