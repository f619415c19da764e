import Mathlib

/-!
# Tables updated by key

A table is a function from keys to records. An event with a key changes the record of this key and
leaves the others alone. After a run of events the record of a key is what the events with this key
have made of it, in order (`Keyed.foldl_apply`): the frame condition of one step and the history of
one record in one statement. A loop over the keys of a list without duplicates is the case in which
every event is its own key (`Keyed.foldl_keys_apply`).

The number of events is the sum of the numbers of events of each key (`Keyed.sum_length_filter`).

A store of bounded size keeps the first keys that come up: `Keyed.firstUses` lists them in order of
first use, and one more key extends the list if it is new and there is room
(`Keyed.firstUses_concat`).
-/

namespace Keyed

variable {κ σ ε : Type} [DecidableEq κ]

/-- The table after an event with key `k` that changes a record by `g`. -/
def step (key : ε → κ) (g : σ → ε → σ) (table : κ → σ) (e : ε) : κ → σ :=
  Function.update table (key e) (g (table (key e)) e)

variable {key : ε → κ} {g : σ → ε → σ}

/-- An event changes the record of its key. -/
lemma step_of_eq {table : κ → σ} {e : ε} {k : κ} (h : key e = k) :
    step key g table e k = g (table k) e := by
  subst h
  exact Function.update_self _ _ _

/-- An event leaves the records of the other keys alone. -/
lemma step_of_ne {table : κ → σ} {e : ε} {k : κ} (h : key e ≠ k) :
    step key g table e k = table k :=
  Function.update_of_ne h.symm _ _

/-- After a run of events the record of a key is what the events with this key have made of it. -/
theorem foldl_apply (events : List ε) (table : κ → σ) (k : κ) :
    events.foldl (step key g) table k =
      (events.filter fun e => decide (key e = k)).foldl g (table k) := by
  induction events generalizing table with
  | nil => rfl
  | cons e events ih =>
    rw [List.foldl_cons, ih]
    by_cases h : key e = k
    · rw [step_of_eq h, List.filter_cons_of_pos (by simpa using h), List.foldl_cons]
    · rw [step_of_ne h, List.filter_cons_of_neg (by simpa using h)]

/-- A loop over keys without duplicates changes the record of each of them once. -/
lemma foldl_keys_apply {f : σ → σ} {keys : List κ} (hnodup : keys.Nodup) (table : κ → σ) (k : κ) :
    keys.foldl (step id fun s _ => f s) table k = if k ∈ keys then f (table k) else table k := by
  rw [foldl_apply]
  simp only [id_eq]
  split_ifs with hk
  · have hfilter : (keys.filter fun e => decide (e = k)) = [k] := by
      rw [List.filter_eq, List.count_eq_one_of_mem hnodup hk, List.replicate_one]
    rw [hfilter, List.foldl_cons, List.foldl_nil]
  · have hfilter : (keys.filter fun e => decide (e = k)) = [] := by
      rw [List.filter_eq, List.count_eq_zero_of_not_mem hk, List.replicate_zero]
    rw [hfilter, List.foldl_nil]

/-- Events whose keys lie in a finite set are counted key by key. -/
theorem sum_length_filter [Fintype κ] (events : List ε) :
    ∑ k : κ, (events.filter fun e => decide (key e = k)).length = events.length := by
  induction events with
  | nil => simp
  | cons e events ih =>
    have hcons : ∀ k, ((e :: events).filter fun e => decide (key e = k)).length =
        (events.filter fun e => decide (key e = k)).length + if key e = k then 1 else 0 := by
      intro k
      by_cases h : key e = k <;> simp [h]
    rw [Finset.sum_congr rfl fun k _ => hcons k, Finset.sum_add_distrib, ih,
      Finset.sum_ite_eq Finset.univ (key e), if_pos (Finset.mem_univ _), List.length_cons]

/-! ### Keys in order of first use -/

/-- One more key is kept behind the others unless it has come up before. -/
lemma eraseDups_concat (keys : List κ) (k : κ) :
    (keys ++ [k]).eraseDups = if k ∈ keys then keys.eraseDups else keys.eraseDups ++ [k] := by
  rw [List.eraseDups_append]
  split_ifs with h <;> simp [List.removeAll, List.eraseDups_cons, h]

lemma nodup_eraseDups (keys : List κ) : keys.eraseDups.Nodup := by
  induction keys using List.reverseRecOn with
  | nil => exact List.nodup_nil
  | append_singleton keys k ih =>
    rw [eraseDups_concat]
    split_ifs with h
    · exact ih
    · refine List.nodup_append.mpr ⟨ih, List.nodup_singleton k, ?_⟩
      intro a ha b hb hab
      rw [List.mem_singleton.mp hb] at hab
      exact h (List.mem_eraseDups.mp (hab ▸ ha))

/-- The first `n` keys, in order of first use. -/
def firstUses (n : ℕ) (keys : List κ) : List κ := keys.eraseDups.take n

lemma nodup_firstUses (n : ℕ) (keys : List κ) : (firstUses n keys).Nodup :=
  (nodup_eraseDups keys).sublist (List.take_sublist _ _)

lemma length_firstUses_le (n : ℕ) (keys : List κ) : (firstUses n keys).length ≤ n :=
  List.length_take_le _ _

/-- One more key changes the list only if it is new and there is room. -/
theorem firstUses_concat (n : ℕ) (keys : List κ) (k : κ) :
    firstUses n (keys ++ [k]) =
      if k ∈ firstUses n keys ∨ (firstUses n keys).length = n then firstUses n keys
      else firstUses n keys ++ [k] := by
  unfold firstUses
  split_ifs with h
  · rcases h with h | h
    · have hmem : k ∈ keys := List.mem_eraseDups.mp (List.mem_of_mem_take h)
      rw [eraseDups_concat, if_pos hmem]
    · have hle : n ≤ keys.eraseDups.length := by
        rw [List.length_take] at h
        exact min_eq_left_iff.mp h
      rw [eraseDups_concat]
      split_ifs
      · rfl
      · exact List.take_append_of_le_length hle
  · rw [not_or] at h
    have hlt : keys.eraseDups.length < n := by
      have hne := h.2
      rw [List.length_take] at hne
      exact lt_of_not_ge fun hle => hne (min_eq_left hle)
    rw [List.take_of_length_le hlt.le] at h ⊢
    have hnot : k ∉ keys := fun hmem => h.1 (List.mem_eraseDups.mpr hmem)
    rw [eraseDups_concat, if_neg hnot, List.take_of_length_le]
    rw [List.length_append, List.length_singleton]
    exact hlt

end Keyed
