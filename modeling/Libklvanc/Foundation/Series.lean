import Mathlib

/-!
# Reassembling series of fragments

A message arrives in fragments: a first one, any number of middle ones and a last one, mixed with
events that do not matter (`skip`) and events that break a series off (`single`). `Series.step` is
the assembler that collects the fragments of at most `cap` parts and resets itself when a fragment
does not fit what it has collected; `Series.collected` is what it holds after a history.

The history alone says what this is: without its skipped events it ends in a first fragment and
middle ones, fewer than `cap` together (`collected_eq_iff`).
-/

namespace Series

variable {α : Type}

/-- What can happen to a series. -/
inductive Event (α : Type)
  | skip
  | single
  | first (a : α)
  | middle (a : α)
  | last (a : α)
  deriving DecidableEq

namespace Event

/-- The event does not matter. -/
def isSkip : Event α → Bool
  | skip => true
  | _ => false

/-- The events that matter. -/
def relevant (es : List (Event α)) : List (Event α) := es.filter fun e => !e.isSkip

end Event

/-- One event: the fragments held afterwards, and the series completed by it. -/
def step (cap : ℕ) (held : List α) : Event α → List α × Option (List α)
  | .skip => (held, none)
  | .single => ([], none)
  | .first a => ([a], none)
  | .middle a => (if held = [] ∨ held.length + 1 = cap then [] else held ++ [a], none)
  | .last a => ([], if held = [] then none else some (held ++ [a]))

/-- The fragments held after a history. -/
def collected (cap : ℕ) (es : List (Event α)) : List α :=
  es.foldl (fun held e => (step cap held e).1) []

/-- The history ends in the first fragment and the middle ones of the list `l`. -/
def EndsIn (es : List (Event α)) (l : List α) : Prop :=
  ∃ pre a ms, es = pre ++ Event.first a :: ms.map Event.middle ∧ l = a :: ms

/-! ### Histories that end in a series -/

section EndsIn

variable {es : List (Event α)} {l : List α} {a : α}

lemma EndsIn.ne_nil (h : EndsIn es l) : l ≠ [] := by
  obtain ⟨pre, a, ms, -, rfl⟩ := h
  exact List.cons_ne_nil a ms

/-- The last event of a history that ends in a series is its first or a middle fragment. -/
lemma endsIn_append {e : Event α} :
    EndsIn (es ++ [e]) l ↔
      (∃ a, e = .first a ∧ l = [a]) ∨ ∃ a l', e = .middle a ∧ EndsIn es l' ∧ l = l' ++ [a] := by
  constructor
  · rintro ⟨pre, a, ms, hes, rfl⟩
    induction ms using List.reverseRecOn with
    | nil =>
      rw [List.map_nil] at hes
      exact Or.inl ⟨a, (List.append_inj' hes rfl).2 |> List.singleton_inj.mp, rfl⟩
    | append_singleton ms m =>
      rw [List.map_append, List.map_singleton, ← List.cons_append, ← List.append_assoc] at hes
      obtain ⟨rfl, he⟩ := List.append_inj' hes rfl
      exact Or.inr ⟨m, a :: ms, List.singleton_inj.mp he, ⟨pre, a, ms, rfl, rfl⟩, rfl⟩
  · rintro (⟨a, rfl, rfl⟩ | ⟨m, l', rfl, ⟨pre, a, ms, rfl, rfl⟩, rfl⟩)
    · exact ⟨es, a, [], rfl, rfl⟩
    · exact ⟨pre, a, ms ++ [m], by simp, rfl⟩

/-- An empty history ends in no series. -/
lemma not_endsIn_nil : ¬EndsIn ([] : List (Event α)) l := by
  rintro ⟨pre, a, ms, h, -⟩
  simp at h

end EndsIn

/-! ### The assembler -/

section Assembler

variable {cap : ℕ} {es : List (Event α)} {l : List α} {e : Event α}

@[simp] lemma collected_append_singleton :
    collected cap (es ++ [e]) = (step cap (collected cap es) e).1 := by
  rw [collected, List.foldl_append]
  rfl

/-- What is held is the series the history ends in, if it has fewer than `cap` fragments. -/
theorem collected_eq_iff (hcap : 2 ≤ cap) (hl : l ≠ []) :
    collected cap es = l ↔ EndsIn (Event.relevant es) l ∧ l.length < cap := by
  induction es using List.reverseRecOn generalizing l with
  | nil =>
    refine iff_of_false (fun h => hl h.symm) fun h => not_endsIn_nil h.1
  | append_singleton es e ih =>
    have hrelevant : ∀ e : Event α, e.isSkip = false →
        Event.relevant (es ++ [e]) = Event.relevant es ++ [e] := by
      intro e he
      simp [Event.relevant, he]
    rw [collected_append_singleton]
    cases e with
    | skip =>
      rw [show Event.relevant (es ++ [.skip]) = Event.relevant es by
        simp [Event.relevant, Event.isSkip]]
      exact ih hl
    | single =>
      rw [hrelevant _ rfl, endsIn_append]
      refine iff_of_false (fun h => hl h.symm) ?_
      rintro ⟨⟨a, h, -⟩ | ⟨a, l', h, -⟩, -⟩ <;> cases h
    | last a =>
      rw [hrelevant _ rfl, endsIn_append]
      refine iff_of_false (fun h => hl h.symm) ?_
      rintro ⟨⟨a, h, -⟩ | ⟨a, l', h, -⟩, -⟩ <;> cases h
    | first a =>
      rw [hrelevant _ rfl, endsIn_append]
      constructor
      · rintro rfl
        exact ⟨Or.inl ⟨a, rfl, rfl⟩, hcap⟩
      · rintro ⟨⟨a', h, rfl⟩ | ⟨a', l', h, -⟩, -⟩ <;> cases h
        rfl
    | middle a =>
      rw [hrelevant _ rfl, endsIn_append]
      constructor
      · intro h
        simp only [step] at h
        split_ifs at h with hc
        · exact absurd h.symm hl
        · push Not at hc
          obtain ⟨hends, hlt⟩ := (ih hc.1).mp rfl
          refine ⟨Or.inr ⟨a, _, rfl, hends, h.symm⟩, ?_⟩
          rw [← h, List.length_append, List.length_singleton]
          omega
      · rintro ⟨⟨a', h, -⟩ | ⟨a', l', h, hends, rfl⟩, hlt⟩ <;> cases h
        rw [List.length_append, List.length_singleton] at hlt
        have hheld := (ih hends.ne_nil).mpr ⟨hends, by omega⟩
        simp only [step, hheld]
        rw [if_neg]
        rintro (h | h)
        · exact hends.ne_nil h
        · omega

/-- Fewer than `cap` fragments are held. -/
lemma collected_length_lt (hcap : 2 ≤ cap) (es : List (Event α)) :
    (collected cap es).length < cap := by
  by_cases h : collected cap es = []
  · rw [h, List.length_nil]
    omega
  · exact ((collected_eq_iff hcap h).mp rfl).2

end Assembler

end Series
