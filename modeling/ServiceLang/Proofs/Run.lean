import Mathlib.Data.List.Induction

namespace ServiceLang

/-!
# Runs of a step relation

A step relation tells how a state may change under a label. A run lists its transitions in order,
each with the states around it, so that a statement can speak of any moment of the run.

* `Transition`: one step with the state before it and the state after it;
* `Run`: the transitions that lead from one state to another;
* `Run.split`: a run cut at one of its transitions;
* `Run.unique`: the end of a run, told by its trace;
* `Run.invariant`: what holds at the start and is kept by every step holds at the end.
-/

/-- A step with the states around it. -/
structure Transition (State Label : Type) where
  before : State
  label : Label
  after : State

variable {State Label : Type} {step : State → Label → State → Prop}

/-- The transitions that lead from `start` to a state, the latest one last. -/
inductive Run (step : State → Label → State → Prop) (start : State) :
    List (Transition State Label) → State → Prop
  | nil : Run step start [] start
  | snoc {trace : List (Transition State Label)} {s s' : State} {l : Label}
      (run : Run step start trace s) (h : step s l s') : Run step start (trace ++ [⟨s, l, s'⟩]) s'

namespace Run

variable {a b c : State} {xs ys : List (Transition State Label)} {t : Transition State Label}

/-- The last transition of a run is a step from where the others lead. -/
theorem of_concat (run : Run step a (xs ++ [t]) b) :
    Run step a xs t.before ∧ step t.before t.label t.after ∧ b = t.after := by
  -- the index of the run has to be a variable before its last step can be taken off
  generalize h : xs ++ [t] = trace at run
  cases run with
  | nil => simp at h
  | snoc run hs =>
    obtain ⟨rfl, ht⟩ := List.append_inj' h rfl
    rw [List.singleton_inj] at ht
    subst ht
    exact ⟨run, hs, rfl⟩

/-- One step is a run. -/
theorem single {l : Label} (h : step a l b) : Run step a [⟨a, l, b⟩] b := snoc nil h

/-- A run goes on where another one ends. -/
theorem trans (first : Run step a xs b) (second : Run step b ys c) : Run step a (xs ++ ys) c := by
  induction second with
  | nil => rw [List.append_nil]; exact first
  | snoc run h ih => rw [← List.append_assoc]; exact snoc ih h

/-- A run can be cut between any two of its transitions. -/
theorem of_append (run : Run step a (xs ++ ys) c) : ∃ b, Run step a xs b ∧ Run step b ys c := by
  induction ys using List.reverseRecOn generalizing c with
  | nil => exact ⟨c, by rwa [List.append_nil] at run, nil⟩
  | append_singleton ys t ih =>
    rw [← List.append_assoc] at run
    obtain ⟨front, hs, rfl⟩ := of_concat run
    obtain ⟨b, hxs, hys⟩ := ih front
    exact ⟨b, hxs, snoc hys hs⟩

/-- **Cutting a run.** A run leads up to each of its transitions, takes that step, and goes on
    from there. -/
theorem split (run : Run step a (xs ++ t :: ys) c) :
    Run step a xs t.before ∧ step t.before t.label t.after ∧ Run step t.after ys c := by
  rw [← List.singleton_append, ← List.append_assoc] at run
  obtain ⟨b, front, back⟩ := of_append run
  obtain ⟨hxs, hs, rfl⟩ := of_concat front
  exact ⟨hxs, hs, back⟩

/-- A run ends where its trace says. -/
theorem unique (first : Run step a xs b) (second : Run step a xs c) : b = c := by
  cases first with
  | nil =>
    generalize hxs : ([] : List (Transition State Label)) = xs at second
    cases second with
    | nil => rfl
    | snoc run h => simp at hxs
  | snoc run h => exact (of_concat second).2.2.symm

/-- Every transition of a run is a step. -/
theorem step_of_mem (run : Run step a xs b) (h : t ∈ xs) : step t.before t.label t.after := by
  obtain ⟨front, back, rfl⟩ := List.append_of_mem h
  exact (split run).2.1

/-- What holds at the start and is kept by every step holds at the end. -/
theorem invariant {P : State → Prop} (run : Run step a xs b) (start : P a)
    (keep : ∀ s l s', step s l s' → P s → P s') : P b := by
  induction run with
  | nil => exact start
  | snoc run h ih => exact keep _ _ _ h ih

end Run

end ServiceLang
