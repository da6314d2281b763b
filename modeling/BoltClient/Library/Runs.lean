import Mathlib.Data.List.Basic
import Mathlib.Data.List.Induction

/-!
# Runs of a deterministic step function

A system is given by a total step function on states and operations.  This
file fixes its finite runs, the events a run leaves behind, and the induction
rules used to reason about both.  Nothing here depends on what the states and
the operations are.

Main results:

- Theorem {lit}`prefix_induction`: a property of prefixes that every further
  operation preserves holds of the whole list; the rule also hands over the
  position inside the list.
- Theorem {lit}`run_invariant`: what every allowed operation preserves, a run
  preserves.
- Theorem {lit}`run_history_invariant`: the same for properties that also speak
  about the events collected so far.
- Theorem {lit}`run_simulation`: a step-wise projection, possibly dropping
  operations, projects whole runs.

Current gaps:

- Only finite runs are considered; there is no notion of fairness.
-/

namespace BoltClient.Library.Runs

variable {State State' Op Op' Event : Type*}

/-! ## Runs and collected events -/

/-- State reached from {lit}`s` by performing the operations in order. -/
def run (step : State → Op → State) (s : State) (ops : List Op) : State :=
  ops.foldl step s

/-- Events emitted along a run, in order.  The emitter sees the state before
the operation. -/
def collect (step : State → Op → State) (emit : State → Op → List Event) :
    State → List Op → List Event
  | _, [] => []
  | s, op :: ops => emit s op ++ collect step emit (step s op) ops

section Basic

variable (step : State → Op → State) (emit : State → Op → List Event)

@[simp] theorem run_nil (s : State) : run step s [] = s := rfl

@[simp] theorem run_cons (s : State) (op : Op) (ops : List Op) :
    run step s (op :: ops) = run step (step s op) ops := rfl

theorem run_append (s : State) (ops ops' : List Op) :
    run step s (ops ++ ops') = run step (run step s ops) ops' := by
  simp [run, List.foldl_append]

theorem run_concat (s : State) (ops : List Op) (op : Op) :
    run step s (ops ++ [op]) = step (run step s ops) op := by
  simp [run_append]

/-- A run through {lit}`op` goes on from the state after it. -/
theorem run_middle (s : State) (ops : List Op) (op : Op) (rest : List Op) :
    run step s (ops ++ op :: rest) = run step (run step s (ops ++ [op])) rest := by
  rw [← run_append]
  simp

@[simp] theorem collect_nil (s : State) : collect step emit s [] = [] := rfl

@[simp] theorem collect_cons (s : State) (op : Op) (ops : List Op) :
    collect step emit s (op :: ops) = emit s op ++ collect step emit (step s op) ops := rfl

theorem collect_append (s : State) (ops ops' : List Op) :
    collect step emit s (ops ++ ops') =
      collect step emit s ops ++ collect step emit (run step s ops) ops' := by
  induction ops generalizing s with
  | nil => simp
  | cons op ops ih => simp [ih, List.append_assoc]

theorem collect_concat (s : State) (ops : List Op) (op : Op) :
    collect step emit s (ops ++ [op]) =
      collect step emit s ops ++ emit (run step s ops) op := by
  simp [collect_append]

/-- The last event after one more operation: the last one it emits, or else the
last one before it. -/
theorem getLast?_collect_concat (s : State) (ops : List Op) (op : Op) :
    (collect step emit s (ops ++ [op])).getLast? =
      (emit (run step s ops) op).getLast?.or (collect step emit s ops).getLast? := by
  rw [collect_concat, List.getLast?_append]

/-- An emitter that ignores the state collects operation by operation. -/
theorem collect_const (f : Op → List Event) (s : State) (ops : List Op) :
    collect step (fun _ op => f op) s ops = ops.flatMap f := by
  induction ops generalizing s with
  | nil => rfl
  | cons op ops ih => simp [ih]

end Basic

/-! ## Induction rules -/

/-- Induction along the prefixes of a fixed list.  The step case knows which
operation comes next and what follows it. -/
theorem prefix_induction {P : List Op → Prop} {ops : List Op} (hnil : P [])
    (hstep : ∀ before op after, ops = before ++ op :: after →
      P before → P (before ++ [op])) :
    P ops := by
  have hprefix : ∀ before after, ops = before ++ after → P before := by
    intro before
    induction before using List.reverseRecOn with
    | nil => exact fun _ _ => hnil
    | append_singleton before op ih =>
        intro after hops
        have hsplit : ops = before ++ op :: after := by simpa using hops
        exact hstep before op after hsplit (ih (op :: after) hsplit)
  exact hprefix ops [] (by simp)

/-- An invariant preserved by every allowed operation holds after a run of
allowed operations. -/
theorem run_invariant {step : State → Op → State} (Inv : State → Prop)
    (Allowed : Op → Prop)
    (hstep : ∀ s op, Allowed op → Inv s → Inv (step s op))
    {s : State} (hs : Inv s) {ops : List Op} (hops : ∀ op ∈ ops, Allowed op) :
    Inv (run step s ops) := by
  refine prefix_induction (P := fun before => Inv (run step s before)) hs ?_
  intro before op after hsplit hbefore
  rw [run_concat]
  exact hstep _ op (hops op (by simp [hsplit])) hbefore

/-- An invariant over the collected events and the state holds after a run if
it holds at the start and every operation of the run preserves it. -/
theorem run_history_invariant {step : State → Op → State}
    {emit : State → Op → List Event} (Inv : List Event → State → Prop)
    {s : State} {ops : List Op} (hs : Inv [] s)
    (hstep : ∀ before op after, ops = before ++ op :: after →
      Inv (collect step emit s before) (run step s before) →
      Inv (collect step emit s before ++ emit (run step s before) op)
        (step (run step s before) op)) :
    Inv (collect step emit s ops) (run step s ops) := by
  refine prefix_induction
    (P := fun before => Inv (collect step emit s before) (run step s before)) hs ?_
  intro before op after hsplit hbefore
  rw [run_concat, collect_concat]
  exact hstep before op after hsplit hbefore

/-! ## Projection of runs -/

/-- If every step projects to a run of another system, possibly an empty one,
then a run projects to the run of all the projected operations. -/
theorem run_simulation {step : State → Op → State} {step' : State' → Op' → State'}
    (erase : State → State') {project : State → Op → List Op'}
    (hstep : ∀ s op, erase (step s op) = run step' (erase s) (project s op))
    (s : State) (ops : List Op) :
    erase (run step s ops) = run step' (erase s) (collect step project s ops) := by
  induction ops generalizing s with
  | nil => rfl
  | cons op ops ih => rw [run_cons, collect_cons, ih, hstep, run_append]

/-- What is emitted along the projected run is emitted, operation by operation, along
the run itself. -/
theorem collect_simulation {step : State → Op → State} {step' : State' → Op' → State'}
    (erase : State → State') {project : State → Op → List Op'}
    (hstep : ∀ s op, erase (step s op) = run step' (erase s) (project s op))
    (emit : State' → Op' → List Event) (s : State) (ops : List Op) :
    collect step' emit (erase s) (collect step project s ops) =
      collect step (fun s op => collect step' emit (erase s) (project s op)) s ops := by
  induction ops generalizing s with
  | nil => rfl
  | cons op ops ih => rw [collect_cons, collect_cons, collect_append, ← hstep, ih]

/-! ## Properties of every step -/

/-- {lit}`P` holds of every operation of the list together with the operations
performed before it. -/
def AtEachStep (P : List Op → Op → Prop) (ops : List Op) : Prop :=
  ∀ before op after, ops = before ++ op :: after → P before op

/-- Two properties that agree at every step of a list hold at each step of it
together. -/
theorem atEachStep_congr {P Q : List Op → Op → Prop} {ops : List Op}
    (h : ∀ before op after, ops = before ++ op :: after →
      (P before op ↔ Q before op)) :
    AtEachStep P ops ↔ AtEachStep Q ops := by
  constructor
  · intro hP before op after hsplit
    exact (h before op after hsplit).mp (hP before op after hsplit)
  · intro hQ before op after hsplit
    exact (h before op after hsplit).mpr (hQ before op after hsplit)

end BoltClient.Library.Runs
