import BoltClient.Library.Runs

/-!
# Cells along a run

Part of a state is a family of cells under addresses.  An operation acts on cells
by effects, each on the cell of one address, and which effects it has may depend
on the state.  Several parties may share a cell; what one of them does to it is
then seen by all of them, and by nobody else.

Main results:

- Theorem {lit}`ActsOnCells.read_run`: after a run a cell is what the effects on it
  have made of its content.
- Theorem {lit}`ActsOnCells.read_run_congr`: runs with the same effects on a cell
  leave it alike, whatever else they do.
- Theorem {lit}`ActsOnCells.read_step_preserved`: what every effect preserves, a
  step preserves in every cell.

Current gaps:

- The number of cells is fixed; allocation is not considered.
-/

namespace BoltClient.Library.Cells

open BoltClient.Library.Runs

variable {State Op Address Effect Content : Type*} [DecidableEq Address]

/-! ## Effects on one cell -/

/-- The effects on one cell, in order. -/
def effectsAt (a : Address) (effects : List (Address × Effect)) : List Effect :=
  effects.filterMap fun e => if e.1 = a then some e.2 else none

variable {a : Address}

@[simp] theorem effectsAt_nil : effectsAt a ([] : List (Address × Effect)) = [] := rfl

theorem effectsAt_append (effects effects' : List (Address × Effect)) :
    effectsAt a (effects ++ effects') = effectsAt a effects ++ effectsAt a effects' := by
  simp [effectsAt]

@[simp] theorem effectsAt_singleton_self (e : Effect) : effectsAt a [(a, e)] = [e] := by
  simp [effectsAt]

/-- The effects on one cell along a run are those of its operations. -/
theorem effectsAt_collect (step : State → Op → State)
    (effects : State → Op → List (Address × Effect)) (s : State) (ops : List Op) :
    effectsAt a (collect step effects s ops) =
      collect step (fun s op => effectsAt a (effects s op)) s ops := by
  induction ops generalizing s with
  | nil => rfl
  | cons op ops ih => rw [collect_cons, collect_cons, effectsAt_append, ih]

/-! ## Acting on cells -/

/-- Every operation changes the cells by its effects and in no other way. -/
def ActsOnCells (step : State → Op → State) (read : State → Address → Content)
    (apply : Content → Effect → Content)
    (effects : State → Op → List (Address × Effect)) : Prop :=
  ∀ s op a, read (step s op) a = (effectsAt a (effects s op)).foldl apply (read s a)

variable {step : State → Op → State} {read : State → Address → Content}
  {apply : Content → Effect → Content} {effects : State → Op → List (Address × Effect)}

/-- After a run a cell is what the effects on it have made of its content. -/
theorem ActsOnCells.read_run (h : ActsOnCells step read apply effects) (s : State)
    (ops : List Op) (a : Address) :
    read (run step s ops) a =
      (effectsAt a (collect step effects s ops)).foldl apply (read s a) := by
  rw [effectsAt_collect]
  exact run_simulation (fun s => read s a) (fun s op => h s op a) s ops

/-- Runs that have the same effects on a cell leave it alike. -/
theorem ActsOnCells.read_run_congr (h : ActsOnCells step read apply effects) {s s' : State}
    {ops ops' : List Op} (hread : read s a = read s' a)
    (heffects : effectsAt a (collect step effects s ops) =
      effectsAt a (collect step effects s' ops')) :
    read (run step s ops) a = read (run step s' ops') a := by
  rw [h.read_run, h.read_run, hread, heffects]

/-- What every effect preserves, a step preserves in every cell. -/
theorem ActsOnCells.read_step_preserved (h : ActsOnCells step read apply effects)
    {Inv : Content → Prop} (hpreserves : ∀ content e, Inv content → Inv (apply content e))
    {s : State} (op : Op) (hread : Inv (read s a)) : Inv (read (step s op) a) := by
  rw [h s op a]
  exact List.foldlRecOn _ _ hread fun content hcontent e _ => hpreserves content e hcontent

/-- A step with a single effect leaves the cell of that effect changed by it. -/
theorem ActsOnCells.read_step_singleton (h : ActsOnCells step read apply effects) {s : State}
    {op : Op} {e : Effect} (heffects : effects s op = [(a, e)]) :
    read (step s op) a = apply (read s a) e := by
  rw [h s op a, heffects, effectsAt_singleton_self]
  rfl

end BoltClient.Library.Cells
