import BoltClient.Library.Runs

/-!
# Registers along a run

A register is a part of the state that some operations overwrite and all others
leave alone.  It holds the value written last.  Parties that share a register,
and copies that are meant to follow some other part of the state, are reasoned
about through the last write.

Main results:

- Theorem {lit}`IsRegister.read_run`: after a run the register holds the value
  written last, or its initial value.
- Theorem {lit}`lastWrite_eq_some_iff`: the last write of a run and the rest of
  the run, which writes nothing.

Current gaps:

- A write replaces the whole register; partial updates are not considered.
-/

namespace BoltClient.Library.Registers

open BoltClient.Library.Runs

variable {State Op Value Value' : Type*}

/-! ## The last write -/

/-- The value written last along a run, if any operation writes. -/
def lastWrite (step : State → Op → State) (writes : State → Op → Option Value) (s : State)
    (ops : List Op) : Option Value :=
  (collect step (fun s op => (writes s op).toList) s ops).getLast?

variable {step : State → Op → State} {writes : State → Op → Option Value} {s : State}

@[simp] theorem lastWrite_nil : lastWrite step writes s [] = none := rfl

/-- Writes of a second part of a run come after those of the first. -/
theorem lastWrite_append (ops ops' : List Op) :
    lastWrite step writes s (ops ++ ops') =
      (lastWrite step writes (run step s ops) ops').or (lastWrite step writes s ops) := by
  unfold lastWrite
  rw [collect_append, List.getLast?_append]

/-- One more operation writes last, if it writes. -/
theorem lastWrite_concat (ops : List Op) (op : Op) :
    lastWrite step writes s (ops ++ [op]) =
      (writes (run step s ops) op).or (lastWrite step writes s ops) := by
  rw [lastWrite_append]
  cases hwrite : writes (run step s ops) op <;> simp [lastWrite, hwrite]

/-- A function of the written values is written last with the last of them. -/
theorem lastWrite_map (f : Value → Value') (ops : List Op) :
    lastWrite step (fun s op => (writes s op).map f) s ops =
      (lastWrite step writes s ops).map f := by
  induction ops using List.reverseRecOn with
  | nil => rfl
  | append_singleton ops op ih =>
      rw [lastWrite_concat, lastWrite_concat, ih, Option.map_or]

/-- The last write is made by one operation of the run, after which nothing is
written. -/
theorem lastWrite_eq_some_iff {ops : List Op} {v : Value} :
    lastWrite step writes s ops = some v ↔
      ∃ before op after, ops = before ++ op :: after ∧
        writes (run step s before) op = some v ∧
        lastWrite step writes (run step s (before ++ [op])) after = none := by
  constructor
  · intro h
    induction ops using List.reverseRecOn with
    | nil => cases h
    | append_singleton ops op ih =>
        rw [lastWrite_concat] at h
        cases hwrite : writes (run step s ops) op with
        | some w =>
            rw [hwrite] at h
            exact ⟨ops, op, [], rfl, hwrite.trans h, rfl⟩
        | none =>
            rw [hwrite, Option.none_or] at h
            rcases ih h with ⟨before, op', after, hsplit, hv, hrest⟩
            refine ⟨before, op', after ++ [op], by simp [hsplit], hv, ?_⟩
            have hops : run step (run step s (before ++ [op'])) after = run step s ops := by
              rw [← run_append, hsplit]
              simp
            rw [lastWrite_concat, hrest, hops, hwrite]
            rfl
  · rintro ⟨before, op, after, rfl, hv, hrest⟩
    have hsplit : before ++ op :: after = (before ++ [op]) ++ after := by simp
    rw [hsplit, lastWrite_append, hrest, lastWrite_concat, hv]
    rfl

/-! ## Registers -/

/-- Among the allowed operations, {lit}`read` is changed by a write only. -/
def IsRegister (Allowed : Op → Prop) (step : State → Op → State) (read : State → Value)
    (writes : State → Op → Option Value) : Prop :=
  ∀ s op, Allowed op → read (step s op) = (writes s op).getD (read s)

variable {Allowed : Op → Prop} {read : State → Value}

/-- After a run a register holds the value written last. -/
theorem IsRegister.read_run (h : IsRegister Allowed step read writes) {ops : List Op}
    (hops : ∀ op ∈ ops, Allowed op) :
    read (run step s ops) = (lastWrite step writes s ops).getD (read s) := by
  refine prefix_induction
    (P := fun before => read (run step s before) =
      (lastWrite step writes s before).getD (read s)) rfl ?_
  intro before op after hsplit hbefore
  have hallowed : Allowed op := hops op (by simp [hsplit])
  have hread := h (run step s before) op hallowed
  rw [run_concat, hread, lastWrite_concat, hbefore]
  cases writes (run step s before) op with
  | none => rfl
  | some v => rfl

end BoltClient.Library.Registers
