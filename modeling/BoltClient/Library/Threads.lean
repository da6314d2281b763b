import BoltClient.Library.Runs
import Mathlib.Logic.Function.Basic

/-!
# Threads over a shared state

Any number of calls run at the same time.  Each is a thread that advances by single
accesses to a shared state; which thread advances next is up to a scheduler, and code
outside the calls may change the shared state between any two accesses.

Main results:

- Theorem {lit}`run_rank`: if every access lowers a thread's rank, a thread that has
  made as many accesses as its rank was has rank zero, under every schedule.
- Theorem {lit}`run_eval`: if every access leaves the value a thread is going to end
  with unchanged, that value stays what it was for as long as nobody else changes the
  part of the shared state it depends on.

Current gaps:

- Accesses are sequentially consistent; a data race has no meaning here.
-/

namespace BoltClient.Library.Threads

open BoltClient.Library.Runs

variable {Shared Thread Call Change : Type*}

/-! ## Pools and schedules -/

/-- How calls become threads, what one access of a thread does, and what changes made
from outside do. -/
structure System (Shared Thread Call Change : Type*) where
  begin : Call → Thread
  advance : Shared → Thread → Shared × Thread
  apply : Shared → Change → Shared

/-- The shared state and the threads by their numbers. -/
structure Pool (Shared Thread : Type*) where
  shared : Shared
  threads : Nat → Option Thread

/-- What a schedule may do next. -/
inductive Move (Call Change : Type*) where
  | start (id : Nat) (call : Call)
  | advance (id : Nat)
  | change (change : Change)

/-- The pool after one move.  A number in use is not given to a second thread. -/
def System.move (S : System Shared Thread Call Change) (p : Pool Shared Thread) :
    Move Call Change → Pool Shared Thread
  | .start id call =>
      match p.threads id with
      | some _ => p
      | none => { p with threads := Function.update p.threads id (some (S.begin call)) }
  | .advance id =>
      match p.threads id with
      | some thread =>
          { shared := (S.advance p.shared thread).1
            threads := Function.update p.threads id (some (S.advance p.shared thread).2) }
      | none => p
  | .change change => { p with shared := S.apply p.shared change }

/-- The pool after a schedule. -/
abbrev System.schedule (S : System Shared Thread Call Change) (p : Pool Shared Thread)
    (moves : List (Move Call Change)) : Pool Shared Thread :=
  run S.move p moves

section Moves

variable (S : System Shared Thread Call Change) {p : Pool Shared Thread} {id : Nat}
  {thread : Thread}

theorem move_start (h : p.threads id = none) (call : Call) :
    S.move p (.start id call) =
      { p with threads := Function.update p.threads id (some (S.begin call)) } := by
  simp [System.move, h]

theorem move_advance (h : p.threads id = some thread) :
    S.move p (.advance id) =
      { shared := (S.advance p.shared thread).1
        threads := Function.update p.threads id (some (S.advance p.shared thread).2) } := by
  simp [System.move, h]

/-- An access moves its own thread on. -/
theorem move_advance_threads (h : p.threads id = some thread) :
    (S.move p (.advance id)).threads id = some (S.advance p.shared thread).2 := by
  simp [move_advance S h]

theorem move_advance_none (h : p.threads id = none) : S.move p (.advance id) = p := by
  simp [System.move, h]

/-- Starting a thread touches no shared state. -/
@[simp] theorem move_start_shared (id : Nat) (call : Call) :
    (S.move p (.start id call)).shared = p.shared := by
  cases h : p.threads id <;> simp [System.move, h]

/-- A thread is where its own last access left it. -/
theorem move_threads (h : p.threads id = some thread) {move : Move Call Change}
    (hmove : move ≠ .advance id) : (S.move p move).threads id = some thread := by
  cases move with
  | change change => exact h
  | start id' call =>
      cases hother : p.threads id' with
      | some other => simp [System.move, hother, h]
      | none =>
          have hne : id ≠ id' := by
            rintro rfl
            rw [h] at hother
            cases hother
          simp [System.move, hother, hne, h]
  | advance id' =>
      have hne : id ≠ id' := by
        rintro rfl
        exact hmove rfl
      cases hother : p.threads id' with
      | none => simp [System.move, hother, h]
      | some other => simp [System.move, hother, hne, h]

/-- The threads of a pool after a move are those before it, one that was started, or
one that made an access. -/
theorem move_threads_cases {move : Move Call Change}
    (h : (S.move p move).threads id = some thread) :
    p.threads id = some thread ∨
      (∃ call, move = .start id call ∧ p.threads id = none ∧ thread = S.begin call) ∨
      ∃ before, move = .advance id ∧ p.threads id = some before ∧
        thread = (S.advance p.shared before).2 := by
  cases hbefore : p.threads id with
  | some before =>
      by_cases hmove : move = .advance id
      · subst hmove
        rw [move_advance S hbefore] at h
        simp only [Function.update_self, Option.some.injEq] at h
        exact Or.inr (Or.inr ⟨before, rfl, rfl, h.symm⟩)
      · rw [move_threads S hbefore hmove] at h
        exact Or.inl h
  | none =>
      cases move with
      | change change =>
          have hsame : p.threads id = some thread := h
          rw [hbefore] at hsame
          cases hsame
      | start id' call =>
          by_cases hid : id = id'
          · subst hid
            rw [move_start S hbefore] at h
            simp only [Function.update_self, Option.some.injEq] at h
            exact Or.inr (Or.inl ⟨call, rfl, rfl, h.symm⟩)
          · cases hother : p.threads id' <;> simp [System.move, hother, hid, hbefore] at h
      | advance id' =>
          by_cases hid : id = id'
          · subst hid
            rw [move_advance_none S hbefore, hbefore] at h
            cases h
          · cases hother : p.threads id' <;> simp [System.move, hother, hid, hbefore] at h

end Moves

/-! ## Progress -/

/-- Whether a move is an access of the thread. -/
def Move.isAdvance (id : Nat) : Move Call Change → Bool
  | .advance id' => id' == id
  | _ => false

theorem Move.isAdvance_iff {id : Nat} {move : Move Call Change} :
    move.isAdvance id = true ↔ move = .advance id := by
  cases move <;> simp [Move.isAdvance]

/-- The number of accesses a thread makes along a schedule. -/
def accesses (id : Nat) (moves : List (Move Call Change)) : Nat :=
  moves.countP (Move.isAdvance id)

/-- If an access lowers the rank of its thread, the number of accesses a thread has
made bounds its rank, whatever happens in between. -/
theorem run_rank (S : System Shared Thread Call Change) (rank : Thread → Nat)
    (hrank : ∀ s thread, rank (S.advance s thread).2 ≤ rank thread - 1)
    {p : Pool Shared Thread} {id : Nat} {thread : Thread} (h : p.threads id = some thread)
    (moves : List (Move Call Change)) :
    ∃ after, (S.schedule p moves).threads id = some after ∧
      rank after ≤ rank thread - accesses id moves := by
  induction moves generalizing p thread with
  | nil => exact ⟨thread, h, Nat.le_refl _⟩
  | cons move moves ih =>
      by_cases hmove : move = .advance id
      · subst hmove
        rcases ih (move_advance_threads S h) with ⟨after, hafter, hle⟩
        refine ⟨after, hafter, ?_⟩
        have hstep := hrank p.shared thread
        have hcount : accesses id (.advance id :: moves) = accesses id moves + 1 :=
          List.countP_cons_of_pos (Move.isAdvance_iff.mpr rfl)
        omega
      · rcases ih (move_threads S h hmove) with ⟨after, hafter, hle⟩
        refine ⟨after, hafter, ?_⟩
        unfold accesses at hle ⊢
        rwa [List.countP_cons_of_neg fun hadvance => hmove (Move.isAdvance_iff.mp hadvance)]

/-! ## Undisturbed threads -/

/-- Along the schedule nobody but thread {lit}`id` changes what {lit}`view` shows of
the shared state. -/
def Undisturbed {View : Type*} (S : System Shared Thread Call Change) (view : Shared → View)
    (id : Nat) (p : Pool Shared Thread) (moves : List (Move Call Change)) : Prop :=
  AtEachStep (fun before move => move ≠ .advance id →
    view (S.move (S.schedule p before) move).shared = view (S.schedule p before).shared) moves

theorem Undisturbed.tail {View : Type*} {S : System Shared Thread Call Change}
    {view : Shared → View} {id : Nat} {p : Pool Shared Thread} {move : Move Call Change}
    {moves : List (Move Call Change)} (h : Undisturbed S view id p (move :: moves)) :
    Undisturbed S view id (S.move p move) moves := by
  rintro before op after rfl hop
  exact h (move :: before) op after rfl hop

/-- If the accesses of a thread leave the value it is going to end with alone, an
undisturbed thread is still going to end with the value it started out for. -/
theorem run_eval {View Value : Type*} (S : System Shared Thread Call Change)
    (view : Shared → View) (eval : View → Thread → Value)
    (hadvance : ∀ s thread,
      eval (view (S.advance s thread).1) (S.advance s thread).2 = eval (view s) thread)
    {p : Pool Shared Thread} {id : Nat} {thread : Thread} (h : p.threads id = some thread)
    {moves : List (Move Call Change)} (hquiet : Undisturbed S view id p moves) :
    ∃ after, (S.schedule p moves).threads id = some after ∧
      eval (view (S.schedule p moves).shared) after = eval (view p.shared) thread := by
  induction moves generalizing p thread with
  | nil => exact ⟨thread, h, rfl⟩
  | cons move moves ih =>
      by_cases hmove : move = .advance id
      · subst hmove
        rcases ih (move_advance_threads S h) hquiet.tail with ⟨after, hafter, heval⟩
        refine ⟨after, hafter, heval.trans ?_⟩
        rw [move_advance S h]
        exact hadvance p.shared thread
      · have hview : view (S.move p move).shared = view p.shared :=
          hquiet [] move moves rfl hmove
        rcases ih (move_threads S h hmove) hquiet.tail with ⟨after, hafter, heval⟩
        refine ⟨after, hafter, heval.trans ?_⟩
        rw [hview]

end BoltClient.Library.Threads
