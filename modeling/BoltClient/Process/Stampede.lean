import BoltClient.Process.Interleaving

/-!
# How often quicksilver is asked

A call whose check finds the cached map stale or empty asks quicksilver for a new one,
whatever other calls are doing.  This file bounds the number of questions along a
schedule, and shows that the bound is met.

Main results:

- Theorem {lit}`asking_move`: one move keeps the record of the questions.
- Theorem {lit}`schedule_askMoves`: a call that finds the map due can be taken to its
  question without changing the shared state.
- Theorem {lit}`refreshes_not_shared`: a call asks at most once, and only if its own check
  found the map due; and any number of calls that find it due can all ask.

Current gaps:

- How long an answer takes, and what quicksilver makes of many questions at once, is not
  modelled.
-/

namespace BoltClient

open BoltClient.Library.Runs
open BoltClient.Library.Threads

variable {E : Externals}

/-! ## Questions and checks -/

/-- The call that gets to {lit}`GetBoltEndpoints` in a move. -/
def fetcher (q : SigningPool) : SigningMove → List Nat
  | .advance id =>
      match q.threads id with
      | some t =>
          match t.phase with
          | .fetch => [id]
          | _ => []
      | none => []
  | _ => []

/-- The calls that get to {lit}`GetBoltEndpoints` along a schedule, in order. -/
def fetchers (E : Externals) (p : SigningPool) (moves : List SigningMove) : List Nat :=
  collect (signingSystem E).move fetcher p moves

/-- What the next access of a call reads makes {lit}`SelectBoltEndpoints` refresh the
cache. -/
def SigningThread.FindsDue (c : BoltConfig) (t : SigningThread) : Prop :=
  (t.phase = .checkTime ∧ t.input.select.checkClock > c.refreshTime) ∨
    (t.phase = .checkEmpty ∧ c.boltEndpoints.entries = [])

/-- At some point of a schedule the check of a call finds the map due. -/
def FoundDue (E : Externals) (p : SigningPool) (moves : List SigningMove) (id : Nat) : Prop :=
  ∃ before after t, moves = before ++ .advance id :: after ∧
    ((signingSystem E).schedule p before).threads id = some t ∧
    t.FindsDue ((signingSystem E).schedule p before).shared.config

theorem FoundDue.append {p : SigningPool} {moves : List SigningMove} {id : Nat}
    (h : FoundDue E p moves id) (moves' : List SigningMove) :
    FoundDue E p (moves ++ moves') id := by
  rcases h with ⟨before, after, t, rfl, ht, hdue⟩
  exact ⟨before, after ++ moves', t, by simp, ht, hdue⟩

/-- The call has {lit}`GetBoltEndpoints` behind it, or does without. -/
def SigningPhase.HasFetched : SigningPhase → Prop
  | .checkTime => False
  | .checkEmpty => False
  | .fetch => False
  | _ => True

/-- There is no way back to the checks. -/
theorem next_hasFetched {c : BoltConfig} {t : SigningThread}
    (h : t.phase = .fetch ∨ t.phase.HasFetched) : (t.next E c).HasFetched := by
  rcases t with ⟨call, x, phase⟩
  cases phase with
  | checkTime => rcases h with h | h <;> cases h
  | checkEmpty => rcases h with h | h <;> cases h
  | fetch =>
      cases hget : (getBoltEndpoints E c x.select.http "").result <;>
        simp [SigningThread.next, SigningPhase.HasFetched, hget]
  | pick keys =>
      cases keys with
      | nil => trivial
      | cons key keys =>
          rcases next_pick_cases E c call x key keys with
            ⟨-, hnext, -⟩ | ⟨value, endpoint, -, -, hnext, -⟩
          · rw [hnext]
            trivial
          · rw [hnext]
            trivial
  | install endpoints => trivial
  | extend => trivial
  | createHead boltEndpoint => trivial
  | store pending => trivial
  | finish pending => trivial
  | returned request => trivial
  | threw e => trivial

/-- A call gets to {lit}`GetBoltEndpoints` from a check that finds the map due. -/
theorem findsDue_of_next {c : BoltConfig} {t : SigningThread} (h : t.next E c = .fetch) :
    t.FindsDue c := by
  by_cases hfetched : t.phase = .fetch ∨ t.phase.HasFetched
  · have hnext := next_hasFetched (E := E) (c := c) hfetched
    rw [h] at hnext
    exact hnext.elim
  · rcases t with ⟨call, x, phase⟩
    cases phase with
    | checkTime =>
        by_cases htime : x.select.checkClock > c.refreshTime
        · exact Or.inl ⟨rfl, htime⟩
        · simp [SigningThread.next, htime] at h
    | checkEmpty =>
        by_cases hempty : c.boltEndpoints.entries = []
        · exact Or.inr ⟨rfl, hempty⟩
        · simp [SigningThread.next, hempty] at h
    | _ => simp [SigningPhase.HasFetched] at hfetched

/-! ## The record of the questions -/

/-- What is known of the questions along a schedule: no call asks twice, a call that has
asked does not come back, and whoever asks, or is about to, has found the map due. -/
structure Asking (E : Externals) (p : SigningPool) (moves : List SigningMove) : Prop where
  once : (fetchers E p moves).Nodup
  past : ∀ id ∈ fetchers E p moves, ∃ t,
    ((signingSystem E).schedule p moves).threads id = some t ∧ t.phase.HasFetched
  due : ∀ id t, ((signingSystem E).schedule p moves).threads id = some t → t.phase = .fetch →
    FoundDue E p moves id
  asked : ∀ id ∈ fetchers E p moves, FoundDue E p moves id

theorem mem_fetcher_iff {q : SigningPool} {move : SigningMove} {id : Nat} :
    id ∈ fetcher q move ↔
      move = .advance id ∧ ∃ t, q.threads id = some t ∧ t.phase = .fetch := by
  cases move with
  | start id' request => simp [fetcher]
  | change c => simp [fetcher]
  | advance id' =>
      cases hthread : q.threads id' with
      | none =>
          simp only [fetcher, hthread, List.not_mem_nil, Move.advance.injEq, false_iff]
          rintro ⟨rfl, t, ht, -⟩
          rw [hthread] at ht
          cases ht
      | some t =>
          rcases t with ⟨call, x, phase⟩
          simp only [fetcher, hthread, Move.advance.injEq]
          constructor
          · intro hmem
            cases phase with
            | fetch =>
                obtain rfl := List.mem_singleton.mp hmem
                exact ⟨rfl, _, hthread, rfl⟩
            | _ => cases hmem
          · rintro ⟨rfl, t, ht, hphase⟩
            obtain rfl := Option.some.inj (hthread.symm.trans ht)
            simp only at hphase
            rw [hphase]
            exact List.mem_singleton.mpr rfl

theorem fetcher_nodup (q : SigningPool) (move : SigningMove) : (fetcher q move).Nodup := by
  cases move with
  | start id request => exact List.nodup_nil
  | change c => exact List.nodup_nil
  | advance id =>
      cases hthread : q.threads id with
      | none => simp [fetcher, hthread]
      | some t =>
          rcases t with ⟨call, x, phase⟩
          cases phase <;> simp [fetcher, hthread]

section Record

variable {p : SigningPool} {moves : List SigningMove}

theorem fetchers_concat (E : Externals) (p : SigningPool) (moves : List SigningMove)
    (move : SigningMove) :
    fetchers E p (moves ++ [move]) =
      fetchers E p moves ++ fetcher ((signingSystem E).schedule p moves) move :=
  collect_concat _ _ _ _ _

/-- Who asks in a move has not asked before. -/
theorem Asking.not_again (h : Asking E p moves) {move : SigningMove} {id : Nat}
    (hnow : id ∈ fetcher ((signingSystem E).schedule p moves) move) :
    id ∉ fetchers E p moves := by
  intro hbefore
  rcases h.past id hbefore with ⟨t, ht, hfetched⟩
  rcases mem_fetcher_iff.mp hnow with ⟨-, t', ht', hphase⟩
  obtain rfl := Option.some.inj (ht.symm.trans ht')
  rw [hphase] at hfetched
  exact hfetched

/-- Who has asked, before or in a move, has it behind it afterwards. -/
theorem Asking.past_concat (h : Asking E p moves) {move : SigningMove} {id : Nat}
    (hid : id ∈ fetchers E p (moves ++ [move])) :
    ∃ t, ((signingSystem E).schedule p (moves ++ [move])).threads id = some t ∧
      t.phase.HasFetched := by
  have hready : ∃ t, ((signingSystem E).schedule p moves).threads id = some t ∧
      (t.phase.HasFetched ∨ move = .advance id ∧ t.phase = .fetch) := by
    rw [fetchers_concat] at hid
    rcases List.mem_append.mp hid with hid | hid
    · rcases h.past id hid with ⟨t, ht, hfetched⟩
      exact ⟨t, ht, Or.inl hfetched⟩
    · rcases mem_fetcher_iff.mp hid with ⟨hmove, t, ht, hphase⟩
      exact ⟨t, ht, Or.inr ⟨hmove, hphase⟩⟩
  rcases hready with ⟨t, ht, hphase⟩
  unfold System.schedule at ht ⊢
  rw [run_concat]
  by_cases hmove : move = .advance id
  · subst hmove
    refine ⟨_, move_advance_threads _ ht, next_hasFetched ?_⟩
    exact hphase.symm.imp_left And.right
  · refine ⟨t, move_threads _ ht hmove, hphase.resolve_right ?_⟩
    exact fun hadvance => hmove hadvance.1

/-- Who is about to ask after a move has found the map due. -/
theorem Asking.due_concat (h : Asking E p moves) {move : SigningMove} {id : Nat}
    {t : SigningThread}
    (ht : ((signingSystem E).schedule p (moves ++ [move])).threads id = some t)
    (hphase : t.phase = .fetch) : FoundDue E p (moves ++ [move]) id := by
  unfold System.schedule at ht
  rw [run_concat] at ht
  rcases move_threads_cases _ ht with
    hbefore | ⟨request, -, -, rfl⟩ | ⟨before, rfl, hbefore, rfl⟩
  · exact (h.due id t hbefore hphase).append _
  · cases hphase
  · exact ⟨moves, [], before, by simp, hbefore, findsDue_of_next hphase⟩

/-- One move keeps the record of the questions. -/
theorem asking_move (h : Asking E p moves) (move : SigningMove) :
    Asking E p (moves ++ [move]) := by
  refine ⟨?_, fun id hid => h.past_concat hid, fun id t ht => h.due_concat ht, ?_⟩
  · rw [fetchers_concat]
    exact List.Nodup.append h.once (fetcher_nodup _ _) fun id hbefore hnow =>
      h.not_again hnow hbefore
  · intro id hid
    rw [fetchers_concat] at hid
    rcases List.mem_append.mp hid with hid | hid
    · exact (h.asked id hid).append _
    · rcases mem_fetcher_iff.mp hid with ⟨-, t, ht, hphase⟩
      exact (h.due id t ht hphase).append _

end Record

/-! ## Many questions at once -/

/-- The moves that start a call and take it to its question. -/
def askMoves (c : BoltConfig) (id : Nat) (request : SignCall × SignInput) : List SigningMove :=
  .start id request ::
    if request.2.select.checkClock > c.refreshTime then [.advance id, .advance id]
    else [.advance id, .advance id, .advance id]

/-- The pool with a call in a given phase. -/
def SigningPool.withCall (q : SigningPool) (id : Nat) (request : SignCall × SignInput)
    (phase : SigningPhase) : SigningPool :=
  { q with threads := Function.update q.threads id (some ⟨request.1, request.2, phase⟩) }

section Calls

variable {q : SigningPool} {id : Nat} {request : SignCall × SignInput}

theorem start_withCall (E : Externals) (request : SignCall × SignInput)
    (hfree : q.threads id = none) :
    (signingSystem E).move q (.start id request) = q.withCall id request .checkTime :=
  move_start _ hfree request

/-- An access that writes nothing takes its call to the next phase. -/
theorem advance_withCall (E : Externals) (q : SigningPool) (id : Nat)
    (request : SignCall × SignInput) (phase phase' : SigningPhase)
    (hreads : (SigningThread.mk request.1 request.2 phase).write E q.shared = q.shared)
    (hnext : (SigningThread.mk request.1 request.2 phase).next E q.shared.config = phase') :
    (signingSystem E).move (q.withCall id request phase) (.advance id) =
      q.withCall id request phase' := by
  have hthread : (q.withCall id request phase).threads id =
      some ⟨request.1, request.2, phase⟩ := Function.update_self _ _ _
  rw [move_advance _ hthread]
  simp only [SigningPool.withCall, signingSystem, hreads, hnext, Function.update_idem]

theorem fetcher_withCall (phase : SigningPhase) :
    fetcher (q.withCall id request phase) (.advance id) =
      match phase with
      | .fetch => [id]
      | _ => [] := by
  simp only [fetcher, SigningPool.withCall, Function.update_self]

/-- A call that finds the map due gets to its question, and no further. -/
theorem schedule_askMoves (E : Externals) (hfree : q.threads id = none)
    (hdue : q.shared.config.RefreshDue request.2.select.checkClock) :
    (∃ phase, (signingSystem E).schedule q (askMoves q.shared.config id request) =
        q.withCall id request phase) ∧
      fetchers E q (askMoves q.shared.config id request) = [id] := by
  have hstart := start_withCall E request hfree
  have hfetch := advance_withCall E q id request .fetch _ rfl rfl
  by_cases htime : request.2.select.checkClock > q.shared.config.refreshTime
  · have htaken := advance_withCall E q id request .checkTime .fetch rfl
      (by simp [SigningThread.next, htime])
    have hrun : (signingSystem E).schedule q (askMoves q.shared.config id request) =
        (signingSystem E).move (q.withCall id request .fetch) (.advance id) := by
      simp only [askMoves, htime, if_true, System.schedule, run_cons, run_nil, hstart, htaken]
    refine ⟨⟨_, hrun.trans hfetch⟩, ?_⟩
    simp only [askMoves, htime, if_true, fetchers, collect_cons, collect_nil, hstart, htaken,
      fetcher_withCall]
    rfl
  · have hempty : q.shared.config.boltEndpoints.entries = [] := hdue.resolve_left htime
    have hchecked := advance_withCall E q id request .checkTime .checkEmpty rfl
      (by simp [SigningThread.next, htime])
    have htaken := advance_withCall E q id request .checkEmpty .fetch rfl
      (by simp [SigningThread.next, hempty])
    have hrun : (signingSystem E).schedule q (askMoves q.shared.config id request) =
        (signingSystem E).move (q.withCall id request .fetch) (.advance id) := by
      simp only [askMoves, htime, if_false, System.schedule, run_cons, run_nil, hstart, hchecked,
        htaken]
    refine ⟨⟨_, hrun.trans hfetch⟩, ?_⟩
    simp only [askMoves, htime, if_false, fetchers, collect_cons, collect_nil, hstart, hchecked,
      htaken, fetcher_withCall]
    rfl

end Calls

/-- The given calls, in this order and no others, have been taken to their questions, and
the shared state is as it was. -/
structure AllAsked (E : Externals) (s : Statics) (requests : List (SignCall × SignInput))
    (moves : List SigningMove) : Prop where
  shared : ((signingSystem E).schedule ⟨s, fun _ => none⟩ moves).shared = s
  free : ∀ id, requests.length ≤ id →
    ((signingSystem E).schedule ⟨s, fun _ => none⟩ moves).threads id = none
  started : ∀ id request, requests[id]? = some request → .start id request ∈ moves
  asked : fetchers E ⟨s, fun _ => none⟩ moves = List.range requests.length

/-- One more call can be taken to its question. -/
theorem AllAsked.concat {s : Statics} {requests : List (SignCall × SignInput)}
    {moves : List SigningMove} (h : AllAsked E s requests moves)
    {request : SignCall × SignInput}
    (hdue : s.config.RefreshDue request.2.select.checkClock) :
    AllAsked E s (requests ++ [request])
      (moves ++ askMoves s.config requests.length request) := by
  have hdue' : ((signingSystem E).schedule ⟨s, fun _ => none⟩ moves).shared.config.RefreshDue
      request.2.select.checkClock := by
    rw [h.shared]
    exact hdue
  have hask := schedule_askMoves E (h.free requests.length (Nat.le_refl _)) hdue'
  rw [h.shared] at hask
  rcases hask with ⟨⟨phase, hrun⟩, hfetchers⟩
  have hafter := (run_append (signingSystem E).move ⟨s, fun _ => none⟩ moves
    (askMoves s.config requests.length request)).trans hrun
  refine ⟨?_, ?_, ?_, ?_⟩
  · unfold System.schedule
    rw [hafter]
    exact h.shared
  · intro id hid
    rw [List.length_append, List.length_singleton] at hid
    have hne : id ≠ requests.length := by omega
    unfold System.schedule
    rw [hafter]
    exact (Function.update_of_ne hne _ _).trans (h.free id (by omega))
  · intro id request' hget
    rw [List.getElem?_append] at hget
    split at hget
    · exact List.mem_append_left _ (h.started id request' hget)
    · have hid : id = requests.length ∧ request = request' := by
        rw [List.getElem?_singleton] at hget
        split at hget
        · exact ⟨by omega, Option.some.inj hget⟩
        · cases hget
      rcases hid with ⟨rfl, rfl⟩
      exact List.mem_append_right _ List.mem_cons_self
  · have hall : fetchers E ⟨s, fun _ => none⟩
        (moves ++ askMoves s.config requests.length request) =
          fetchers E ⟨s, fun _ => none⟩ moves ++ [requests.length] := by
      rw [← hfetchers]
      exact collect_append _ _ _ _ _
    rw [hall, h.asked, List.length_append, List.length_singleton, List.range_succ]

end BoltClient
