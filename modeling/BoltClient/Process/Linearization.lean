import BoltClient.Process.Interleaving

/-!
# Overlapping calls in one order

While the cached map is fresh and the configuration stays as it is, overlapping signing
calls meet in the shared endpoint only.  Each of them then takes effect at the moment it
stores its URI there, and the runs of {lit}`Process`, in which a signing is one step,
describe every schedule.

Main results:

- Theorem {lit}`Serving.advance`: a call served from the cache stays one and writes no
  configuration.
- Theorem {lit}`fresh_calls_linearizable`: every schedule of such calls is the atomic
  run of their signings in the order of their stores.

Current gaps:

- A schedule with a refresh has no such order in general, see {lit}`Contention`.
-/

namespace BoltClient

open BoltClient.Library.Runs
open BoltClient.Library.Threads

/-! ## Calls served from the cache -/

/-- Phases only a call that refreshes the cache is in. -/
def SigningPhase.Refreshes : SigningPhase → Prop
  | .fetch => True
  | .install _ => True
  | .extend => True
  | _ => False

/-- A call that is served from the cache of an unchanging configuration. -/
structure Serving (E : Externals) (c : BoltConfig) (t : SigningThread) : Prop where
  fresh : ¬c.RefreshDue t.input.select.checkClock
  cached : ¬t.phase.Refreshes
  ends : t.complete E c = (SigningThread.begin (t.call, t.input)).complete E c

/-- The URI a call has stored in the shared endpoint, if it has got that far. -/
def SigningThread.storedUri (t : SigningThread) : Option Uri :=
  match t.phase with
  | .finish pending => some pending.boltUri
  | .returned request => some request.uri
  | _ => none

section Serving

variable {E : Externals} {s : Statics} {t : SigningThread}

/-- A call served from the cache writes to the shared endpoint at most. -/
theorem Serving.write (h : Serving E s.config t) :
    t.write E s =
      match t.phase with
      | .store pending => { s with selectedBoltEndpoint := pending.boltUri }
      | _ => s := by
  have hcached := h.cached
  rcases t with ⟨call, x, phase⟩
  cases phase <;> simp [SigningPhase.Refreshes, SigningThread.write] at hcached ⊢

/-- A call served from the cache writes no configuration. -/
theorem Serving.write_config (h : Serving E s.config t) : (t.write E s).config = s.config := by
  rw [h.write]
  split <;> rfl

/-- A call served from the cache does not get to a refresh. -/
theorem Serving.next_cached (h : Serving E s.config t) : ¬(t.next E s.config).Refreshes := by
  have hfresh := h.fresh
  have hcached := h.cached
  simp only [BoltConfig.RefreshDue, not_or] at hfresh
  rcases t with ⟨call, x, phase⟩
  cases phase with
  | checkTime => simp [SigningThread.next, hfresh.1, SigningPhase.Refreshes]
  | checkEmpty => simp [SigningThread.next, hfresh.2, SigningPhase.Refreshes]
  | fetch => exact absurd trivial hcached
  | install endpoints => exact absurd trivial hcached
  | extend => exact absurd trivial hcached
  | pick keys =>
      cases keys with
      | nil => exact id
      | cons key keys =>
          rcases next_pick_cases E s.config call x key keys with
            ⟨-, hnext, -⟩ | ⟨value, endpoint, -, -, hnext, -⟩
          · rw [hnext]
            exact id
          · rw [hnext]
            exact id
  | createHead boltEndpoint => exact id
  | store pending => exact id
  | finish pending => exact id
  | returned request => exact id
  | threw e => exact id

/-- A call served from the cache stays one. -/
theorem Serving.advance (h : Serving E s.config t) :
    Serving E s.config ((signingSystem E).advance s t).2 where
  fresh := h.fresh
  cached := h.next_cached
  ends := by
    have hcomplete := advance_complete E s t
    have hconfig : ((signingSystem E).advance s t).1.config = s.config := h.write_config
    rw [hconfig, h.ends] at hcomplete
    exact hcomplete

theorem Serving.begin {request : SignCall × SignInput}
    (h : ¬s.config.RefreshDue request.2.select.checkClock) :
    Serving E s.config ((signingSystem E).begin request) where
  fresh := h
  cached := id
  ends := rfl

/-- The store of a call served from the cache is what the atomic call does to the
static members, and it returns the request the atomic call returns. -/
theorem Serving.store {pending : PendingTransplant} (h : Serving E s.config t)
    (hphase : t.phase = .store pending) :
    t.write E s = (t.call.perform E s t.input).statics ∧
      (t.call.perform E s t.input).result = .ok true ∧
      (t.call.perform E s t.input).request.uri = pending.boltUri := by
  have hends := h.ends
  rw [complete_begin_eq_perform] at hends
  have hcomplete : t.complete E s.config =
      (s.config, .ok (t.transplanted s.config pending)) := by
    simp [SigningThread.complete, hphase]
  have huri : (t.transplanted s.config pending).uri = pending.boltUri := by
    simp [SigningThread.transplanted]
  rw [hcomplete] at hends
  have hconfig := congrArg Prod.fst hends
  have hresult := congrArg Prod.snd hends
  cases hselect : (selectBoltEndpoints E s.config t.call.request.method t.input.select).result with
  | error e =>
      rw [perform_of_threw hselect] at hresult
      cases hresult
  | ok e =>
      simp only [SignOutcome.completion, perform_result hselect, Except.map] at hresult
      have hrequest := Except.ok.inj hresult
      have haddress : (t.call.perform E s t.input).request.uri = pending.boltUri := by
        rw [← hrequest, huri]
      refine ⟨?_, perform_result hselect, haddress⟩
      simp only [SignOutcome.completion, perform_statics hselect] at hconfig
      rw [perform_uri hselect] at haddress
      rw [h.write, hphase, perform_statics hselect, ← hconfig, haddress]

end Serving

/-! ## The order of the stores -/

/-- The atomic signing a move stands for: that of the call which stores its URI. -/
def linearized (q : SigningPool) : SigningMove → List ProcessOp
  | .advance id =>
      match q.threads id with
      | some t =>
          match t.phase with
          | .store _ => [.sign id t.call t.input]
          | _ => []
      | none => []
  | _ => []

/-- The atomic signings of a schedule, in the order of the stores. -/
def linearization (E : Externals) (p : SigningPool) (moves : List SigningMove) :
    List ProcessOp :=
  collect (signingSystem E).move linearized p moves

/-- Moves that leave a fresh cache alone: calls that find it fresh, and nothing from
outside the calls. -/
def FreshMove (c : BoltConfig) : SigningMove → Prop
  | .start _ request => ¬c.RefreshDue request.2.select.checkClock
  | .advance _ => True
  | .change _ => False

/-- What a pool of calls served from the cache and an atomic run have in common. -/
structure Linearizes (E : Externals) (q : SigningPool) (atomic : Process) : Prop where
  shared : q.shared = atomic.statics
  serving : ∀ id t, q.threads id = some t → Serving E q.shared.config t
  stored : ∀ id t uri, q.threads id = some t → t.storedUri = some uri →
    atomic.signed id = some uri

section Step

variable {E : Externals} {q : SigningPool} {atomic : Process}

/-- A call that has not just stored its URI had it stored before. -/
theorem storedUri_next {s : Statics} {t : SigningThread}
    (hstore : ∀ pending, t.phase ≠ .store pending) {uri : Uri}
    (h : ((signingSystem E).advance s t).2.storedUri = some uri) : t.storedUri = some uri := by
  rcases t with ⟨call, x, phase⟩
  cases phase with
  | store pending => exact absurd rfl (hstore pending)
  | finish pending =>
      simpa [signingSystem, SigningThread.next, SigningThread.storedUri,
        SigningThread.transplanted] using h
  | returned request => exact h
  | checkTime =>
      exfalso
      by_cases htime : x.select.checkClock > s.config.refreshTime <;>
        simp [signingSystem, SigningThread.next, SigningThread.storedUri, htime] at h
  | checkEmpty =>
      exfalso
      by_cases hempty : s.config.boltEndpoints.entries = [] <;>
        simp [signingSystem, SigningThread.next, SigningThread.storedUri, hempty] at h
  | fetch =>
      exfalso
      cases hget : (getBoltEndpoints E s.config x.select.http "").result <;>
        simp [signingSystem, SigningThread.next, SigningThread.storedUri, hget] at h
  | pick keys =>
      exfalso
      cases keys with
      | nil => cases h
      | cons key keys =>
          rcases next_pick_cases E s.config call x key keys with
            ⟨-, hnext, -⟩ | ⟨value, endpoint, -, -, hnext, -⟩ <;>
            simp [signingSystem, SigningThread.storedUri, hnext] at h
  | install endpoints => cases h
  | extend => cases h
  | createHead boltEndpoint => cases h
  | threw e => cases h

/-- A started call that finds the cache fresh is served from it. -/
theorem Linearizes.start (h : Linearizes E q atomic) (id : Nat) {request : SignCall × SignInput}
    (hfresh : ¬q.shared.config.RefreshDue request.2.select.checkClock) :
    Linearizes E ((signingSystem E).move q (.start id request)) atomic where
  shared := (move_start_shared _ _ _).trans h.shared
  serving := by
    intro id' t ht
    rw [move_start_shared]
    rcases move_threads_cases _ ht with hbefore | ⟨call, hmove, -, rfl⟩ | ⟨_, hmove, -, -⟩
    · exact h.serving id' t hbefore
    · cases hmove
      exact Serving.begin hfresh
    · cases hmove
  stored := by
    intro id' t uri ht huri
    rcases move_threads_cases _ ht with hbefore | ⟨call, hmove, -, rfl⟩ | ⟨_, hmove, -, -⟩
    · exact h.stored id' t uri hbefore huri
    · cases huri
    · cases hmove

section Advance

variable {id : Nat} {t : SigningThread} (hthread : q.threads id = some t)
include hthread

theorem Linearizes.write (h : Linearizes E q atomic) :
    ((signingSystem E).move q (.advance id)).shared = t.write E q.shared ∧
      ((signingSystem E).move q (.advance id)).shared.config = q.shared.config := by
  have hwrite : ((signingSystem E).move q (.advance id)).shared = t.write E q.shared := by
    rw [move_advance _ hthread]
    rfl
  exact ⟨hwrite, by rw [hwrite, (h.serving id t hthread).write_config]⟩

/-- After an access every call is still served from the cache. -/
theorem Linearizes.serving_advance (h : Linearizes E q atomic) :
    ∀ id' t', ((signingSystem E).move q (.advance id)).threads id' = some t' →
      Serving E ((signingSystem E).move q (.advance id)).shared.config t' := by
  intro id' t' ht'
  rw [(h.write hthread).2]
  rcases move_threads_cases _ ht' with
    hbefore | ⟨_, hstart, -, -⟩ | ⟨before, -, hbefore, rfl⟩
  · exact h.serving id' t' hbefore
  · cases hstart
  · exact (h.serving id' before hbefore).advance

/-- The access that stores the URI is the atomic signing. -/
theorem Linearizes.advance_store (h : Linearizes E q atomic) {pending : PendingTransplant}
    (hphase : t.phase = .store pending) :
    Linearizes E ((signingSystem E).move q (.advance id))
      (processStep E atomic (.sign id t.call t.input)) := by
  rcases (h.serving id t hthread).store hphase with ⟨hstatics, hresult, huri⟩
  have hsigned : signedUri E atomic (.sign id t.call t.input) = some pending.boltUri := by
    simp only [signedUri, ← h.shared, hresult, huri]
  have hafter : (processStep E atomic (.sign id t.call t.input)).signed =
      Function.update atomic.signed id (some pending.boltUri) := by
    simp [processStep, hsigned]
  refine ⟨?_, h.serving_advance hthread, ?_⟩
  · rw [(h.write hthread).1, hstatics, h.shared]
    rfl
  · intro id' t' uri ht' huri'
    rw [hafter]
    by_cases hid : id' = id
    · subst hid
      rw [move_advance_threads _ hthread] at ht'
      obtain rfl := Option.some.inj ht'
      rw [Function.update_self, ← huri']
      simp [signingSystem, SigningThread.next, SigningThread.storedUri, hphase]
    · rw [Function.update_of_ne hid]
      rcases move_threads_cases _ ht' with hbefore | ⟨_, hstart, -, -⟩ | ⟨_, hadvance, -, -⟩
      · exact h.stored id' t' uri hbefore huri'
      · cases hstart
      · cases hadvance
        exact absurd rfl hid

/-- No other access shows. -/
theorem Linearizes.advance_quiet (h : Linearizes E q atomic)
    (hquiet : ∀ pending, t.phase ≠ .store pending) :
    Linearizes E ((signingSystem E).move q (.advance id)) atomic := by
  have hsame : t.write E q.shared = q.shared := by
    rw [(h.serving id t hthread).write]
    split
    · next pending hphase => exact absurd hphase (hquiet pending)
    · rfl
  refine ⟨(h.write hthread).1.trans (hsame.trans h.shared), h.serving_advance hthread, ?_⟩
  intro id' t' uri ht' huri'
  rcases move_threads_cases _ ht' with
    hbefore | ⟨_, hstart, -, -⟩ | ⟨before, hadvance, hbefore, rfl⟩
  · exact h.stored id' t' uri hbefore huri'
  · cases hstart
  · cases hadvance
    obtain rfl := Option.some.inj (hbefore.symm.trans hthread)
    exact h.stored id before uri hthread (storedUri_next hquiet huri')

end Advance

/-- A move of calls served from the cache is the atomic signings it stands for. -/
theorem Linearizes.move {c : BoltConfig} {move : SigningMove} (h : Linearizes E q atomic)
    (hconfig : q.shared.config = c) (hfresh : FreshMove c move) :
    Linearizes E ((signingSystem E).move q move) (processRun E atomic (linearized q move)) ∧
      ((signingSystem E).move q move).shared.config = c := by
  subst hconfig
  cases move with
  | change change => exact hfresh.elim
  | start id request =>
      refine ⟨h.start id hfresh, ?_⟩
      rw [move_start_shared]
  | advance id =>
      cases hthread : q.threads id with
      | none =>
          rw [move_advance_none _ hthread]
          simpa [linearized, hthread] using h
      | some t =>
          refine ⟨?_, (h.write hthread).2⟩
          by_cases hstore : ∃ pending, t.phase = .store pending
          · rcases hstore with ⟨pending, hphase⟩
            have hatomic : linearized q (.advance id) = [.sign id t.call t.input] := by
              simp [linearized, hthread, hphase]
            rw [hatomic]
            exact h.advance_store hthread hphase
          · have hquiet : ∀ pending, t.phase ≠ .store pending := fun pending hphase =>
              hstore ⟨pending, hphase⟩
            have hatomic : linearized q (.advance id) = [] := by
              rcases t with ⟨call, x, phase⟩
              cases phase <;> simp [linearized, hthread] at hquiet ⊢
            rw [hatomic]
            exact h.advance_quiet hthread hquiet

end Step

/-- Under every schedule of calls that find the cache fresh, with nothing changing the
configuration from outside, the static members are those the atomic run of the stored
signings leaves; every call that has ended ended as the atomic call does; and every call
that has returned is signed, in the atomic run, with the URI it returned. -/
theorem fresh_calls_linearizable (E : Externals) (s : Statics) (moves : List SigningMove)
    (hfresh : ∀ move ∈ moves, FreshMove s.config move) :
    let after := (signingSystem E).schedule ⟨s, fun _ => none⟩ moves
    let atomic := processRun E ⟨s, fun _ => none⟩ (linearization E ⟨s, fun _ => none⟩ moves)
    after.shared = atomic.statics ∧
      ∀ id t, after.threads id = some t →
        (∀ result, t.result = some result →
          (s.config, result) = (t.call.perform E s t.input).completion) ∧
        ∀ request, t.phase = .returned request → atomic.signed id = some request.uri := by
  intro after atomic
  have hinv : Linearizes E after atomic ∧ after.shared.config = s.config := by
    let Inv : List ProcessOp → SigningPool → Prop := fun events q =>
      Linearizes E q (processRun E ⟨s, fun _ => none⟩ events) ∧ q.shared.config = s.config
    refine run_history_invariant Inv ⟨⟨rfl, by simp, by simp⟩, rfl⟩ ?_
    rintro before move rest rfl ⟨hbefore, hconfig⟩
    have hmove := hbefore.move hconfig (hfresh move (by simp))
    refine ⟨?_, hmove.2⟩
    unfold processRun
    rw [run_append]
    exact hmove.1
  refine ⟨hinv.1.shared, fun id t ht => ⟨fun result hresult => ?_, fun request hphase => ?_⟩⟩
  · have hends := (hinv.1.serving id t ht).ends
    rw [hinv.2, complete_of_result hresult, complete_begin_eq_perform] at hends
    exact hends
  · exact hinv.1.stored id t _ ht (by simp [SigningThread.storedUri, hphase])

/-- Two calls whose accesses alternate, on a configuration with a fresh map. -/
theorem sample_fresh_calls :
    let call := sampleCall (.signRequest true) .httpGet "https://bucket.s3.amazonaws.com/key"
    let x := sampleSignInput 1000 (sampleResponse 0) sampleV4
    let s := (call.perform sampleExternals sampleStatics x).statics
    let moves : List SigningMove :=
      [.start 0 (call, x), .start 1 (call, x)] ++
        (List.replicate 7 [.advance 0, .advance 1]).flatten
    let after := (signingSystem sampleExternals).schedule ⟨s, fun _ => none⟩ moves
    after.shared = (processRun sampleExternals ⟨s, fun _ => none⟩
      (linearization sampleExternals ⟨s, fun _ => none⟩ moves)).statics := by
  intro call x s moves after
  have hfresh : ¬s.config.RefreshDue x.select.checkClock := by decide
  refine (fresh_calls_linearizable sampleExternals s moves ?_).1
  intro move hmove
  cases move with
  | advance id => trivial
  | change change => simp [moves] at hmove
  | start id request =>
      have hrequest : request = (call, x) := by
        simp only [moves, List.mem_append, List.mem_cons, Move.start.injEq] at hmove
        rcases hmove with (h | h | h) | h
        · exact h.2
        · exact h.2
        · cases h
        · simp at h
      rw [hrequest]
      exact hfresh

end BoltClient
