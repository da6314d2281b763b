import BoltClient.Library.Threads
import BoltClient.Process

/-!
# Signing calls that overlap

The signing functions take no lock.  Several calls may be under way at once, and
between two accesses of one call to the static members another call may refresh the
cache, or a reset may be half done.  Here a call is a thread of single accesses, in the
order of {lit}`bolt_s3_config.cpp` and {lit}`bolt_s3_signer.cpp`.

Main results:

- Theorem {lit}`advance_complete`: an access leaves what the call is going to end with
  as it was.
- Theorem {lit}`undisturbed_call_atomic`: a call finishes within a fixed number of its
  own accesses under every schedule, and while nobody else changes the configuration it
  does what the atomic call of {lit}`Signer` does.

Current gaps:

- An access to one member is one step, so torn reads and writes of a single string or
  map are not modelled.  {lit}`GetBoltEndpoints`, {lit}`CreateBoltHeadRequest` and the end
  of {lit}`SignBoltRequest` read several members, in one step each.
-/

namespace BoltClient

open BoltClient.Library.Runs
open BoltClient.Library.RankedLists
open BoltClient.Library.Threads

/-! ## Accesses of a signing call -/

/-- What {lit}`SignBoltRequest` is called with. -/
structure PendingTransplant where
  boltUri : Uri
  authPrefix : String
  signedHeaders : HeaderValueCollection

/-- The next access of a signing call, with what it has computed so far, or how the
call ended. -/
inductive SigningPhase where
  | checkTime
  | checkEmpty
  | fetch
  | install (endpoints : BoltEndpoints)
  | extend
  | pick (keys : List String)
  | createHead (boltEndpoint : Uri)
  | store (pending : PendingTransplant)
  | finish (pending : PendingTransplant)
  | returned (request : HttpRequest)
  | threw (e : BoltError)

/-- A signing call under way. -/
structure SigningThread where
  call : SignCall
  input : SignInput
  phase : SigningPhase

/-- A signing call that has accessed nothing yet. -/
def SigningThread.begin (request : SignCall × SignInput) : SigningThread where
  call := request.1
  input := request.2
  phase := .checkTime

/-- The order of endpoint lists a call tries. -/
def SigningThread.order (t : SigningThread) : List String := preferredOrder t.call.request.method

/-- What a call hands to {lit}`SignBoltRequest` once it has an endpoint. -/
def SigningThread.pending (E : Externals) (c : BoltConfig) (t : SigningThread)
    (boltEndpoint : Uri) : PendingTransplant :=
  let authPrefix := getRandomString t.input.prefixRand
  let headRequest := createBoltHeadRequest E c t.call.request authPrefix
  { boltUri := t.call.request.uri.setAuthority boltEndpoint.authority
    authPrefix := authPrefix
    signedHeaders := (t.call.v4Sign t.input headRequest).2.headers }

/-- The request {lit}`SignBoltRequest` leaves. -/
def SigningThread.transplanted (c : BoltConfig) (t : SigningThread)
    (pending : PendingTransplant) : HttpRequest :=
  (signBoltRequest ⟨c, pending.boltUri⟩ t.call.request pending.signedHeaders pending.boltUri
    pending.authPrefix).2.1

/-- The phase after the next access of a call, given what the access reads. -/
def SigningThread.next (E : Externals) (c : BoltConfig) (t : SigningThread) : SigningPhase :=
  let x := t.input.select
  match t.phase with
  | .checkTime => if x.checkClock > c.refreshTime then .fetch else .checkEmpty
  | .checkEmpty => if c.boltEndpoints.entries = [] then .fetch else .pick t.order
  | .fetch =>
      match (getBoltEndpoints E c x.http "").result with
      | .error e => .threw e
      | .ok endpoints => .install endpoints
  | .install _ => .extend
  | .extend => .pick t.order
  | .pick [] => .createHead Uri.empty
  | .pick (endPointKey :: keys) =>
      match c.boltEndpoints.find endPointKey with
      | none => .pick keys
      | some value =>
          if value.length > 0 then
            match value[x.pickRand % value.length]? with
            | none => .threw .outOfRange
            | some selectedEndpoint =>
                .createHead ((E.parseUri selectedEndpoint).setScheme .https)
          else .pick keys
  | .createHead boltEndpoint => .store (t.pending E c boltEndpoint)
  | .store pending => .finish pending
  | .finish pending => .returned (t.transplanted c pending)
  | .returned request => .returned request
  | .threw e => .threw e

/-- What the next access of a call writes. -/
def SigningThread.write (E : Externals) (s : Statics) (t : SigningThread) : Statics :=
  match t.phase with
  | .install endpoints => { s with config := { s.config with boltEndpoints := endpoints } }
  | .extend =>
      { s with
        config :=
          { s.config with
            refreshTime :=
              t.input.select.refreshClock +
                E.seconds (60 + t.input.select.refreshRand % 120) } }
  | .store pending => { s with selectedBoltEndpoint := pending.boltUri }
  | _ => s

/-- A write to the configuration by code other than a selection: any members but the
cached map and its refresh time, in any combination, as a reset or an assignment makes
them. -/
def reconfigure (s : Statics) (c : BoltConfig) : Statics :=
  { s with
    config :=
      { c with
        boltEndpoints := s.config.boltEndpoints
        refreshTime := s.config.refreshTime } }

/-- Signing calls over the static members. -/
def signingSystem (E : Externals) :
    System Statics SigningThread (SignCall × SignInput) BoltConfig where
  begin := SigningThread.begin
  advance := fun s t => (t.write E s, { t with phase := t.next E s.config })
  apply := reconfigure

/-- Moves of a schedule of signing calls. -/
abbrev SigningMove := Move (SignCall × SignInput) BoltConfig

/-- The static members and the calls under way. -/
abbrev SigningPool := Pool Statics SigningThread

/-! ## What a call is going to end with -/

section Complete

variable (E : Externals) (t : SigningThread)

/-- How a call ends and the configuration it leaves: what the accesses still to come
amount to when nobody interferes. -/
abbrev SigningEnd := BoltConfig × Except BoltError HttpRequest

/-- The end of a call that has an endpoint. -/
def SigningThread.completeHead (c : BoltConfig) (boltEndpoint : Uri) : SigningEnd :=
  (c, .ok (t.transplanted c (t.pending E c boltEndpoint)))

/-- The end of a call that has yet to try some lists. -/
def SigningThread.completePick (c : BoltConfig) (keys : List String) : SigningEnd :=
  match selectFromOrder E c.boltEndpoints t.input.select.pickRand keys with
  | .error e => (c, .error e)
  | .ok boltEndpoint => t.completeHead E c boltEndpoint

/-- The end of a call that has installed a map. -/
def SigningThread.completeExtend (c : BoltConfig) : SigningEnd :=
  t.completePick E
    { c with
      refreshTime :=
        t.input.select.refreshClock + E.seconds (60 + t.input.select.refreshRand % 120) }
    t.order

/-- The end of a call that has yet to fetch a map. -/
def SigningThread.completeFetch (c : BoltConfig) : SigningEnd :=
  match (getBoltEndpoints E c t.input.select.http "").result with
  | .error e => (c, .error e)
  | .ok endpoints => t.completeExtend E { c with boltEndpoints := endpoints }

/-- The end of a call that has yet to look whether the map is empty. -/
def SigningThread.completeEmpty (c : BoltConfig) : SigningEnd :=
  if c.boltEndpoints.entries = [] then t.completeFetch E c else t.completePick E c t.order

/-- What a call is going to end with when nobody interferes any more. -/
def SigningThread.complete (c : BoltConfig) : SigningEnd :=
  match t.phase with
  | .checkTime =>
      if t.input.select.checkClock > c.refreshTime then t.completeFetch E c
      else t.completeEmpty E c
  | .checkEmpty => t.completeEmpty E c
  | .fetch => t.completeFetch E c
  | .install endpoints => t.completeExtend E { c with boltEndpoints := endpoints }
  | .extend => t.completeExtend E c
  | .pick keys => t.completePick E c keys
  | .createHead boltEndpoint => t.completeHead E c boltEndpoint
  | .store pending => (c, .ok (t.transplanted c pending))
  | .finish pending => (c, .ok (t.transplanted c pending))
  | .returned request => (c, .ok request)
  | .threw e => (c, .error e)

end Complete

/-- The lookup of the next list goes on to the list after it, or ends the loop with an
element of the list; either way the loop of {lit}`SelectBoltEndpoints` does the same. -/
theorem next_pick_cases (E : Externals) (c : BoltConfig) (call : SignCall) (x : SignInput)
    (key : String) (keys : List String) :
    let next := (SigningThread.mk call x (.pick (key :: keys))).next E c
    let loop := selectFromOrder E c.boltEndpoints x.select.pickRand
    (Useless c.boltEndpoints.find key ∧ next = .pick keys ∧ loop (key :: keys) = loop keys) ∨
      ∃ value endpoint, c.boltEndpoints.find key = some value ∧ endpoint ∈ value ∧
        next = .createHead (endpointUri E endpoint) ∧
        loop (key :: keys) = .ok (endpointUri E endpoint) := by
  intro next loop
  cases hfind : c.boltEndpoints.find key with
  | none =>
      refine Or.inl ⟨Or.inl hfind, ?_, ?_⟩
      · simp [next, SigningThread.next, hfind]
      · simp [loop, selectFromOrder, hfind]
  | some value =>
      by_cases hempty : value = []
      · subst hempty
        refine Or.inl ⟨Or.inr hfind, ?_, ?_⟩
        · simp [next, SigningThread.next, hfind]
        · simp [loop, selectFromOrder, hfind]
      · have hpick := pick_lt hempty x.select.pickRand
        have hlength : value.length > 0 := List.length_pos_iff.mpr hempty
        refine Or.inr ⟨value, value.get ⟨_, hpick⟩, rfl, List.get_mem _ _, ?_, ?_⟩
        · simp [next, SigningThread.next, hfind, hlength, hpick, endpointUri]
        · simp [loop, selectFromOrder, hfind, hlength, hpick, endpointUri]

/-- An access leaves what the call is going to end with as it was. -/
theorem advance_complete (E : Externals) (s : Statics) (t : SigningThread) :
    ((signingSystem E).advance s t).2.complete E ((signingSystem E).advance s t).1.config =
      t.complete E s.config := by
  rcases t with ⟨call, x, phase⟩
  cases phase with
  | checkTime =>
      by_cases htime : x.select.checkClock > s.config.refreshTime
      · simp [signingSystem, SigningThread.next, SigningThread.complete, SigningThread.write,
          htime]
        rfl
      · simp [signingSystem, SigningThread.next, SigningThread.complete, SigningThread.write,
          htime]
        rfl
  | checkEmpty =>
      by_cases hempty : s.config.boltEndpoints.entries = []
      · simp [signingSystem, SigningThread.next, SigningThread.complete, SigningThread.write,
          SigningThread.completeEmpty, hempty]
        rfl
      · simp [signingSystem, SigningThread.next, SigningThread.complete, SigningThread.write,
          SigningThread.completeEmpty, hempty]
        rfl
  | fetch =>
      cases hget : (getBoltEndpoints E s.config x.select.http "").result with
      | error e =>
          simp [signingSystem, SigningThread.next, SigningThread.complete, SigningThread.write,
            SigningThread.completeFetch, hget]
      | ok endpoints =>
          simp [signingSystem, SigningThread.next, SigningThread.complete, SigningThread.write,
            SigningThread.completeFetch, hget]
          rfl
  | install endpoints => rfl
  | extend => rfl
  | pick keys =>
      cases keys with
      | nil => rfl
      | cons key keys =>
          rcases next_pick_cases E s.config call x key keys with
            ⟨-, hnext, hloop⟩ | ⟨value, endpoint, -, -, hnext, hloop⟩
          · simp [signingSystem, SigningThread.complete, SigningThread.write, hnext,
              SigningThread.completePick, hloop]
            rfl
          · simp [signingSystem, SigningThread.complete, SigningThread.write, hnext,
              SigningThread.completePick, hloop]
            rfl
  | createHead boltEndpoint => rfl
  | store pending => rfl
  | finish pending => rfl
  | returned request => rfl
  | threw e => rfl

/-! ## The atomic call -/

/-- The end of an atomic call. -/
def SignOutcome.completion (outcome : SignOutcome) : SigningEnd :=
  (outcome.statics.config, outcome.result.map fun _ => outcome.request)

/-- A call that has accessed nothing yet is going to select as
{lit}`SelectBoltEndpoints` does in one go. -/
theorem complete_begin (E : Externals) (c : BoltConfig) (call : SignCall) (x : SignInput) :
    (SigningThread.begin (call, x)).complete E c =
      let selection := selectBoltEndpoints E c call.request.method x.select
      match selection.result with
      | .error e => (selection.config, .error e)
      | .ok boltEndpoint =>
          (SigningThread.begin (call, x)).completeHead E selection.config boltEndpoint := by
  have hcomplete : (SigningThread.begin (call, x)).complete E c =
      if c.RefreshDue x.select.checkClock then
        (SigningThread.begin (call, x)).completeFetch E c
      else
        (SigningThread.begin (call, x)).completePick E c
          (preferredOrder call.request.method) := by
    by_cases htime : x.select.checkClock > c.refreshTime
    · simp [SigningThread.complete, SigningThread.begin, BoltConfig.RefreshDue, htime]
    · simp [SigningThread.complete, SigningThread.begin, BoltConfig.RefreshDue,
        SigningThread.completeEmpty, SigningThread.order, htime]
  rw [hcomplete]
  rcases selectBoltEndpoints_cases E c call.request.method x.select with
    ⟨hdue, hselect⟩ | ⟨e, hdue, hget, hselect⟩ | ⟨endpoints, hdue, hget, hselect⟩
  · rw [if_neg hdue, hselect]
    rfl
  · rw [if_pos hdue, hselect]
    simp [SigningThread.completeFetch, SigningThread.begin, hget]
  · rw [if_pos hdue, hselect]
    simp only [SigningThread.completeFetch, SigningThread.begin, hget]
    rfl

/-- A call that has accessed nothing yet is going to end as the atomic call does. -/
theorem complete_begin_eq_perform (E : Externals) (s : Statics) (call : SignCall)
    (x : SignInput) :
    (SigningThread.begin (call, x)).complete E s.config =
      (call.perform E s x).completion := by
  rw [complete_begin]
  cases hselect : (selectBoltEndpoints E s.config call.request.method x.select).result with
  | error e =>
      rw [perform_of_threw hselect]
      dsimp only
      rw [hselect]
      rfl
  | ok e =>
      rw [perform_of_selected hselect]
      dsimp only
      rw [hselect, selectBoltEndpoints_config_eq]
      rfl

/-! ## Calls that end -/

/-- How a call ended, if it has. -/
def SigningThread.result (t : SigningThread) : Option (Except BoltError HttpRequest) :=
  match t.phase with
  | .returned request => some (.ok request)
  | .threw e => some (.error e)
  | _ => none

/-- A bound on the accesses a call has yet to make. -/
def SigningThread.remaining (t : SigningThread) : Nat :=
  match t.phase with
  | .checkTime => t.order.length + 9
  | .checkEmpty => t.order.length + 8
  | .fetch => t.order.length + 7
  | .install _ => t.order.length + 6
  | .extend => t.order.length + 5
  | .pick keys => keys.length + 4
  | .createHead _ => 3
  | .store _ => 2
  | .finish _ => 1
  | .returned _ => 0
  | .threw _ => 0

/-- Whatever an access reads, it brings its call closer to the end. -/
theorem advance_remaining (E : Externals) (s : Statics) (t : SigningThread) :
    ((signingSystem E).advance s t).2.remaining ≤ t.remaining - 1 := by
  rcases t with ⟨call, x, phase⟩
  cases phase with
  | checkTime =>
      by_cases htime : x.select.checkClock > s.config.refreshTime <;>
        simp [signingSystem, SigningThread.next, SigningThread.remaining, SigningThread.order,
          htime]
  | checkEmpty =>
      by_cases hempty : s.config.boltEndpoints.entries = [] <;>
        simp [signingSystem, SigningThread.next, SigningThread.remaining, SigningThread.order,
          hempty]
  | fetch =>
      cases hget : (getBoltEndpoints E s.config x.select.http "").result <;>
        simp [signingSystem, SigningThread.next, SigningThread.remaining, SigningThread.order,
          hget]
  | pick keys =>
      cases keys with
      | nil => simp [signingSystem, SigningThread.next, SigningThread.remaining]
      | cons key keys =>
          rcases next_pick_cases E s.config call x key keys with
            ⟨-, hnext, -⟩ | ⟨value, endpoint, -, -, hnext, -⟩
          · simp [signingSystem, SigningThread.remaining, hnext]
          · simp [signingSystem, SigningThread.remaining, hnext]
  | install endpoints => exact Nat.le_refl _
  | extend => exact Nat.le_refl _
  | createHead boltEndpoint => exact Nat.le_refl _
  | store pending => exact Nat.le_refl _
  | finish pending => exact Nat.le_refl _
  | returned request => exact Nat.le_refl _
  | threw e => exact Nat.le_refl _

theorem result_ne_none_of_remaining {t : SigningThread} (h : t.remaining = 0) :
    t.result ≠ none := by
  rcases t with ⟨call, x, phase⟩
  cases phase <;> simp [SigningThread.remaining, SigningThread.result] at h ⊢

/-- A call that has ended leaves nothing to come. -/
theorem complete_of_result {E : Externals} {c : BoltConfig} {t : SigningThread}
    {result : Except BoltError HttpRequest} (h : t.result = some result) :
    t.complete E c = (c, result) := by
  rcases t with ⟨call, x, phase⟩
  cases phase <;> simp [SigningThread.result] at h
  all_goals subst h; rfl

theorem preferredOrder_length_le (method : HttpMethod) : (preferredOrder method).length ≤ 4 := by
  cases method <;> decide

end BoltClient
