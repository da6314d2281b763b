import BoltClient.Process

/-!
# Which endpoint a request is sent to

The signing of a request tells its sending through a single variable of the
process where the connection has to go.  A request is pinned to the endpoint it
was signed for as long as no other signing has overwritten that variable with
something the override can tell apart.

Main results:

- Theorem {lit}`sends_pinned_iff`: all requests of a run are pinned to their own
  endpoints exactly when the last signing before each of them is interchangeable
  with their own.
- Theorem {lit}`send_pinned_of_no_signing_between`: a request sent before
  anything else is signed is pinned.

Current gaps:

- What libcurl does with the options is not modelled.
-/

namespace BoltClient

open BoltClient.Library.Runs
open BoltClient.Library.Registers

variable {E : Externals} {p : Process}

/-- Every signed request of the run is sent with the override it needs: its own
endpoint pinned under the Bolt host name, and that name in its URL. -/
def SendsPinned (E : Externals) (p : Process) (ops : List ProcessOp) : Prop :=
  AtEachStep (fun before op => ∀ id uri, op = .send id →
    (processRun E p before).signed id = some uri →
    sentHandle E (processRun E p before) uri =
      pinnedHandle E (processRun E p before).statics.config.boltHostName uri) ops

/-- Whenever a signed request of the run is sent, the last signing before it, of
whatever request, left a URI interchangeable with the request's own. -/
def LastSignedInterchangeable (E : Externals) (p : Process) (ops : List ProcessOp) : Prop :=
  AtEachStep (fun before op => ∀ id uri, op = .send id →
    (processRun E p before).signed id = some uri →
    ∃ last, lastSigned E p before = some last ∧
      Interchangeable E (processRun E p before).statics.config.boltHostName last uri) ops

/-- One request is pinned exactly when the last signed URI is interchangeable
with its own. -/
theorem send_pinned_iff (hstart : ∀ id, p.signed id = none) {before : List ProcessOp}
    {id : Nat} {uri : Uri} (hsigned : (processRun E p before).signed id = some uri) :
    sentHandle E (processRun E p before) uri =
        pinnedHandle E (processRun E p before).statics.config.boltHostName uri ↔
      ∃ last, lastSigned E p before = some last ∧
        Interchangeable E (processRun E p before).statics.config.boltHostName last uri := by
  have hlast := signed_lastSigned hstart hsigned
  unfold sentHandle
  rw [override_pins_iff, hlast]
  constructor
  · intro h
    exact ⟨_, rfl, h⟩
  · rintro ⟨last, hsome, h⟩
    rw [Option.some.inj hsome]
    exact h

/-- A request sent before another signing succeeds is pinned to its own
endpoint. -/
theorem send_pinned_of_no_signing_between {before mid : List ProcessOp} {id : Nat}
    {call : SignCall} {x : SignInput} {uri : Uri}
    (hsign : signedUri E (processRun E p before) (.sign id call x) = some uri)
    (hmid : lastSigned E (processRun E p (before ++ [.sign id call x])) mid = none) :
    sentHandle E (processRun E p (before ++ .sign id call x :: mid)) uri =
      pinnedHandle E
        (processRun E p (before ++ .sign id call x :: mid)).statics.config.boltHostName uri := by
  have hlast : lastSigned E p (before ++ .sign id call x :: mid) = some uri :=
    lastWrite_eq_some_iff.mpr ⟨before, _, mid, rfl, hsign, hmid⟩
  unfold sentHandle
  rw [override_pins_iff, run_selectedBoltEndpoint, hlast]
  exact ⟨rfl, rfl, rfl⟩

/-- In every run of a process, all signed requests are pinned to the endpoints
they were signed for exactly when the last signing before each sending left a
URI interchangeable with that of the request sent. -/
theorem sends_pinned_iff (E : Externals) (env : String → Option String) (start : Time)
    (ops : List ProcessOp) :
    SendsPinned E (Process.initial E env start) ops ↔
      LastSignedInterchangeable E (Process.initial E env start) ops := by
  refine atEachStep_congr ?_
  intro before op after _
  constructor
  · intro h id uri hop hsigned
    exact (send_pinned_iff (fun _ => rfl) hsigned).mp (h id uri hop hsigned)
  · intro h id uri hop hsigned
    exact (send_pinned_iff (fun _ => rfl) hsigned).mpr (h id uri hop hsigned)

/-- Of two requests signed one after the other, the first is sent to the raw
address of its endpoint. -/
theorem first_of_two_not_pinned :
    ¬SendsPinned sampleExternals (Process.initial sampleExternals sampleEnv 0)
      [.sign 1
          (sampleCall (.signRequest true) .httpGet "https://s3.us-east-1.amazonaws.com/bucket/a")
          (sampleSignInput 1000 (sampleResponse 0) sampleV4),
        .sign 2
          (sampleCall (.signRequest true) .httpPut "https://s3.us-east-1.amazonaws.com/bucket/b")
          (sampleSignInput 1500 (sampleResponse 0) sampleV4),
        .send 1] := by
  intro h
  have hpinned := h
    [.sign 1
        (sampleCall (.signRequest true) .httpGet "https://s3.us-east-1.amazonaws.com/bucket/a")
        (sampleSignInput 1000 (sampleResponse 0) sampleV4),
      .sign 2
        (sampleCall (.signRequest true) .httpPut "https://s3.us-east-1.amazonaws.com/bucket/b")
        (sampleSignInput 1500 (sampleResponse 0) sampleV4)]
    (.send 1) [] rfl 1 ⟨.https, "10.0.0.1", 443, "/bucket/a", ""⟩ rfl (by rfl)
  exact absurd hpinned (by decide +kernel)

end BoltClient
